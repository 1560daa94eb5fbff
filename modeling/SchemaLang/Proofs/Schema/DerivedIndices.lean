import Mathlib.Data.List.Nodup
import SchemaLang.Proofs.Output.Naming
import SchemaLang.Proofs.Pairing.Compiled

/-!
# Derived indices

Each foreign key of a model is given an index, unless the model has one of that name already. So all
names are in use afterwards, and indices are derived once only. What is skipped is decided by names,
though, and what is covered by columns: a key stays uncovered if the index that bears the name is on
other columns. The names tell the places of the tables, and behind them the columns.

## Key results

- `Model.deriveIndices_deriveIndices`: indices are derived once only
- `Model.isCovered_deriveIndices_eq_false_iff`: which keys stay uncovered
- `derivesIndices_map`: what becomes of the indices of a list of models
-/

namespace SchemaLang

namespace Model

variable {m : Model} {f : Field}

/-- The name of the index on the column is in use. -/
def UsesColumnName (m : Model) (column : String) : Prop :=
  ∃ ix ∈ m.indices, ix.name = columnIndexName m.id column

/-- An index is missing for each key whose index has a name that is not in use. -/
theorem mem_missingIndices {ix : Index} :
    ix ∈ m.missingIndices ↔
      ∃ f ∈ m.foreignKeyFields, ¬ m.UsesColumnName f.name ∧ ix = columnIndex m.id f.name := by
  rw [missingIndices, List.mem_filter, List.mem_map]
  constructor
  · rintro ⟨⟨f, hf, rfl⟩, hunused⟩
    refine ⟨f, hf, ?_, rfl⟩
    rintro ⟨ix, hix, hname⟩
    simp only [Bool.not_eq_true', List.any_eq_false, beq_iff_eq] at hunused
    exact hunused ix hix hname
  · rintro ⟨f, hf, hunused, rfl⟩
    refine ⟨⟨f, hf, rfl⟩, ?_⟩
    simp only [Bool.not_eq_true', List.any_eq_false, beq_iff_eq]
    exact fun ix hix hname => hunused ⟨ix, hix, hname⟩

/-- Once indices have been derived, the names of the indices on keys are in use. -/
theorem usesColumnName_deriveIndices (hf : f ∈ m.foreignKeyFields) :
    m.deriveIndices.UsesColumnName f.name := by
  by_cases hused : m.UsesColumnName f.name
  · obtain ⟨ix, hix, hname⟩ := hused
    exact ⟨ix, List.mem_append_left _ hix, hname⟩
  · have hmissing : columnIndex m.id f.name ∈ m.missingIndices :=
      mem_missingIndices.mpr ⟨f, hf, hused, rfl⟩
    exact ⟨columnIndex m.id f.name, List.mem_append_right _ hmissing, rfl⟩

/-- No index is missing where the names of the indices on keys are in use. -/
theorem deriveIndices_eq_self (hused : ∀ f ∈ m.foreignKeyFields, m.UsesColumnName f.name) :
    m.deriveIndices = m := by
  have hnil : m.missingIndices = [] := by
    refine List.eq_nil_iff_forall_not_mem.mpr fun ix hix => ?_
    obtain ⟨f, hf, hunused, -⟩ := mem_missingIndices.mp hix
    exact hunused (hused f hf)
  rw [deriveIndices, hnil, List.append_nil]

/-- Indices are derived once only. -/
theorem deriveIndices_deriveIndices (m : Model) :
    m.deriveIndices.deriveIndices = m.deriveIndices :=
  deriveIndices_eq_self fun _ hf => usesColumnName_deriveIndices (m := m) hf

theorem isCovered_eq_false_iff {column : String} :
    m.isCovered column = false ↔ ∀ ix ∈ m.indices, column ∉ ix.columns := by
  simp [isCovered, Index.covers]

/-- A key stays uncovered if the name of its index is that of an index on other columns. -/
theorem isCovered_deriveIndices_eq_false_iff (hf : f ∈ m.foreignKeyFields) :
    m.deriveIndices.isCovered f.name = false ↔
      m.UsesColumnName f.name ∧ m.isCovered f.name = false := by
  simp only [isCovered_eq_false_iff]
  constructor
  · intro huncovered
    refine ⟨?_, fun ix hix => huncovered ix (List.mem_append_left _ hix)⟩
    by_contra hunused
    have hmissing : columnIndex m.id f.name ∈ m.missingIndices :=
      mem_missingIndices.mpr ⟨f, hf, hunused, rfl⟩
    exact huncovered _ (List.mem_append_right _ hmissing) (List.mem_singleton.mpr rfl)
  · rintro ⟨hused, huncovered⟩ ix hix
    rcases List.mem_append.mp hix with hix | hix
    · exact huncovered ix hix
    · -- Another key of that name would call for the same index, and find its name in use.
      obtain ⟨g, -, hunused, rfl⟩ := mem_missingIndices.mp hix
      intro hcolumn
      rw [columnIndex, List.mem_singleton] at hcolumn
      exact hunused (hcolumn ▸ hused)

end Model

/-! ## Names of derived indices -/

/-- Behind the scope of a model, the name of an index is that of its column. -/
theorem columnIndexName_injective (id : String) : Function.Injective (columnIndexName id) :=
  fun _ _ h => (String.append_right_inj _).mp h

/-- The name of the index on a column tells the place of the table. -/
theorem seq_eq_of_columnIndexName_eq {seq seq' : Nat} {name name' column column' : String}
    (h : columnIndexName (canonicalId seq name) column =
      columnIndexName (canonicalId seq' name') column') : seq = seq' := by
  have htable (id : String) : ({} : TableNaming).tableOf id = Text.lower id := by
    simp [TableNaming.tableOf, LetterCase.apply]
  simp only [columnIndexName, String.append_assoc, String.append_right_inj] at h
  rw [← htable, ← htable] at h
  exact TableNaming.seq_eq_of_tableOf_append _ h

namespace Model

/-- The indices that are derived for the columns of a model have names of their own. -/
theorem nodup_name_missingIndices {m : Model} (hnames : (m.fields.map (·.name)).Nodup) :
    (m.missingIndices.map (·.name)).Nodup := by
  have hkeys : (m.foreignKeyFields.map (·.name)).Nodup :=
    hnames.sublist (List.filter_sublist.map _)
  have hall : ((m.foreignKeyFields.map fun f => columnIndex m.id f.name).map (·.name)).Nodup := by
    rw [List.map_map]
    have := hkeys.map (columnIndexName_injective m.id)
    rwa [List.map_map] at this
  exact hall.sublist (List.filter_sublist.map _)

end Model

/-- The identifiers of the models are those of tables in different places. -/
def HavePlaces (models : List Model) : Prop :=
  ∃ places : List Nat, places.Nodup ∧
    List.Forall₂ (fun m seq => ∃ name, m.id = canonicalId seq name) models places

theorem models_ofChecked (source : String) :
    (Schema.ofChecked source).models = (Schema.draftModels source).map Model.deriveIndices := rfl

/-- The tables of a source stand in different places. -/
theorem havePlaces_draftModels (source : String) : HavePlaces (Schema.draftModels source) := by
  refine ⟨(List.range (Schema.draftModels source).length).map (1 + ·),
    List.nodup_range.map fun _ _ => Nat.add_left_cancel, ?_⟩
  refine List.forall₂_iff_get.mpr ⟨by simp, fun i hi hi' => ?_⟩
  have hm := List.getElem?_eq_getElem hi
  obtain ⟨d, b, hd, -, hmodel⟩ := List.getElem?_zipWith_eq_some.mp hm
  have hid : ((Schema.draftModels source).get ⟨i, hi⟩).id = canonicalId (1 + i) d.name := by
    rw [List.get_eq_getElem, ← hmodel, ← TableDraft.id_of_getElem?_ofSource hd]
    rfl
  exact ⟨d.name, by simpa using hid⟩

/-- The indices that stand behind those of the models. -/
def appendedIndices (models derived : List Model) : List Index :=
  (models.zipWith (fun m made => made.indices.drop m.indices.length) derived).flatten

/-- What becomes of the indices of models. -/
structure DerivesIndices (models derived : List Model) : Prop where
  /-- The indices of a model stay in front, and nothing else changes. -/
  kept : List.Forall₂
    (fun m made => m.indices <+: made.indices ∧ made = { m with indices := made.indices })
    models derived
  again : derived.map Model.deriveIndices = derived
  uncovered : List.Forall₂
    (fun m made => ∀ f ∈ made.foreignKeyFields, made.isCovered f.name = false ↔
      m.UsesColumnName f.name ∧ m.isCovered f.name = false)
    models derived
  distinct : HavePlaces models → (∀ m ∈ models, (m.fields.map (·.name)).Nodup) →
    ((appendedIndices models derived).map (·.name)).Nodup

theorem appendedIndices_map (models : List Model) :
    appendedIndices models (models.map Model.deriveIndices) =
      models.flatMap Model.missingIndices := by
  have hdrop (m : Model) : m.deriveIndices.indices.drop m.indices.length = m.missingIndices :=
    List.drop_left
  rw [appendedIndices, List.zipWith_map_right, List.zipWith_self, List.flatMap_def]
  exact congrArg List.flatten (List.map_congr_left fun m _ => hdrop m)

/-- The indices that are derived for tables in different places have names of their own. -/
theorem nodup_name_flatMap_missingIndices {models : List Model} {places : List Nat}
    (hplaces : places.Nodup)
    (hids : List.Forall₂ (fun m seq => ∃ name, m.id = canonicalId seq name) models places)
    (hnames : ∀ m ∈ models, (m.fields.map (·.name)).Nodup) :
    ((models.flatMap Model.missingIndices).map (·.name)).Nodup := by
  induction hids with
  | nil => exact List.nodup_nil
  | @cons m seq models places hid hids ih =>
    obtain ⟨hseq, hplaces⟩ := List.nodup_cons.mp hplaces
    obtain ⟨hm, hmodels⟩ := List.forall_mem_cons.mp hnames
    rw [List.flatMap_cons, List.map_append, List.nodup_append']
    refine ⟨m.nodup_name_missingIndices hm, ih hplaces hmodels, ?_⟩
    -- A name in both parts would tell one place for two tables.
    intro indexName hfront hback
    obtain ⟨ix, hix, rfl⟩ := List.mem_map.mp hfront
    obtain ⟨f, -, -, rfl⟩ := Model.mem_missingIndices.mp hix
    obtain ⟨ix', hix', hname⟩ := List.mem_map.mp hback
    obtain ⟨m', hm', hmissing⟩ := List.mem_flatMap.mp hix'
    obtain ⟨f', -, -, rfl⟩ := Model.mem_missingIndices.mp hmissing
    obtain ⟨seq', hseq', name', hid'⟩ := hids.exists_mem hm'
    obtain ⟨name, hid⟩ := hid
    rw [columnIndex, columnIndex, hid, hid'] at hname
    exact hseq (seq_eq_of_columnIndexName_eq hname ▸ hseq')

/-- Deriving indices appends them, once and for all, and under names of their own. -/
theorem derivesIndices_map (models : List Model) :
    DerivesIndices models (models.map Model.deriveIndices) := by
  constructor
  case kept =>
    refine List.forall₂_map_right_iff.mpr (List.forall₂_same.mpr fun m _ => ?_)
    exact ⟨List.prefix_append _ _, rfl⟩
  case again =>
    rw [List.map_map]
    exact List.map_congr_left fun m _ => m.deriveIndices_deriveIndices
  case uncovered =>
    refine List.forall₂_map_right_iff.mpr (List.forall₂_same.mpr fun m _ f hf => ?_)
    exact Model.isCovered_deriveIndices_eq_false_iff (m := m) hf
  case distinct =>
    rintro ⟨places, hplaces, hids⟩ hnames
    rw [appendedIndices_map]
    exact nodup_name_flatMap_missingIndices hplaces hids hnames

/-- Calls at ports, with an index on one key that bears the name of the index on the other one. -/
def callsAtPorts : String :=
  "table Port \x7b
id Int [pk]
call_hub_id Int [ref: > Port.id]
\x7d
table Port_Call \x7b
hub_id Int [ref: > Port.id]
port_id Int [ref: > Port.id]
index ix_s002_port_call_hub_id [port_id]
\x7d"

theorem derivesIndices_map_callsAtPorts :
    ∃ s models, compile callsAtPorts = .ok s ∧ models = Schema.draftModels callsAtPorts ∧
      HavePlaces models ∧ (∀ m ∈ models, (m.fields.map (·.name)).Nodup) ∧
      (appendedIndices models s.models).map (·.name) =
        ["ix_s001_port_call_hub_id", "ix_s002_port_call_port_id"] ∧
      (s.models.flatMap fun m => (m.foreignKeyFields.map (·.name)).filter (!m.isCovered ·)) =
        ["hub_id"] ∧
      DerivesIndices models s.models := by
  let models := Schema.draftModels callsAtPorts
  let s := Schema.ofChecked callsAtPorts
  obtain ⟨hchecked, hnames, happended, huncovered⟩ : checkSource callsAtPorts = .ok () ∧
      (∀ m ∈ models, (m.fields.map (·.name)).Nodup) ∧
      (appendedIndices models s.models).map (·.name) =
        ["ix_s001_port_call_hub_id", "ix_s002_port_call_port_id"] ∧
      (s.models.flatMap fun m => (m.foreignKeyFields.map (·.name)).filter (!m.isCovered ·)) =
        ["hub_id"] := by
    decide +kernel
  have hderives : DerivesIndices models s.models :=
    models_ofChecked callsAtPorts ▸ derivesIndices_map models
  exact ⟨s, models, compile_eq_ok_iff.mpr ⟨hchecked, rfl⟩, rfl, havePlaces_draftModels callsAtPorts,
    hnames, happended, huncovered, hderives⟩

end SchemaLang
