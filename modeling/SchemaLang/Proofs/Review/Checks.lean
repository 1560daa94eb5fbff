import SchemaLang.Proofs.Review.Repeats
import SchemaLang.Review.Report

/-!
# What each check of a review demands

A review is a list of checks. For each check this module says when it reports nothing; where a check
passes over something that another one reports, its condition is stated under what that other check
demands.

## Key results

- `isValid_iff_unreported`: a schema is valid iff every check, taken by itself, reports nothing
- `…Violations_eq_nil_iff`: one lemma for each check
- `exists_primaryKey_of_isValid`, `exists_target_of_isValid`, `exists_inverse_of_isValid`: what later
  stages rely on in a valid schema
-/

namespace SchemaLang

/-! ## The checks of one model -/

namespace Model

variable {s : Schema} {m : Model} {f : Field} {r : Relationship}

/-- Field names are distinct. -/
theorem fieldNameViolations_eq_nil_iff :
    m.fieldNameViolations = [] ↔ (m.fields.map (·.name)).Nodup := by
  rw [fieldNameViolations, List.map_eq_nil_iff, repeats_eq_nil_iff]

/-- Exactly one field is a primary key. -/
theorem primaryKeyViolations_eq_nil_iff :
    m.primaryKeyViolations = [] ↔ ∃ key, m.primaryKeys = [key] := by
  rw [primaryKeyViolations]
  cases m.primaryKeys with
  | nil => simp
  | cons key rest => cases rest <;> simp

/-- A foreign key leads to a column of its own type that is a key. -/
theorem foreignKeyViolations_eq_nil_iff :
    m.foreignKeyViolations s f = [] ↔
      ∃ target key, s.resolveForeignKey? f = some (target, key) ∧ f.type = key.type ∧
        (key.primaryKey = true ∨ key.unique = true) := by
  rw [foreignKeyViolations]
  -- The check stops where the resolution of the key does: at its form, its table or its column.
  cases hparts : f.foreignKeyParts? with
  | none => simp [Schema.resolveForeignKey?, hparts]
  | some parts =>
    obtain ⟨table, column⟩ := parts
    cases htable : s.modelByTable? table with
    | none => simp [Schema.resolveForeignKey?, hparts, htable]
    | some target =>
      cases hkey : s.resolveForeignKey? f with
      | none => simp [htable]
      | some found =>
        obtain ⟨_, key⟩ := found
        cases hprimary : key.primaryKey <;> simp [htable, hprimary]

/-- An index has columns, all of them fields of the model. -/
theorem indexViolations_eq_nil_iff {ix : Index} :
    m.indexViolations ix = [] ↔
      ix.columns ≠ [] ∧ ∀ column ∈ ix.columns, ∃ f ∈ m.fields, f.name = column := by
  rw [indexViolations, List.append_eq_nil_iff, List.map_eq_nil_iff, List.filter_eq_nil_iff]
  refine and_congr ?_ (forall₂_congr fun column _ => ?_)
  · cases ix.columns <;> simp
  · simp [field?]

/-- Every foreign key is a column of an index. -/
theorem coverageViolations_eq_nil_iff :
    m.coverageViolations = [] ↔
      ∀ f ∈ m.foreignKeyFields, ∃ ix ∈ m.indices, f.name ∈ ix.columns := by
  rw [coverageViolations, List.map_eq_nil_iff, List.filter_eq_nil_iff]
  refine forall₂_congr fun f _ => ?_
  simp [isCovered, Index.covers]

/-- Every relationship leads to a model. -/
theorem targetViolations_eq_nil_iff :
    m.targetViolations s = [] ↔ ∀ r ∈ m.relationships, ∃ target, s.model? r.target = some target := by
  rw [targetViolations, List.map_eq_nil_iff, List.filter_eq_nil_iff]
  refine forall₂_congr fun r _ => ?_
  simp only [Bool.not_eq_true, Option.isNone_eq_false_iff, Option.isSome_iff_exists]

/-- Relationship names are distinct, also from the columns. -/
theorem relationshipNameViolations_eq_nil_iff :
    m.relationshipNameViolations = [] ↔
      (m.relationships.map (·.name)).Nodup ∧
        ∀ r ∈ m.relationships, ∀ f ∈ m.fields, f.name ≠ r.name := by
  -- The check runs over relationships with the earlier ones of their names.
  have hfst : ∀ p : Relationship → Prop,
      (∀ e ∈ withEarlier Relationship.name m.relationships, p e.1) ↔
        ∀ r ∈ m.relationships, p r := fun p => by
    rw [← List.forall_mem_map, map_fst_withEarlier]
  rw [relationshipNameViolations, List.flatMap_eq_nil_iff, ← forall_withEarlier_iff, ← hfst,
    ← forall₂_and]
  refine forall₂_congr fun e _ => ?_
  rw [List.append_eq_nil_iff]
  simp [field?]

/-- No two relationships that name their other side share it. -/
theorem backReferenceViolations_eq_nil_iff :
    m.backReferenceViolations = [] ↔
      (m.namedBackReferences.map fun r => (r.target, r.backPopulates)).Nodup := by
  rw [backReferenceViolations, List.map_eq_nil_iff, repeats_eq_nil_iff]

/-- A relationship that leads to a model names its other side there, which points back. -/
theorem pairViolations_eq_nil_iff {target : Model} (htarget : s.model? r.target = some target) :
    m.pairViolations s r = [] ↔
      r.backPopulates ≠ "" ∧ ∃ inverse, target.relationship? r.backPopulates = some inverse ∧
        inverse.target = m.id ∧ inverse.backPopulates = r.name := by
  rw [pairViolations, htarget]
  by_cases hempty : r.backPopulates = ""
  · simp [hempty]
  · cases hinverse : target.relationship? r.backPopulates with
    | none => simp [hempty, hinverse]
    | some inverse => simp [hempty, hinverse]

end Model

/-! ## The checks of the whole schema -/

namespace Schema

variable {s : Schema}

/-- Table names are distinct. -/
theorem tableNameViolations_eq_nil_iff :
    s.tableNameViolations = [] ↔ (s.models.map (·.name)).Nodup := by
  rw [tableNameViolations, List.map_eq_nil_iff, repeats_eq_nil_iff]

theorem map_name_ownedIndices (s : Schema) :
    s.ownedIndices.map (·.2.name) = (s.models.flatMap (·.indices)).map (·.name) := by
  simp [ownedIndices, List.map_flatMap, Function.comp_def]

/-- Index names are distinct over all models. -/
theorem indexNameViolations_eq_nil_iff :
    s.indexNameViolations = [] ↔ ((s.models.flatMap (·.indices)).map (·.name)).Nodup := by
  rw [indexNameViolations, List.map_eq_nil_iff, repeats_eq_nil_iff, map_name_ownedIndices]

/-! ## All checks together -/

/-- No check reports anything. -/
structure Unreported (s : Schema) : Prop where
  tableNames : s.tableNameViolations = []
  fieldNames : ∀ m ∈ s.models, m.fieldNameViolations = []
  primaryKeys : ∀ m ∈ s.models, m.primaryKeyViolations = []
  foreignKeys : ∀ m ∈ s.models, ∀ f ∈ m.foreignKeyFields, m.foreignKeyViolations s f = []
  indices : ∀ m ∈ s.models, ∀ ix ∈ m.indices, m.indexViolations ix = []
  indexNames : s.indexNameViolations = []
  coverage : ∀ m ∈ s.models, m.coverageViolations = []
  targets : ∀ m ∈ s.models, m.targetViolations s = []
  relationshipNames : ∀ m ∈ s.models, m.relationshipNameViolations = []
  backReferences : ∀ m ∈ s.models, m.backReferenceViolations = []
  pairs : ∀ m ∈ s.models, ∀ r ∈ m.relationships, m.pairViolations s r = []

/-- A schema is valid iff no check reports anything. -/
theorem isValid_iff_unreported : s.isValid = true ↔ s.Unreported := by
  simp only [isValid, violations, Model.relationshipViolations, List.isEmpty_iff,
    List.append_eq_nil_iff, List.flatMap_eq_nil_iff]
  constructor
  · rintro ⟨⟨⟨⟨⟨⟨htables, hmodels⟩, hkeys⟩, hindices⟩, hnames⟩, hcoverage⟩, hrelations⟩
    exact {
      tableNames := htables
      fieldNames := fun m hm => (hmodels m hm).1
      primaryKeys := fun m hm => (hmodels m hm).2
      foreignKeys := hkeys
      indices := hindices
      indexNames := hnames
      coverage := hcoverage
      targets := fun m hm => (hrelations m hm).1.1.1
      relationshipNames := fun m hm => (hrelations m hm).1.1.2
      backReferences := fun m hm => (hrelations m hm).1.2
      pairs := fun m hm => (hrelations m hm).2 }
  · intro h
    exact ⟨⟨⟨⟨⟨⟨h.tableNames, fun m hm => ⟨h.fieldNames m hm, h.primaryKeys m hm⟩⟩,
      h.foreignKeys⟩, h.indices⟩, h.indexNames⟩, h.coverage⟩,
      fun m hm => ⟨⟨⟨h.targets m hm, h.relationshipNames m hm⟩, h.backReferences m hm⟩,
        h.pairs m hm⟩⟩

/-! ## What later stages rely on -/

variable {m : Model} {f : Field} {r : Relationship}

/-- A model of a valid schema has a primary key. -/
theorem exists_primaryKey_of_isValid (h : s.isValid = true) (hm : m ∈ s.models) :
    ∃ key, m.primaryKey? = some key := by
  obtain ⟨key, hkey⟩ :=
    Model.primaryKeyViolations_eq_nil_iff.mp ((isValid_iff_unreported.mp h).primaryKeys m hm)
  exact ⟨key, by rw [Model.primaryKey?, hkey]⟩

/-- A column of a model has the name of its primary key if and only if it is the primary key. -/
theorem name_primaryKey_eq_iff (h : s.isValid = true) (hm : m ∈ s.models) {key : Field}
    (hkey : m.primaryKey? = some key) (hf : f ∈ m.fields) :
    key.name = f.name ↔ f.primaryKey = true := by
  have hkeys : m.primaryKeys = [key] := by
    rw [Model.primaryKey?] at hkey
    split at hkey
    · next hkeys => rw [hkeys, Option.some.inj hkey]
    · cases hkey
  constructor
  · intro hname
    have hnames := Model.fieldNameViolations_eq_nil_iff.mp
      ((isValid_iff_unreported.mp h).fieldNames m hm)
    have hmem : key ∈ m.primaryKeys := by simp [hkeys]
    obtain ⟨hfield, hprimary⟩ := List.mem_filter.mp hmem
    rwa [← List.inj_on_of_nodup_map hnames hfield hf hname]
  · intro hprimary
    have hmem : f ∈ m.primaryKeys := List.mem_filter.mpr ⟨hf, hprimary⟩
    rw [hkeys, List.mem_singleton] at hmem
    rw [hmem]

/-- A foreign key of a valid schema leads to a column. -/
theorem exists_target_of_isValid (h : s.isValid = true) (hm : m ∈ s.models)
    (hf : f ∈ m.foreignKeyFields) : ∃ target key, s.resolveForeignKey? f = some (target, key) := by
  obtain ⟨target, key, hkey, -⟩ :=
    Model.foreignKeyViolations_eq_nil_iff.mp ((isValid_iff_unreported.mp h).foreignKeys m hm f hf)
  exact ⟨target, key, hkey⟩

/-- Relationships of one model of a valid schema are told apart by their names. -/
theorem relationship_ext_of_isValid {r' : Relationship} (h : s.isValid = true) (hm : m ∈ s.models)
    (hr : r ∈ m.relationships) (hr' : r' ∈ m.relationships) (hname : r.name = r'.name) :
    r = r' :=
  List.inj_on_of_nodup_map
    (Model.relationshipNameViolations_eq_nil_iff.mp
      ((isValid_iff_unreported.mp h).relationshipNames m hm)).1 hr hr' hname

/-- A relationship of a valid schema leads to a model and to a relationship there that leads
    back. -/
theorem exists_inverse_of_isValid (h : s.isValid = true) (hm : m ∈ s.models)
    (hr : r ∈ m.relationships) :
    ∃ target inverse, s.model? r.target = some target ∧
      target.relationship? r.backPopulates = some inverse ∧
      inverse.target = m.id ∧ inverse.backPopulates = r.name := by
  have hall := isValid_iff_unreported.mp h
  obtain ⟨target, htarget⟩ := Model.targetViolations_eq_nil_iff.mp (hall.targets m hm) r hr
  obtain ⟨-, inverse, hinverse⟩ :=
    (Model.pairViolations_eq_nil_iff htarget).mp (hall.pairs m hm r hr)
  exact ⟨target, inverse, htarget, hinverse⟩

end Schema

end SchemaLang
