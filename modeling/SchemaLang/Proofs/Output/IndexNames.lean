import SchemaLang.Proofs.Output.Emission
import SchemaLang.Proofs.Output.Naming
import SchemaLang.Proofs.Pairing.Compiled
import SchemaLang.Proofs.Text.Utf8

/-!
# Names of indices in modules

An index is written under the name of its table or as it is called. What is written under a table
tells the table, and behind it the rest of the name. So two names can only fall together within one
model, where both leave the same rest, or where an index already bears the name that another one is
given. Indices on single columns are named after their models and never do.

## Key results

- `TableNaming.indexName_eq_iff_clash`: when two indices of a compiled schema are written alike
- `TableNaming.stem?_columnIndexName`: an index on a single column is written under its table
- `exists_modelModules_indexNames`: the names in the modules of a valid schema
-/

namespace SchemaLang

/-! ## Parts of a name -/

/-- What follows the scope of a model in the name of an index. -/
def scopedRest? (id name : String) : Option (List Char) :=
  let scope := "ix_" ++ Text.lower id ++ "_"
  if scope.toList.isPrefixOf (Text.lowerChars name.toList) then
    Text.dropBytes? scope.utf8ByteSize name.toList
  else none

/-- What of the name of an index is put under the name of the table, if it is not kept. -/
def indexStem? (id table name : String) : Option String :=
  ((scopedRest? id name).map String.ofList).or
    (if Text.occursIn (Text.lowerChars table.toList) (Text.lowerChars name.toList) then none
      else some name)

/-- An index is written under the table with its stem, or as it is called. -/
theorem emittedIndexName_eq (id table name : String) :
    emittedIndexName id table name =
      ((indexStem? id table name).map ("ix_" ++ table ++ "_" ++ ·)).getD name := by
  simp only [emittedIndexName, indexStem?, scopedRest?]
  split
  · next hrest =>
    rw [hrest]
    rfl
  · next hrest =>
    rw [hrest, Option.map_none, Option.none_or]
    split
    · rfl
    · rfl

/-- The name of an index on a single column is that of the column within the scope of its model. -/
theorem indexStem?_columnIndexName (id table column : String) :
    indexStem? id table (columnIndexName id column) = some column := by
  have hlow : ∀ c ∈ ("ix_" ++ Text.lower id ++ "_").toList, Text.IsLow c := by
    intro c hc
    simp only [String.toList_append, List.mem_append, Text.lower, String.toList_ofList] at hc
    rcases hc with (hc | hc) | hc
    · have hmark : ("ix_".toList.all fun c => decide (Text.IsLow c)) = true := by decide
      exact of_decide_eq_true (List.all_eq_true.mp hmark c hc)
    · exact Text.isLow_of_mem_lowerChars hc
    · obtain rfl : c = '_' := List.mem_singleton.mp hc
      decide
  have hname : (columnIndexName id column).toList =
      ("ix_" ++ Text.lower id ++ "_").toList ++ column.toList := String.toList_append ..
  have hprefix : ("ix_" ++ Text.lower id ++ "_").toList.isPrefixOf
      (Text.lowerChars (columnIndexName id column).toList) = true := by
    rw [hname, Text.lowerChars, Text.lowerAfter_append_of_isLow hlow, List.isPrefixOf_iff_prefix]
    exact List.prefix_append _ _
  have hrest : scopedRest? id (columnIndexName id column) = some column.toList := by
    rw [scopedRest?, if_pos hprefix, hname, Text.dropBytes?_utf8ByteSize]
  rw [indexStem?, hrest, Option.map_some, Option.some_or, String.ofList_toList]

/-! ## Indices and their models -/

namespace TableNaming

variable {source : String} {s : Schema} {naming : TableNaming} {o o' : Model × Index}

/-- The name that an index of a model is written with. -/
def indexName (naming : TableNaming) (o : Model × Index) : String :=
  emittedIndexName o.1.id (naming.tableOf o.1.id) o.2.name

/-- The part of its name that an index is written with under the table of its model. -/
def stem? (naming : TableNaming) (o : Model × Index) : Option String :=
  indexStem? o.1.id (naming.tableOf o.1.id) o.2.name

/-- The name under the table of a model. -/
def nameUnder (naming : TableNaming) (m : Model) (stem : String) : String :=
  "ix_" ++ naming.tableOf m.id ++ "_" ++ stem

/-- Two indices of one model are written under its table with the same stem. -/
def SharesStem (naming : TableNaming) (o o' : Model × Index) : Prop :=
  o.1 = o'.1 ∧ ∃ stem, naming.stem? o = some stem ∧ naming.stem? o' = some stem

/-- An index keeps its name, and it is the name that another one is written with under its table. -/
def Forestalls (naming : TableNaming) (o o' : Model × Index) : Prop :=
  naming.stem? o = none ∧
    ∃ stem, naming.stem? o' = some stem ∧ o.2.name = naming.nameUnder o'.1 stem

/-- What makes two indices of different names be written alike. -/
def Clash (naming : TableNaming) (o o' : Model × Index) : Prop :=
  naming.SharesStem o o' ∨ naming.Forestalls o o' ∨ naming.Forestalls o' o

theorem indexName_of_stem?_eq_none (h : naming.stem? o = none) :
    naming.indexName o = o.2.name := by
  rw [indexName, emittedIndexName_eq, show indexStem? _ _ _ = none from h]
  rfl

theorem indexName_of_stem?_eq_some {stem : String} (h : naming.stem? o = some stem) :
    naming.indexName o = naming.nameUnder o.1 stem := by
  rw [indexName, emittedIndexName_eq, show indexStem? _ _ _ = some stem from h]
  rfl

/-- A name under a table tells the model and the stem. -/
theorem nameUnder_inj (h : compile source = .ok s) {m m' : Model} (hm : m ∈ s.models)
    (hm' : m' ∈ s.models) {stem stem' : String} :
    naming.nameUnder m stem = naming.nameUnder m' stem' ↔ m = m' ∧ stem = stem' := by
  refine ⟨fun heq => ?_, fun ⟨hmodel, hstem⟩ => by rw [hmodel, hstem]⟩
  obtain ⟨i, hi⟩ := List.mem_iff_getElem?.mp hm
  obtain ⟨j, hj⟩ := List.mem_iff_getElem?.mp hm'
  obtain ⟨name, hid⟩ := exists_id_of_getElem?_models h hi
  obtain ⟨name', hid'⟩ := exists_id_of_getElem?_models h hj
  have htables : naming.tableOf m.id ++ ("_" ++ stem) = naming.tableOf m'.id ++ ("_" ++ stem') := by
    simpa only [nameUnder, String.append_assoc, String.append_right_inj] using heq
  -- The table tells the place of the model.
  rw [hid, hid'] at htables
  obtain rfl : i = j := Nat.add_left_cancel (naming.seq_eq_of_tableOf_append htables)
  obtain rfl : m = m' := Option.some.inj (hi.symm.trans hj)
  exact ⟨rfl, (String.append_right_inj _).mp heq⟩

/-- Two indices of different names are written alike exactly where they clash. -/
theorem indexName_eq_iff_clash (h : compile source = .ok s) (ho : o.1 ∈ s.models)
    (ho' : o'.1 ∈ s.models) (hname : o.2.name ≠ o'.2.name) :
    naming.indexName o = naming.indexName o' ↔ naming.Clash o o' := by
  rw [Clash, SharesStem, Forestalls, Forestalls]
  cases hstem : naming.stem? o with
  | none =>
    rw [indexName_of_stem?_eq_none hstem]
    cases hstem' : naming.stem? o' with
    | none => simp [indexName_of_stem?_eq_none hstem', hname]
    | some stem' => simp [indexName_of_stem?_eq_some hstem']
  | some stem =>
    rw [indexName_of_stem?_eq_some hstem]
    cases hstem' : naming.stem? o' with
    | none => simp [indexName_of_stem?_eq_none hstem', eq_comm]
    | some stem' =>
      rw [indexName_of_stem?_eq_some hstem', nameUnder_inj h ho ho']
      simp [eq_comm]

/-- An index on a single column is written under its table with the name of the column. -/
theorem stem?_columnIndexName {column : String} (h : o.2.name = columnIndexName o.1.id column) :
    naming.stem? o = some column := by
  rw [stem?, h, indexStem?_columnIndexName]

/-- Two indices on single columns do not clash. -/
theorem not_clash_of_columnIndexName {column column' : String} (hname : o.2.name ≠ o'.2.name)
    (h : o.2.name = columnIndexName o.1.id column)
    (h' : o'.2.name = columnIndexName o'.1.id column') : ¬ naming.Clash o o' := by
  have hstem : naming.stem? o = some column := stem?_columnIndexName h
  have hstem' : naming.stem? o' = some column' := stem?_columnIndexName h'
  rintro (⟨hmodel, stem, heq, heq'⟩ | ⟨hkept, -⟩ | ⟨hkept, -⟩)
  · -- The model and the column are all that goes into their names.
    obtain rfl : column = stem := Option.some.inj (hstem.symm.trans heq)
    obtain rfl : column' = column := Option.some.inj (hstem'.symm.trans heq')
    exact hname (by rw [h, h', hmodel])
  · rw [hkept] at hstem
    cases hstem
  · rw [hkept] at hstem'
    cases hstem'

end TableNaming

/-! ## Indices of a schema -/

namespace Schema

theorem mem_models_of_mem_ownedIndices (s : Schema) {o : Model × Index}
    (h : o ∈ s.ownedIndices) : o.1 ∈ s.models := by
  obtain ⟨m, hm, hindex⟩ := List.mem_flatMap.mp h
  obtain ⟨ix, -, rfl⟩ := List.mem_map.mp hindex
  exact hm

/-- No two indices of a valid schema have one name. -/
theorem pairwise_name_ownedIndices (s : Schema) (h : s.isValid = true) :
    s.ownedIndices.Pairwise fun o o' => o.2.name ≠ o'.2.name := by
  have hnames := indexNameViolations_eq_nil_iff.mp (isValid_iff_unreported.mp h).indexNames
  rw [← map_name_ownedIndices] at hnames
  exact List.pairwise_map.mp hnames

end Schema

/-! ## Names in the modules -/

section Modules

variable {s : Schema} {m : Model}

/-- A module has the indices of its model. -/
theorem ModelModule.indices_of_ofModel_eq_ok {naming : TableNaming} {made : ModelModule}
    (h : ModelModule.ofModel s naming m = .ok made) :
    made.indices.map (·.name) = m.indices.map fun ix => naming.indexName (m, ix) := by
  obtain ⟨-, -, hindices, -⟩ := of_ofModel_eq_ok h
  rw [hindices, List.map_map]
  rfl

/-- The names of the indices in modules. -/
def indexNamesIn (modules : List ModelModule) : List String :=
  modules.flatMap fun made => made.indices.map (·.name)

/-- The modules of a schema have its indices. -/
theorem indexNamesIn_modelModules {naming : TableNaming} {modules : List ModelModule}
    (h : s.modelModules naming = .ok modules) :
    indexNamesIn modules = s.ownedIndices.map naming.indexName := by
  have hmade := OutputGroup.forall₂_of_forModels_eq_ok h
  have hnames : modules.map (fun made => made.indices.map (·.name)) =
      s.models.map fun m => m.indices.map fun ix => naming.indexName (m, ix) := by
    rw [← List.forall₂_eq_eq_eq, List.forall₂_map_left_iff, List.forall₂_map_right_iff]
    exact hmade.flip.imp fun _ _ hmodule => ModelModule.indices_of_ofModel_eq_ok hmodule
  rw [indexNamesIn, List.flatMap_def, hnames, ← List.flatMap_def, Schema.ownedIndices,
    List.map_flatMap]
  exact List.flatMap_congr fun m _ => by simp only [List.map_map, Function.comp_def]

end Modules

/-- In the modules of a valid schema two indices have one name exactly where they clash, and indices
    on single columns never do. -/
theorem exists_modelModules_indexNames {source : String} {s : Schema}
    (h : compile source = .ok s) (hvalid : s.isValid = true) (naming : TableNaming) :
    ∃ modules, s.modelModules naming = .ok modules ∧
      indexNamesIn modules = s.ownedIndices.map naming.indexName ∧
      s.ownedIndices.Pairwise (fun o o' =>
        naming.indexName o = naming.indexName o' ↔ naming.Clash o o') ∧
      s.ownedIndices.Pairwise (fun o o' => ∀ column column',
        o.2.name = columnIndexName o.1.id column → o'.2.name = columnIndexName o'.1.id column' →
          naming.indexName o ≠ naming.indexName o') := by
  obtain ⟨modules, hmodules⟩ := OutputGroup.models.exists_forModels fun _ hm =>
    ModelModule.exists_ofModel hvalid naming hm
  have hnames : s.ownedIndices.Pairwise fun o o' => o.2.name ≠ o'.2.name :=
    s.pairwise_name_ownedIndices hvalid
  have hclash : s.ownedIndices.Pairwise fun o o' =>
      o.2.name ≠ o'.2.name ∧ (naming.indexName o = naming.indexName o' ↔ naming.Clash o o') :=
    hnames.imp_of_mem fun ho ho' hname =>
      ⟨hname, TableNaming.indexName_eq_iff_clash h (s.mem_models_of_mem_ownedIndices ho)
        (s.mem_models_of_mem_ownedIndices ho') hname⟩
  refine ⟨modules, hmodules, indexNamesIn_modelModules hmodules, hclash.imp And.right, ?_⟩
  refine hclash.imp fun ⟨hname, hiff⟩ column column' hcolumn hcolumn' => ?_
  exact hiff.not.mpr (TableNaming.not_clash_of_columnIndexName hname hcolumn hcolumn')

/-- Ports with an index on their code and another one that is not named after them, and legs. -/
def codedPorts : String :=
  "table Port \x7b
id Int [pk]
code String [index]
index by_code [code, id]
\x7d
table Leg \x7b
id Int [pk]
port_id Int [ref: > Port.id]
\x7d"

theorem exists_modelModules_indexNames_codedPorts :
    (Schema.ofChecked codedPorts).isValid = true ∧
      ∃ modules, (Schema.ofChecked codedPorts).modelModules { leading := "t_" } = .ok modules ∧
        indexNamesIn modules =
          ["ix_t_s001_port_code", "ix_t_s001_port_by_code", "ix_t_s002_leg_port_id"] := by
  obtain ⟨hchecked, hvalid, hindices⟩ : checkSource codedPorts = .ok () ∧
      (Schema.ofChecked codedPorts).isValid = true ∧
      (Schema.ofChecked codedPorts).ownedIndices.map
        (TableNaming.indexName { leading := "t_" }) =
        ["ix_t_s001_port_code", "ix_t_s001_port_by_code", "ix_t_s002_leg_port_id"] := by
    decide +kernel
  obtain ⟨modules, hmodules, hnames, -⟩ :=
    exists_modelModules_indexNames (compile_eq_ok_iff.mpr ⟨hchecked, rfl⟩) hvalid
      { leading := "t_" }
  exact ⟨hvalid, modules, hmodules, hnames.trans hindices⟩

/-- Ports with two indices on one column, one of them named after the column. -/
def fooPorts : String :=
  "table Port \x7b
id Int [pk]
foo Int [index]
index foo [foo]
\x7d"

/-- Two indices of a valid schema may be written with one name. -/
theorem not_nodup_indexNames_fooPorts :
    compile fooPorts = .ok (.ofChecked fooPorts) ∧ (Schema.ofChecked fooPorts).isValid = true ∧
      ∃ modules, (Schema.ofChecked fooPorts).modelModules {} = .ok modules ∧
        ¬ (indexNamesIn modules).Nodup := by
  obtain ⟨hchecked, hvalid, hindices⟩ : checkSource fooPorts = .ok () ∧
      (Schema.ofChecked fooPorts).isValid = true ∧
      ((Schema.ofChecked fooPorts).modelModules {}).toOption.map indexNamesIn =
        some ["ix_s001_port_foo", "ix_s001_port_foo"] := by
    decide +kernel
  refine ⟨compile_eq_ok_iff.mpr ⟨hchecked, rfl⟩, hvalid, ?_⟩
  cases hmodules : (Schema.ofChecked fooPorts).modelModules {} with
  | error e =>
    rw [hmodules] at hindices
    cases hindices
  | ok modules =>
    rw [hmodules] at hindices
    refine ⟨modules, rfl, ?_⟩
    rw [Option.some.inj hindices]
    decide

end SchemaLang
