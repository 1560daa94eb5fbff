import SchemaLang.Proofs.Draft.Declarations
import SchemaLang.Proofs.Output.IndexNames
import SchemaLang.Proofs.Schema.DerivedIndices

/-!
# Indices on columns in the modules

A column that is a key, or that has the flag `index`, has an index under a name of its own: the scope
of the model and behind it the column. Modules put the name of the table in place of the identifier,
whatever the policy makes of it. The scope is looked for in a name that is lowered once more and cut
off by its size; it is lower case already, so that it is found, and nothing of the column goes with it.

## Key results

- `Model.FollowsBlock.usesColumnName`: a column with the flag has an index under its name
- `emittedIndexName_columnIndexName`: what modules make of such a name
- `forall₂_indexesColumns`: the keys and the flags of a source, and the indices of its modules
-/

namespace SchemaLang

/-! ## Indices of a model -/

/-- A column with the flag has an index under its name. A key is given one later on, if need be. -/
theorem Model.FollowsBlock.usesColumnName {registry : Registry} {block : TableBlock} {m : Model}
    (h : m.FollowsBlock registry block) {line : FieldLine} (hline : line ∈ block.columnLines)
    (hindexed : line.isIndexed = true) : m.UsesColumnName (String.ofList line.name) := by
  have hdeclared : columnIndex m.id (String.ofList line.name) ∈ block.declaredIndices m.id := by
    apply List.mem_append_left
    exact List.mem_map.mpr ⟨line, List.mem_filter.mpr ⟨hline, hindexed⟩, rfl⟩
  exact ⟨_, h.indices ▸ List.mem_append_left _ hdeclared, rfl⟩

/-! ## Names in modules -/

/-- The index on a column is written under the table with the name of the column. -/
theorem emittedIndexName_columnIndexName (id table column : String) :
    emittedIndexName id table (columnIndexName id column) = "ix_" ++ table ++ "_" ++ column := by
  rw [emittedIndexName_eq, indexStem?_columnIndexName]
  rfl

/-- The column of the model has an index under its name, which modules write under the name of the
    table. -/
structure Model.HasColumnIndex (s : Schema) (m : Model) (column : String) : Prop where
  /-- There is one, and any of that name is written alike, whatever the name of the table. -/
  named : ∃ ix ∈ m.indices, ix.name = "ix_" ++ Text.lower m.id ++ "_" ++ column
  written : ∀ ix ∈ m.indices, ix.name = "ix_" ++ Text.lower m.id ++ "_" ++ column →
    ∀ table, emittedIndexName m.id table ix.name = "ix_" ++ table ++ "_" ++ column
  /-- It stands in the module of the model, whatever the policy. -/
  made : ∀ (naming : TableNaming) (made : ModelModule), ModelModule.ofModel s naming m = .ok made →
    "ix_" ++ naming.tableOf m.id ++ "_" ++ column ∈ made.indices.map (·.name)

/-- A column whose name is in use has an index that modules write. -/
theorem Model.UsesColumnName.hasColumnIndex {m : Model} {column : String}
    (h : m.UsesColumnName column) (s : Schema) : m.HasColumnIndex s column := by
  constructor
  case named => exact h
  case written =>
    intro ix _ hname table
    rw [hname]
    exact emittedIndexName_columnIndexName m.id table column
  case made =>
    intro naming made hmade
    obtain ⟨ix, hix, hname⟩ := h
    rw [ModelModule.indices_of_ofModel_eq_ok hmade]
    refine List.mem_map.mpr ⟨ix, hix, ?_⟩
    rw [TableNaming.indexName, hname, emittedIndexName_columnIndexName]

/-- Each field of the model stands for a line of the block. If it is a key, or if the line has the flag
    `index`, it has an index. -/
def Schema.IndexesColumns (s : Schema) (block : TableBlock) (m : Model) : Prop :=
  List.Forall₂
    (fun line f => f.name = String.ofList line.name ∧
      (f.isForeignKey = true ∨ line.isIndexed = true → m.HasColumnIndex s f.name))
    block.columnLines m.fields

/-- In a compiled schema keys and columns with the flag have indices, which modules name after their
    tables and the columns. -/
theorem forall₂_indexesColumns {source : String} {s : Schema} (h : compile source = .ok s) :
    List.Forall₂ s.IndexesColumns (TableBlock.ofSource source) s.models := by
  refine forall₂_blocks_models h fun i entry block b hd hb => ?_
  have hfollows := followsBlock_deriveIndices hd hb
  refine hfollows.fields.imp_of_mem fun line hline f hf hmakes => ⟨hmakes.name, ?_⟩
  rintro (hkey | hindexed)
  · -- Deriving indices changes no field.
    have hmem : f ∈ (Model.ofDraft (.ofBlock (.ofSource source) entry block) b).foreignKeyFields :=
      List.mem_filter.mpr ⟨hf, hkey⟩
    exact (Model.usesColumnName_deriveIndices hmem).hasColumnIndex s
  · rw [hmakes.name]
    exact (hfollows.usesColumnName hline hindexed).hasColumnIndex s

/-- Streets and piers, whose names take other letters and other lengths in the other case. -/
def greekStreets : String :=
  "table οδος \x7b
id Int [pk]
ΚΩΔΙΚΟΣ String(8) [INDEX]
\x7d
table İskele \x7b
id Int [pk]
ΟΔΟΣ_id Int [ref: > οδος.ID]
\x7d"

theorem forall₂_indexesColumns_greekStreets :
    ∃ s modules, compile greekStreets = .ok s ∧
      List.Forall₂ s.IndexesColumns (TableBlock.ofSource greekStreets) s.models ∧
      s.modelModules { letterCase := .upper, leading := "ß_", trailing := "_ς" } = .ok modules ∧
      s.models.map (fun m => m.indices.map (·.name)) =
        [["ix_s001_οδος_ΚΩΔΙΚΟΣ"], ["ix_s002_i̇skele_ΟΔΟΣ_id"]] ∧
      indexNamesIn modules = ["ix_ß_S001_ΟΔΟΣ_ς_ΚΩΔΙΚΟΣ", "ix_ß_S002_İSKELE_ς_ΟΔΟΣ_id"] := by
  let s := Schema.ofChecked greekStreets
  let naming : TableNaming := { letterCase := .upper, leading := "ß_", trailing := "_ς" }
  obtain ⟨hchecked, hindices, hmade⟩ : checkSource greekStreets = .ok () ∧
      s.models.map (fun m => m.indices.map (·.name)) =
        [["ix_s001_οδος_ΚΩΔΙΚΟΣ"], ["ix_s002_i̇skele_ΟΔΟΣ_id"]] ∧
      (s.modelModules naming).toOption.map indexNamesIn =
        some ["ix_ß_S001_ΟΔΟΣ_ς_ΚΩΔΙΚΟΣ", "ix_ß_S002_İSKELE_ς_ΟΔΟΣ_id"] := by
    decide +kernel
  have hcompile : compile greekStreets = .ok s := compile_eq_ok_iff.mpr ⟨hchecked, rfl⟩
  cases hmodules : s.modelModules naming with
  | error e =>
    rw [hmodules] at hmade
    cases hmade
  | ok modules =>
    rw [hmodules] at hmade
    exact ⟨s, modules, hcompile, forall₂_indexesColumns hcompile, hmodules, hindices,
      Option.some.inj hmade⟩

end SchemaLang
