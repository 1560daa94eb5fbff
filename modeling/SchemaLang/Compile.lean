import SchemaLang.Pairing.Board
import SchemaLang.Source.Check
import SchemaLang.Draft.Member

/-!
# Compiling a source

A source that can be read at all becomes a schema: its blocks are drafted, the boards of their
relationships settled, every foreign key is given an index and every table an entry in the main
menu. The schema is not reviewed here.
-/

namespace SchemaLang

namespace Model

/-- The model of a draft and its settled board. -/
def ofDraft (d : TableDraft) (b : Board) : Model where
  id := d.id
  name := d.name
  fields := d.fields
  relationships := b.relationships
  indices := d.indices
  menus := { context := d.links }

/-- The indices that the foreign keys of a model call for and whose names it does not use yet. -/
def missingIndices (m : Model) : List Index :=
  (m.foreignKeyFields.map fun f => columnIndex m.id f.name).filter fun ix =>
    !m.indices.any (·.name == ix.name)

/-- The model with an index for each foreign key. -/
def deriveIndices (m : Model) : Model :=
  { m with indices := m.indices ++ m.missingIndices }

end Model

namespace Menus

/-- The menus of a compiled schema: one main entry for each table. -/
def ofModels (models : List Model) : Menus where
  main := models.map fun m => .ofTable m.name

end Menus

namespace Schema

/-- The models of a source before indices are derived. -/
def draftModels (source : String) : List Model :=
  let drafts := TableDraft.ofSource source
  drafts.zipWith Model.ofDraft (Board.ofDrafts (Registry.ofSource source) drafts)

/-- The models of a source. -/
def modelsOf (source : String) : List Model :=
  (draftModels source).map Model.deriveIndices

end Schema

/-- Compiles a source to a schema. -/
def compile (source : String) : Except SourceError Schema := do
  checkSource source
  let models := Schema.modelsOf source
  return { models, menus := .ofModels models }

end SchemaLang
