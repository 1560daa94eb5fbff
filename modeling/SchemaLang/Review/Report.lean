import SchemaLang.Review.Earlier
import SchemaLang.Review.Violation
import SchemaLang.Schema.Lookup

/-!
# Reviewing a schema

All violations of a schema, in a fixed order: names of tables, fields and primary keys, foreign
keys, indices, relationships. No violation keeps another from being reported, but for those of a
foreign key or a relationship that leads nowhere.
-/

namespace SchemaLang

namespace Model

/-- A repeated field is reported where it repeats. -/
def fieldNameViolations (m : Model) : List Violation :=
  (repeats Field.name m.fields).map fun (f, _) => .repeatedField m.id f.name

/-- A model has exactly one primary key. -/
def primaryKeyViolations (m : Model) : List Violation :=
  match m.primaryKeys with
  | [] => [.noPrimaryKey m.id]
  | [_] => []
  | keys => [.manyPrimaryKeys m.id (keys.map (·.name))]

/-- The violations of one foreign key. -/
def foreignKeyViolations (m : Model) (s : Schema) (f : Field) : List Violation :=
  match f.foreignKeyParts? with
  | none => [.malformedForeignKey m.id f.name (f.foreignKey.getD "")]
  | some (table, column) =>
    match s.modelByTable? table with
    | none => [.unknownTable m.id f.name table]
    | some target =>
      match s.resolveForeignKey? f with
      | none => [.unknownColumn m.id f.name target.id column]
      | some (_, key) =>
        (if f.type = key.type then []
          else [.typeMismatch m.id f.name f.type target.id key.name key.type]) ++
        (if key.primaryKey || key.unique then []
          else [.targetNotKey m.id f.name target.id key.name])

/-- The violations of one index. -/
def indexViolations (m : Model) (ix : Index) : List Violation :=
  (if ix.columns.isEmpty then [.emptyIndex m.id ix.name] else []) ++
    (ix.columns.filter fun column => (m.field? column).isNone).map
      (.unknownIndexColumn m.id ix.name ·)

/-- Every foreign key is held by an index. -/
def coverageViolations (m : Model) : List Violation :=
  (m.foreignKeyFields.filter fun f => !m.isCovered f.name).map fun f =>
    .uncoveredForeignKey m.id f.name

/-- Every relationship leads to a model. -/
def targetViolations (m : Model) (s : Schema) : List Violation :=
  (m.relationships.filter fun r => (s.model? r.target).isNone).map fun r =>
    .unknownTarget m.id r.name r.target

/-- Relationships differ in name from each other and from all columns. -/
def relationshipNameViolations (m : Model) : List Violation :=
  (withEarlier Relationship.name m.relationships).flatMap fun (r, first?) =>
    (if first?.isSome then [.repeatedRelationship m.id r.name] else []) ++
      (if (m.field? r.name).isSome then [.relationshipIsColumn m.id r.name] else [])

/-- The relationships that name their other side. -/
def namedBackReferences (m : Model) : List Relationship :=
  m.relationships.filter (·.backPopulates != "")

/-- No two relationships share their other side. -/
def backReferenceViolations (m : Model) : List Violation :=
  (repeats (fun r : Relationship => (r.target, r.backPopulates)) m.namedBackReferences).map
    fun (r, first) => .repeatedBackReference m.id r.name first.name r.target r.backPopulates

/-- The violations of one relationship and its other side. One that leads to no model is reported
    elsewhere. -/
def pairViolations (m : Model) (s : Schema) (r : Relationship) : List Violation :=
  match s.model? r.target with
  | none => []
  | some target =>
    if r.backPopulates = "" then [.noForeignKey m.id r.name target.id]
    else
      match target.relationship? r.backPopulates with
      | none => [.unknownBackReference m.id r.name target.id r.backPopulates]
      | some inverse =>
        if inverse.target = m.id ∧ inverse.backPopulates = r.name then []
        else [.notMutual m.id r.name target.id inverse.name]

/-- The violations of the relationships of a model. -/
def relationshipViolations (m : Model) (s : Schema) : List Violation :=
  m.targetViolations s ++ m.relationshipNameViolations ++ m.backReferenceViolations ++
    m.relationships.flatMap (m.pairViolations s)

end Model

namespace Schema

/-- A repeated table is reported where it repeats. -/
def tableNameViolations (s : Schema) : List Violation :=
  (repeats Model.name s.models).map fun (m, first) => .repeatedTable m.id m.name first.id

/-- All indices of a schema with their models. -/
def ownedIndices (s : Schema) : List (Model × Index) :=
  s.models.flatMap fun m => m.indices.map (m, ·)

/-- Index names differ over the whole schema. -/
def indexNameViolations (s : Schema) : List Violation :=
  (repeats (fun owned : Model × Index => owned.2.name) s.ownedIndices).map
    fun ((m, ix), (first, _)) => .repeatedIndex m.id ix.name first.id

/-- All violations of a schema. -/
def violations (s : Schema) : List Violation :=
  s.tableNameViolations ++
    s.models.flatMap (fun m => m.fieldNameViolations ++ m.primaryKeyViolations) ++
    s.models.flatMap (fun m => m.foreignKeyFields.flatMap (m.foreignKeyViolations s)) ++
    s.models.flatMap (fun m => m.indices.flatMap m.indexViolations) ++
    s.indexNameViolations ++
    s.models.flatMap (·.coverageViolations) ++
    s.models.flatMap (·.relationshipViolations s)

/-- Nothing is wrong with the schema. -/
def isValid (s : Schema) : Bool :=
  s.violations.isEmpty

end Schema

end SchemaLang
