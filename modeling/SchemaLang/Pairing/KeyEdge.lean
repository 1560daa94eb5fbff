import SchemaLang.Draft.Basic

/-!
# Key edges

A foreign key whose table is declared leads from the table that holds it to the one it references.
The edge carries the name that its relationship is to have, and whether its owner holds a second key
to the same table.
-/

namespace SchemaLang

/-- The name of a relationship whose key asks for none: the field name without `_id`, or with `_rel`
    where that would leave nothing new. -/
def defaultRelationshipName (field : String) : String :=
  match field.toList.reverse with
  | 'd' :: 'i' :: '_' :: c :: stem => String.ofList (c :: stem).reverse
  | _ => field ++ "_rel"

/-- A foreign key with a declared table. -/
structure KeyEdge where
  field : String
  /-- The place of the referenced table among all tables. -/
  target : Nat
  /-- The name of the relationship. -/
  name : String
  /-- The key asks for that name. -/
  named : Bool
  /-- The name that the key asks for on the other side. -/
  inverseName : Option String
  /-- The owner holds another key to the same table. -/
  shared : Bool
  deriving DecidableEq, Repr

namespace TableDraft

/-- The foreign keys of a table whose target is among the tables with the given identifiers, and
    the place of the target. -/
def keyTargets (ids : List String) (d : TableDraft) : List (String × Nat) :=
  d.fields.filterMap fun field => do
    let (table, _) ← field.foreignKeyParts?
    let target ← ids.findIdx? (Text.sameAsciiLetters · table)
    some (field.name, target)

/-- The names that a field asks for. -/
def naming? (d : TableDraft) (field : String) : Option KeyNaming :=
  d.namings.find? (·.field == field)

/-- The key edges of a table. -/
def keyEdges (ids : List String) (d : TableDraft) : List KeyEdge :=
  let targets := d.keyTargets ids
  targets.map fun (field, target) =>
    let asked := (d.naming? field).bind (·.relationship)
    { field, target
      name := asked.getD (defaultRelationshipName field)
      named := asked.isSome
      inverseName := (d.naming? field).bind (·.backPopulates)
      shared := 1 < targets.countP fun (_, other) => other == target }

end TableDraft

end SchemaLang
