import SchemaLang.Output.Basic
import SchemaLang.Schema.Lookup

/-!
# Inputs for foreign keys

A foreign key is entered by choosing one of the rows that it can reference. This module says which
rows those are, under which name a form gets them and by which column they are shown; routes,
helpers and templates all rely on it.
-/

namespace SchemaLang

/-- A foreign key field as an input. -/
structure RelatedInput where
  field : Field
  target : Model
  /-- The relationship that follows the key. -/
  relationship : String
  /-- The column that stands for a row. -/
  display : Field
  deriving DecidableEq, Repr

/-- The name under which a form gets the rows. -/
def RelatedInput.choices (i : RelatedInput) : String :=
  i.relationship ++ "_choices"

/-- A field name without the `_id` endings it has. -/
def dropIdEndings (name : String) : String :=
  String.ofList (drop name.toList.reverse).reverse
where
  /-- Drops the endings of a name that is written backwards. -/
  drop : List Char → List Char
    | 'd' :: 'i' :: '_' :: rest => drop rest
    | s => s

namespace Model

/-- The column that stands for a row: the first string column besides the keys, or else the primary
    key. -/
def displayField? (m : Model) : Option Field :=
  (m.fields.find? fun f => !f.primaryKey && f.type == .string).or m.primaryKey?

/-- The columns that a form edits as they are: neither primary nor foreign keys. -/
def plainFields (m : Model) : List Field :=
  m.fields.filter fun f => !f.primaryKey && !f.isForeignKey

/-- The relationship follows the key of a field to its target. -/
def follows (field : Field) (target : Model) (r : Relationship) : Bool :=
  r.cardinality == .manyToOne && r.target == target.id &&
    match r.foreignKeys with
    | some keys => keys.contains field.name
    | none => true

/-- The name of the relationship that follows a key. -/
def relationshipOf (m : Model) (field : Field) (target : Model) : String :=
  match m.relationships.find? (follows field target) with
  | some r => r.name
  | none => dropIdEndings field.name

/-- The input for a foreign key field. -/
def relatedInput (s : Schema) (m : Model) (field : Field) : Except OutputFault RelatedInput :=
  match s.resolveForeignKey? field with
  | none => .error (.unresolvedInput m.id field.name field.foreignKey)
  | some (target, _) =>
    match target.displayField? with
    | none => .error (.noDisplayField target.id)
    | some display =>
      .ok { field, target, relationship := m.relationshipOf field target, display }

/-- The inputs for all foreign key fields. -/
def relatedInputs (s : Schema) (m : Model) : Except OutputFault (List RelatedInput) :=
  m.foreignKeyFields.mapM (m.relatedInput s)

end Model

/-- The primary key in routes: the name of the parameter, and how its text is converted. -/
structure KeyParameter where
  converter : String
  name : String
  deriving DecidableEq, Repr

/-- The key parameter of a model. -/
def Model.keyParameter (m : Model) : KeyParameter :=
  match m.primaryKey? with
  | some key => { converter := if key.type = .integer then "int" else "string", name := key.name }
  | none => { converter := "int", name := "id" }

/-- A word with its first letter in upper case. -/
def capitalized : List Char → List Char
  | [] => []
  | c :: rest => Text.upperChar c ++ rest

/-- A field name for readers: its words with capitals, between spaces. -/
def label (name : String) : String :=
  let words := (Text.splitAt '_' name.toList).filter (!·.isEmpty)
  " ".intercalate (words.map fun word => String.ofList (capitalized word))

end SchemaLang
