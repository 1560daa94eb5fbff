import SchemaLang.Schema.Basic
import SchemaLang.Text.Case
import SchemaLang.Text.Cut

/-!
# Looking things up in a schema

Look-ups take the first match. Models are found by identifier, exactly or up to the case of ASCII
letters, and a foreign key is followed to the column it references.
-/

namespace SchemaLang

namespace Field

/-- The field references a column. -/
def isForeignKey (f : Field) : Bool :=
  f.foreignKey.isSome

/-- The table and the column that the field references. -/
def foreignKeyParts? (f : Field) : Option (String × String) := do
  let (table, column) ← Text.cutAt? '.' (← f.foreignKey).toList
  some (String.ofList table, String.ofList column)

end Field

namespace Index

/-- The index holds the column. -/
def covers (ix : Index) (column : String) : Bool :=
  ix.columns.contains column

end Index

namespace Model

/-- The name of the table in lower case. -/
def tableName (m : Model) : String :=
  Text.lower m.id

/-- The first field of that name. -/
def field? (m : Model) (name : String) : Option Field :=
  m.fields.find? (·.name == name)

/-- The first relationship of that name. -/
def relationship? (m : Model) (name : String) : Option Relationship :=
  m.relationships.find? (·.name == name)

/-- The primary key fields. -/
def primaryKeys (m : Model) : List Field :=
  m.fields.filter (·.primaryKey)

/-- The primary key, if there is exactly one. -/
def primaryKey? (m : Model) : Option Field :=
  match m.primaryKeys with
  | [key] => some key
  | _ => none

/-- The fields that reference a column. -/
def foreignKeyFields (m : Model) : List Field :=
  m.fields.filter (·.isForeignKey)

/-- The model references another one. -/
def isRelational (m : Model) : Bool :=
  m.fields.any (·.isForeignKey)

/-- Some index holds the column. -/
def isCovered (m : Model) (column : String) : Bool :=
  m.indices.any (·.covers column)

end Model

namespace Schema

/-- The first model with that identifier. -/
def model? (s : Schema) (id : String) : Option Model :=
  s.models.find? (·.id == id)

/-- The first model with that identifier up to the case of ASCII letters. -/
def modelByTable? (s : Schema) (table : String) : Option Model :=
  s.models.find? fun m => Text.sameAsciiLetters m.id table

/-- The model and the field that a foreign key references. -/
def resolveForeignKey? (s : Schema) (f : Field) : Option (Model × Field) := do
  let (table, column) ← f.foreignKeyParts?
  let target ← s.modelByTable? table
  let field ← target.fields.find? fun g => Text.sameAsciiLetters g.name column
  some (target, field)

end Schema

end SchemaLang
