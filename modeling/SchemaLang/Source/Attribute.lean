import SchemaLang.Source.Block
import SchemaLang.Source.Registry
import SchemaLang.Source.TypeSpec

/-!
# Attributes of a field

The attribute block of a field line is a list of flags (`pk`, `not null`) and of assignments
(`ref: > Country.id`, `as: "home"`). For a column, flags and keys are read in any case of their ASCII
letters, and one that means nothing is passed over.
-/

namespace SchemaLang

/-- A property that an attribute switches on. -/
inductive Flag where
  | primaryKey
  | autoIncrement
  | unique
  | notNull
  | index
  deriving DecidableEq, Repr

/-- The property that a lower case word switches on. -/
def Flag.ofWord? (word : List Char) : Option Flag :=
  if word ∈ ["pk".toList, "primary key".toList, "primary_key".toList] then some .primaryKey
  else if word ∈ ["increment".toList, "autoincrement".toList] then some .autoIncrement
  else if word = "unique".toList then some .unique
  else if word = "not null".toList then some .notNull
  else if word = "index".toList then some .index
  else none

/-- An attribute of a column. -/
inductive Attribute where
  | flag (flag : Flag)
  /-- The column that is referenced, as `table.column`; nothing if the text names none. -/
  | reference (foreignKey : Option String)
  | default (literal : String)
  /-- The name of the relationship that follows the reference. -/
  | relationshipName (name : String)
  /-- The name of that relationship's other side. -/
  | backPopulates (name : String)
  | size (part : SizePart) (value : List Char)
  deriving DecidableEq, Repr

namespace Attribute

/-- The column that a text `> Table.column` references. A table that is not declared is kept by its
    name. -/
def readReference? (registry : Registry) (value : List Char) : Option String :=
  match Text.trim value with
  | '>' :: target => do
    let (table, column) ← Text.cutAt? '.' (Text.trim target)
    let table := String.ofList table
    some (Text.lower ((registry.resolve? table).getD table) ++ "." ++
      Text.lower (String.ofList column))
  | _ => none

/-- The attribute that assigns a value to a key. -/
def ofAssignment? (registry : Registry) (key value : List Char) : Option Attribute :=
  let word := Text.asciiLower (Text.trim key)
  -- A reference that names nothing still counts, against an earlier one.
  if word = "ref".toList then some (reference (readReference? registry value))
  else if word = "default".toList then some (default (String.ofList (Text.trim value)))
  else if word = "as".toList then some (relationshipName (String.ofList (Text.unquote value)))
  else if word = "back_populates".toList then
    some (backPopulates (String.ofList (Text.unquote value)))
  else (SizePart.ofKey? (Text.trim key)).map (size · value)

/-- The attribute that an item of an attribute block stands for. -/
def ofItem? (registry : Registry) (item : List Char) : Option Attribute :=
  match Text.cutAt? ':' item with
  | some (key, value) => ofAssignment? registry key value
  | none => (Flag.ofWord? (Text.asciiLower item)).map flag

end Attribute

/-- The items of the attribute block of a field line. -/
def FieldLine.items (line : FieldLine) : List (List Char) :=
  match line.attributes with
  | some text => SchemaLang.items ',' text
  | none => []

end SchemaLang
