import SchemaLang.Schema.Basic
import SchemaLang.Source.Item
import SchemaLang.Text.Case
import SchemaLang.Text.Cut
import SchemaLang.Text.Numeral

/-!
# Type specifications

The type of a field line is either the name of a table with `[]` behind it, which makes the field an
association, or a column type with parameters in brackets: `String(64)`, `Decimal(10, 2)`,
`Decimal[precision: 10, scale: 2]`. A type word that means nothing is read as a string.
-/

namespace SchemaLang

namespace FieldType

/-- The words for a column type, in lower case. -/
def ofWord? (word : String) : Option FieldType :=
  if word ∈ ["int", "integer", "bigint", "smallint"] then some .integer
  else if word ∈ ["string", "varchar", "char"] then some .string
  else if word = "text" then some .text
  else if word ∈ ["datetime", "timestamp"] then some .dateTime
  else if word = "date" then some .date
  else if word = "time" then some .time
  else if word ∈ ["float", "double", "real"] then some .float
  else if word ∈ ["decimal", "numeric"] then some .decimal
  else if word ∈ ["bool", "boolean"] then some .boolean
  else none

/-- The column type that a word means, in any case of its ASCII letters. -/
def ofToken? (token : List Char) : Option FieldType :=
  ofWord? (String.ofList (Text.asciiLower token))

end FieldType

/-- A part of the size of a column. -/
inductive SizePart where
  | length
  | precision
  | scale
  deriving DecidableEq, Repr

/-- The part that a key names, in any case of its ASCII letters. -/
def SizePart.ofKey? (key : List Char) : Option SizePart :=
  let word := Text.asciiLower key
  if word = "length".toList then some .length
  else if word = "precision".toList then some .precision
  else if word = "scale".toList then some .scale
  else none

namespace Size

/-- Sets one part of a size. -/
def set (size : Size) (part : SizePart) (n : UInt32) : Size :=
  match part with
  | .length => { size with length := some n }
  | .precision => { size with precision := some n }
  | .scale => { size with scale := some n }

/-- Sets one part to a value as it is written; a value that is no number changes nothing. -/
def setText (size : Size) (part : SizePart) (value : List Char) : Size :=
  match Text.readWord32? (Text.unquote value) with
  | some n => size.set part n
  | none => size

/-- The part that the parameter in the given place means, where it does not name one. -/
def partInPlace? (type : FieldType) (place : Nat) : Option SizePart :=
  match type, place with
  | .decimal, 0 => some .precision
  | .decimal, 1 => some .scale
  | .decimal, _ => none
  | _, 0 => some .length
  | _, _ => none

/-- Applies the parameters of a type; `place` counts those that do not name a part. -/
def applyParameters (type : FieldType) (place : Nat) (size : Size) : List (List Char) → Size
  | [] => size
  | parameter :: rest =>
    match Text.cutAt? ':' parameter with
    | some (key, value) =>
      match SizePart.ofKey? (Text.trim key) with
      | some part => applyParameters type place (size.setText part value) rest
      | none => applyParameters type place size rest
    | none =>
      match partInPlace? type place with
      -- A parameter takes its place even if its value is no number.
      | some part => applyParameters type (place + 1) (size.setText part parameter) rest
      | none => applyParameters type place size rest

end Size

/-- What the type of a field line means. -/
inductive TypeSpec where
  | column (type : FieldType) (size : Size)
  /-- An association with the rows of another table. -/
  | rowsOf (table : List Char)
  deriving DecidableEq, Repr

namespace TypeSpec

/-- The table of an association, as the type of a field line names it. -/
def associationTable? (token : List Char) : Option (List Char) :=
  match token.reverse with
  | ']' :: '[' :: rest => some rest.reverse
  | _ => none

/-- What stands in the brackets of a type, if it has any. -/
def parameterText (token : List Char) : List Char :=
  Text.dropEndWhile Nesting.isCloser ((token.dropWhile (!Nesting.isOpener ·)).drop 1)

/-- Reads the type of a field line. -/
def ofToken (token : List Char) : TypeSpec :=
  match associationTable? token with
  | some table => rowsOf table
  | none =>
    let type := (FieldType.ofToken? (token.takeWhile (!Nesting.isOpener ·))).getD .string
    column type (Size.applyParameters type 0 {} (items ',' (parameterText token)))

end TypeSpec

end SchemaLang
