import SchemaLang.Schema.Basic
import SchemaLang.Text.Cut
import SchemaLang.Text.Numeral

/-!
# Literals of generated modules

String literals in single quotes, and what a default value of the source becomes: a string where it
is quoted or nothing else fits, a constant, the current time for columns that hold one, or a number
as it stands.
-/

namespace SchemaLang.Literal

/-- One character of a string literal. -/
def escapeChar (c : Char) : List Char :=
  if c = '\\' then ['\\', '\\'] else if c = '\'' then ['\\', '\''] else [c]

/-- A text between single quotes. -/
def quoteChars (s : List Char) : List Char :=
  '\'' :: (s.flatMap escapeChar ++ ['\''])

/-- A string literal. -/
def quote (s : String) : String :=
  String.ofList (quoteChars s.toList)

/-- The columns that may start with the current time. -/
def holdsTime : FieldType → Bool
  | .dateTime | .date | .time => true
  | _ => false

/-- The constant that a word means, in any case of its ASCII letters. -/
def constant? (type : FieldType) (word : List Char) : Option String :=
  let word := String.ofList (word.map Char.toLower)
  if word = "true" then some "True"
  else if word = "false" then some "False"
  else if word = "null" ∨ word = "none" then some "None"
  else if (word = "now" ∨ word = "now()") ∧ holdsTime type then some "db.func.now()"
  else none

/-- The expression for a default value. -/
def ofDefault (type : FieldType) (literal : String) : String :=
  let text := Text.trim literal.toList
  match Text.quotedBody? text with
  | some body => String.ofList (quoteChars body)
  | none =>
    match constant? type text with
    | some constant => constant
    | none => String.ofList (if Text.isFloat text then text else quoteChars text)

end SchemaLang.Literal
