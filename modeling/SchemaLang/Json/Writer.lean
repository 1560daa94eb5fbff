import SchemaLang.Json.Basic
import SchemaLang.Text.Numeral

/-!
# Writing JSON

Documents are written with one member or element to a line and two more spaces of indentation at
each level; what is empty stays on its line. In a string, quotes, backslashes and the control
characters below the space are escaped, and nothing else is.
-/

namespace SchemaLang.Json

/-- One character of a string. -/
def escapeChar (c : Char) : List Char :=
  if c = '"' then ['\\', '"']
  else if c = '\\' then ['\\', '\\']
  else if c = Char.ofNat 8 then ['\\', 'b']
  else if c = '\t' then ['\\', 't']
  else if c = '\n' then ['\\', 'n']
  else if c = Char.ofNat 12 then ['\\', 'f']
  else if c = '\r' then ['\\', 'r']
  else if c.toNat < 0x20 then
    ['\\', 'u', '0', '0', Nat.digitChar (c.toNat / 16), Nat.digitChar (c.toNat % 16)]
  else [c]

/-- A string with its quotes; one without a text is written empty. -/
def writeString (text : Option String) : List Char :=
  '"' :: ((text.getD "").toList.flatMap escapeChar ++ ['"'])

/-- A number. -/
def writeNumber (n : JsonNumber) : List Char :=
  (if n.negative then ['-'] else []) ++ n.whole ++
    (if n.fraction.isEmpty then [] else '.' :: n.fraction) ++
    match n.exponent with
    | none => []
    | some (negative, digits) => 'e' :: (if negative then '-' :: digits else digits)

/-- The start of a line at a level of indentation. -/
def newLine (level : Nat) : List Char :=
  '\n' :: List.replicate (2 * level) ' '

mutual

/-- A value at a level of indentation. -/
def write (level : Nat) : Json → List Char
  | null => "null".toList
  | bool true => "true".toList
  | bool false => "false".toList
  | number n => writeNumber n
  | string text => writeString text
  | array [] => ['[', ']']
  | array (v :: rest) =>
    '[' :: (newLine (level + 1) ++ (write (level + 1) v ++ writeElements level rest))
  | object [] => ['\x7b', '\x7d']
  | object ((key, v) :: rest) =>
    '\x7b' :: (newLine (level + 1) ++ (writeString key ++
      (':' :: ' ' :: (write (level + 1) v ++ writeMembers level rest))))

/-- The elements after the first one, and the end of the array. -/
def writeElements (level : Nat) : List Json → List Char
  | [] => newLine level ++ [']']
  | v :: rest => ',' :: (newLine (level + 1) ++ (write (level + 1) v ++ writeElements level rest))

/-- The members after the first one, and the end of the object. -/
def writeMembers (level : Nat) : List (Option String × Json) → List Char
  | [] => newLine level ++ ['\x7d']
  | (key, v) :: rest =>
    ',' :: (newLine (level + 1) ++ (writeString key ++
      (':' :: ' ' :: (write (level + 1) v ++ writeMembers level rest))))

end

/-- The text of a document, which ends its last line. -/
def toDocument (v : Json) : String :=
  String.ofList (write 0 v ++ ['\n'])

end SchemaLang.Json
