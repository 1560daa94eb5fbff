/-!
# JSON values

A JSON value as a document spells it: members keep their order and may repeat a key, and a number is
its digits. A string may hold escapes for surrogates that do not pair up; it then stands for no
text.
-/

namespace SchemaLang

/-- A number as it is written: sign, whole part, digits behind the point (none without a point), and
    an exponent with its sign. -/
structure JsonNumber where
  negative : Bool := false
  whole : List Char
  fraction : List Char := []
  exponent : Option (Bool × List Char) := none
  deriving DecidableEq, Repr

/-- A JSON value. Strings and keys without a text are `none`. -/
inductive Json where
  | null
  | bool (value : Bool)
  | number (value : JsonNumber)
  | string (text : Option String)
  | array (elements : List Json)
  | object (members : List (Option String × Json))

namespace Json

/-- The string of a text. -/
def text (s : String) : Json := string (some s)

/-- A whole number. -/
def nat (n : Nat) : Json := number { whole := Nat.toDigits 10 n }

/-- An object with the given keys and values. -/
def record (members : List (String × Json)) : Json :=
  object (members.map fun (key, value) => (some key, value))

/-- An array of texts. -/
def texts (l : List String) : Json := array (l.map text)

end Json

end SchemaLang
