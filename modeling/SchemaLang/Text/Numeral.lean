/-!
# Numerals

Reading and writing numbers: decimal digits, the numerals of unsigned 32-bit words, zero-padded
and hexadecimal output, and the texts that denote a floating-point number.
-/

namespace SchemaLang.Text

/-- The number that a list of decimal digits denotes. -/
def digitsValue (s : List Char) : Nat :=
  s.foldl (fun n c => 10 * n + (c.toNat - '0'.toNat)) 0

/-- The 32-bit word with the given value, if there is one. -/
def word32? (n : Nat) : Option UInt32 :=
  if h : n < UInt32.size then some (UInt32.ofNatLT n h) else none

theorem word32?_eq_some_iff {n : Nat} {w : UInt32} : word32? n = some w ↔ w.toNat = n := by
  unfold word32?
  split
  · next h =>
    simp only [Option.some.injEq, ← UInt32.toNat_inj]
    exact eq_comm
  · next h =>
    simp only [false_iff, reduceCtorEq]
    rintro rfl
    exact h w.toNat_lt

/-- An unsigned numeral of a 32-bit word: digits, with a plus sign in front or not. -/
def readWord32? (s : List Char) : Option UInt32 :=
  let digits := if s.head? = some '+' then s.tail else s
  if digits ≠ [] ∧ digits.all Char.isDigit then word32? (digitsValue digits) else none

/-- A number in decimal digits. -/
def decimal (n : Nat) : String :=
  n.repr

/-- A number in at least `width` decimal digits, with zeros in front. -/
def paddedDecimal (width n : Nat) : String :=
  String.ofList (List.leftpad width '0' (decimal n).toList)

/-- A number in lower case hexadecimal digits. -/
def hexadecimal (n : Nat) : String :=
  String.ofList (Nat.toDigits 16 n)

/-- The text after a sign, if it starts with one. -/
def dropSign : List Char → List Char
  | '+' :: rest => rest
  | '-' :: rest => rest
  | s => s

/-- An exponent: nothing, or the letter `e` with a signed run of digits. -/
def isExponent : List Char → Bool
  | [] => true
  | c :: rest =>
    let digits := dropSign rest
    (c == 'e' || c == 'E') && !digits.isEmpty && digits.all Char.isDigit

/-- A decimal significand with a digit on at least one side of its point, and an exponent. -/
def isDecimalFloat (s : List Char) : Bool :=
  let whole := s.takeWhile Char.isDigit
  match s.dropWhile Char.isDigit with
  | '.' :: rest =>
    !(whole.isEmpty && (rest.takeWhile Char.isDigit).isEmpty) &&
      isExponent (rest.dropWhile Char.isDigit)
  | rest => !whole.isEmpty && isExponent rest

/-- The names of the numbers that have no digits, in any letter case. -/
def isNamedFloat (s : List Char) : Bool :=
  let name := s.map Char.toLower
  name == "inf".toList || name == "infinity".toList || name == "nan".toList

/-- The text denotes a floating-point number. -/
def isFloat (s : List Char) : Bool :=
  isDecimalFloat (dropSign s) || isNamedFloat (dropSign s)

end SchemaLang.Text
