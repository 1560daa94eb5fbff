import SchemaLang.Json.Plain
import SchemaLang.Text.Cut
import SchemaLang.Toml.Basic

/-!
# Scalars of TOML documents

Numbers, truth values, dates and times. A scalar stands alone between delimiters, so each kind is a
predicate or a partial function on the whole text of one.
-/

namespace SchemaLang.Toml

/-- Digits with single underscores between them. -/
def isDigitRun (isDigit : Char → Bool) (s : List Char) : Bool :=
  let groups := Text.splitAt '_' s
  groups.all fun group => !group.isEmpty && group.all isDigit

/-- The value of a digit in any base up to sixteen. -/
def digitValue (c : Char) : Nat :=
  if c.isDigit then c.toNat - '0'.toNat else c.toLower.toNat - 'a'.toNat + 10

/-- The value of a run of digits in a base. -/
def runValue (base : Nat) (s : List Char) : Nat :=
  (s.filter (· != '_')).foldl (fun n c => base * n + digitValue c) 0

/-- The number, if a signed 64-bit word holds it. -/
def word64? (n : Int) : Option Int :=
  if Int64.minValue.toInt ≤ n ∧ n ≤ Int64.maxValue.toInt then some n else none

/-- A hexadecimal digit. -/
def isHexDigit (c : Char) : Bool :=
  c.isDigit || ('a' ≤ c && c ≤ 'f') || ('A' ≤ c && c ≤ 'F')

/-- An octal digit. -/
def isOctalDigit (c : Char) : Bool := '0' ≤ c && c ≤ '7'

/-- A binary digit. -/
def isBinaryDigit (c : Char) : Bool := c == '0' || c == '1'

/-- A whole number in a base of its own. -/
def basedInteger? (isDigit : Char → Bool) (base : Nat) (s : List Char) : Option Int :=
  if isDigitRun isDigit s then word64? (runValue base s) else none

/-- A decimal run without a superfluous zero in front. -/
def isWhole (s : List Char) : Bool :=
  isDigitRun Char.isDigit s && (s == ['0'] || s.head? != some '0')

/-- A whole number. -/
def integer? (s : List Char) : Option Int :=
  match s with
  | '0' :: 'x' :: digits => basedInteger? isHexDigit 16 digits
  | '0' :: 'o' :: digits => basedInteger? isOctalDigit 8 digits
  | '0' :: 'b' :: digits => basedInteger? isBinaryDigit 2 digits
  | '-' :: digits => if isWhole digits then word64? (-runValue 10 digits) else none
  | s =>
    let digits := Text.dropSign s
    if isWhole digits then word64? (runValue 10 digits) else none

/-- Splits an exponent into its sign and digits. -/
def exponent? (s : List Char) : Option (Bool × List Char) :=
  let digits := Text.dropSign s
  if isDigitRun Char.isDigit digits then
    some (s.head? == some '-', digits.filter (· != '_'))
  else none

/-- A number with a point or an exponent, without its sign. -/
def fractional? (negative : Bool) (s : List Char) : Option JsonNumber :=
  let isMark (c : Char) : Bool := c == 'e' || c == 'E'
  let mantissa := s.takeWhile (!isMark ·)
  let exponent? : Option (Option (Bool × List Char)) :=
    match s.dropWhile (!isMark ·) with
    | [] => some none
    | _ :: rest => (exponent? rest).map some
  match exponent?, Text.cutAt? '.' mantissa with
  | some exponent, some (whole, fraction) =>
    if isWhole whole && isDigitRun Char.isDigit fraction then
      some { negative, whole := whole.filter (· != '_'),
             fraction := fraction.filter (· != '_'), exponent }
    else none
  | some (some exponent), none =>
    if isWhole mantissa then
      some { negative, whole := mantissa.filter (· != '_'), exponent := some exponent }
    else none
  | _, _ => none

/-- A floating-point number. One that rounds to positive infinity is none. -/
def isFloat (s : List Char) : Bool :=
  let unsigned := Text.dropSign s
  if unsigned = "inf".toList ∨ unsigned = "nan".toList then true
  else
    match fractional? (s.head? == some '-') unsigned with
    | some n => n.negative || n.isFinite
    | none => false

/-- Two digits whose number lies between two bounds. -/
def isTwoDigits (low high : Nat) (s : List Char) : Bool :=
  s.length == 2 && s.all Char.isDigit && low ≤ Text.digitsValue s && Text.digitsValue s ≤ high

/-- The number of days of a month. -/
def daysOf (year month : Nat) : Nat :=
  if month = 2 then
    if (year % 4 = 0 ∧ year % 100 ≠ 0) ∨ year % 400 = 0 then 29 else 28
  else if month ∈ [4, 6, 9, 11] then 30
  else 31

/-- A date: year, month and day. -/
def isDate (s : List Char) : Bool :=
  match Text.splitAt '-' s with
  | [year, month, day] =>
    year.length == 4 && year.all Char.isDigit && isTwoDigits 1 12 month &&
      isTwoDigits 1 (daysOf (Text.digitsValue year) (Text.digitsValue month)) day
  | _ => false

/-- A second, with a fraction or without. -/
def isSecond (s : List Char) : Bool :=
  match Text.cutAt? '.' s with
  | some (second, fraction) =>
    isTwoDigits 0 60 second && !fraction.isEmpty && fraction.all Char.isDigit
  | none => isTwoDigits 0 60 s

/-- A time of day. -/
def isTime (s : List Char) : Bool :=
  match Text.splitAt ':' s with
  | [hour, minute, second] => isTwoDigits 0 23 hour && isTwoDigits 0 59 minute && isSecond second
  | _ => false

/-- An offset in hours and minutes. -/
def isOffset (s : List Char) : Bool :=
  match Text.splitAt ':' s with
  | [hour, minute] => isTwoDigits 0 23 hour && isTwoDigits 0 59 minute
  | _ => false

/-- A time of day, with an offset or without. -/
def isOffsetTime (s : List Char) : Bool :=
  isTime s ||
    (match s.reverse with
      | 'Z' :: time => isTime time.reverse
      | 'z' :: time => isTime time.reverse
      | _ => false) ||
    ['+', '-'].any fun sign =>
      match Text.cutAt? sign s with
      | some (time, offset) => isTime time && isOffset offset
      | none => false

/-- A date and a time, a date or a time. -/
def isDateTime (s : List Char) : Bool :=
  isDate s || isTime s ||
    ['T', 't', ' '].any fun mark =>
      match Text.cutAt? mark s with
      | some (date, time) => isDate date && isOffsetTime time
      | none => false

/-- The scalar that a text between delimiters spells. -/
def scalar? (s : List Char) : Option Toml :=
  if s = "true".toList then some (boolean true)
  else if s = "false".toList then some (boolean false)
  else if isDateTime s then some (dateTime (String.ofList s))
  else if isFloat s then some (float (String.ofList s))
  else (integer? s).map integer

end SchemaLang.Toml
