import SchemaLang.Json.Basic
import SchemaLang.Text.Numeral

/-!
# Plain values

A value is plain if it can be held as it stands: its strings and keys have a text, its numbers lie
in the range of double precision, and it is not nested too deep.
-/

namespace SchemaLang

namespace JsonNumber

/-- The least number that rounds to an infinite one in double precision. -/
def overflowBound : Nat := Nat.pow 2 1024 - Nat.pow 2 970

/-- The number rounds to a finite one in double precision. The order of magnitude decides where it
    is clear, so that no exponent is ever worked out that is out of all proportion. -/
def isFinite (n : JsonNumber) : Bool :=
  let digits := (n.whole ++ n.fraction).dropWhile (· == '0')
  let exponent : Int :=
    (match n.exponent with
      | none => 0
      | some (true, e) => -(Text.digitsValue e : Int)
      | some (false, e) => Text.digitsValue e) - n.fraction.length
  let order := digits.length + exponent
  if digits.isEmpty || order < 300 then true
  else if 310 < order then false
  else
    Text.digitsValue digits * Nat.pow 10 exponent.toNat <
      overflowBound * Nat.pow 10 (-exponent).toNat

end JsonNumber

namespace Json

mutual

/-- The number of arrays and objects around the innermost value, the value itself included. -/
def height : Json → Nat
  | array elements => heightOfElements elements + 1
  | object members => heightOfMembers members + 1
  | _ => 0

/-- The greatest height of some elements. -/
def heightOfElements : List Json → Nat
  | [] => 0
  | v :: rest => max v.height (heightOfElements rest)

/-- The greatest height of some members. -/
def heightOfMembers : List (Option String × Json) → Nat
  | [] => 0
  | (_, v) :: rest => max v.height (heightOfMembers rest)

end

mutual

/-- Every string and key has a text and every number is in range. -/
def hasTexts : Json → Bool
  | number n => n.isFinite
  | string text => text.isSome
  | array elements => elementsHaveTexts elements
  | object members => membersHaveTexts members
  | _ => true

/-- `hasTexts` for some elements. -/
def elementsHaveTexts : List Json → Bool
  | [] => true
  | v :: rest => v.hasTexts && elementsHaveTexts rest

/-- `hasTexts` for some members. -/
def membersHaveTexts : List (Option String × Json) → Bool
  | [] => true
  | (key, v) :: rest => key.isSome && v.hasTexts && membersHaveTexts rest

end

/-- The greatest number of arrays and objects around one another in a plain value. -/
def nestingLimit : Nat := 127

/-- The value is plain where it stands inside `above` arrays and objects. -/
def isPlain (above : Nat) (v : Json) : Bool :=
  v.hasTexts && above + v.height ≤ nestingLimit

end Json

end SchemaLang
