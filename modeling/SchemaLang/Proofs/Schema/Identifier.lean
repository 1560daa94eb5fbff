import SchemaLang.Schema.Identifier
import SchemaLang.Text.Case

/-!
# Identifiers tell places apart

The place of a table can be read off its identifier, in any letter case and whatever the name of the
table is: the digits of the place end at the first `_`.

## Key results

- `digitsValue_paddedDecimal`: a padded numeral denotes its number
- `seq_eq_of_sameAsciiLetters`: identifiers that agree up to the case of letters have one place
-/

namespace SchemaLang

/-- A padded numeral denotes its number. -/
theorem digitsValue_paddedDecimal (width n : Nat) :
    Text.digitsValue (Text.paddedDecimal width n).toList = n := by
  rw [Text.paddedDecimal, String.toList_ofList, Text.decimal, Nat.toList_repr, List.leftpad]
  show Nat.ofDigitChars 10 _ 0 = n
  rw [Nat.ofDigitChars_append, Nat.ofDigitChars_replicate_zero, Nat.mul_zero,
    Nat.ofDigitChars_ten_toDigits]

/-- Digits have no case. -/
theorem toLower_of_isDigit {c : Char} (h : c.isDigit = true) : c.toLower = c := by
  rw [Char.isDigit, Bool.and_eq_true, decide_eq_true_eq, decide_eq_true_eq] at h
  refine dif_neg fun hupper => ?_
  exact absurd (UInt32.le_trans hupper.1 h.2) (by decide)

/-- The mark of a place as it stands in an identifier in lower case. -/
private theorem cutAt?_asciiLower_canonicalId (seq : Nat) (name : String) :
    Text.cutAt? '_' (Text.asciiLower (canonicalId seq name).toList) =
      some ('s' :: (Text.paddedDecimal 3 seq).toList, Text.asciiLower name.toList) := by
  have hdigits : (Text.paddedDecimal 3 seq).toList.map Char.toLower =
      (Text.paddedDecimal 3 seq).toList :=
    (List.map_congr_left fun _ hc => toLower_of_isDigit (isDigit_of_mem_paddedDecimal hc)).trans
      (List.map_id' _)
  have hmark : '_' ∉ 's' :: (Text.paddedDecimal 3 seq).toList := by
    rw [List.mem_cons, not_or]
    exact ⟨by decide, fun h => absurd (isDigit_of_mem_paddedDecimal h) (by decide)⟩
  have hlower : Text.asciiLower (canonicalId seq name).toList =
      ('s' :: (Text.paddedDecimal 3 seq).toList) ++ '_' :: Text.asciiLower name.toList := by
    simp [Text.asciiLower, canonicalId, hdigits]
  rw [hlower, Text.cutAt?_append hmark]

/-- Identifiers that agree up to the case of letters stand for one place. -/
theorem seq_eq_of_sameAsciiLetters {seq seq' : Nat} {name name' : String}
    (h : Text.sameAsciiLetters (canonicalId seq name) (canonicalId seq' name') = true) :
    seq = seq' := by
  have hcut := congrArg (Text.cutAt? '_') (Text.sameAsciiLetters_iff.mp h)
  rw [cutAt?_asciiLower_canonicalId, cutAt?_asciiLower_canonicalId, Option.some.injEq,
    Prod.mk.injEq, List.cons.injEq] at hcut
  rw [← digitsValue_paddedDecimal 3 seq, hcut.1.2, digitsValue_paddedDecimal]

end SchemaLang
