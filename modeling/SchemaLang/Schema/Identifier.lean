import SchemaLang.Text.Cut
import SchemaLang.Text.Numeral

/-!
# Model identifiers

The model of the table declared in place `seq` under `name` is identified by `S`, the place in at
least three digits, `_` and the name. The name can be read back from the identifier
(`declaredName_canonicalId`).
-/

namespace SchemaLang

/-- The identifier of the table declared in place `seq`. -/
def canonicalId (seq : Nat) (name : String) : String :=
  "S" ++ Text.paddedDecimal 3 seq ++ "_" ++ name

/-- The letter `S` and at least one digit. -/
def isPlaceMark : List Char → Bool
  | 'S' :: digits => !digits.isEmpty && digits.all Char.isDigit
  | _ => false

/-- The declared name in an identifier; the identifier itself if it is not of the usual form. -/
def declaredName (id : String) : String :=
  match Text.cutAt? '_' id.toList with
  | some (mark, name) => if isPlaceMark mark then String.ofList name else id
  | none => id

/-- The digits of a place in an identifier. -/
theorem isDigit_of_mem_paddedDecimal {width n : Nat} {c : Char}
    (h : c ∈ (Text.paddedDecimal width n).toList) : c.isDigit = true := by
  simp only [Text.paddedDecimal, Text.decimal, Nat.repr_eq_ofList_toDigits, String.toList_ofList,
    List.leftpad, List.mem_append, List.mem_replicate] at h
  rcases h with ⟨_, rfl⟩ | h
  · decide
  · exact Nat.isDigit_of_mem_toDigits (by decide) (by decide) h

theorem paddedDecimal_ne_nil (width n : Nat) : (Text.paddedDecimal width n).toList ≠ [] := by
  simp [Text.paddedDecimal, Text.decimal, Nat.repr_eq_ofList_toDigits, List.leftpad]

/-- The declared name can be read back from the identifier. -/
theorem declaredName_canonicalId (seq : Nat) (name : String) :
    declaredName (canonicalId seq name) = name := by
  have hdigits : ∀ c ∈ (Text.paddedDecimal 3 seq).toList, c.isDigit = true :=
    fun _ => isDigit_of_mem_paddedDecimal
  have hmark : '_' ∉ 'S' :: (Text.paddedDecimal 3 seq).toList := by
    simp only [List.mem_cons, not_or]
    exact ⟨by decide, fun h => by simpa using hdigits _ h⟩
  have hlist : (canonicalId seq name).toList =
      ('S' :: (Text.paddedDecimal 3 seq).toList) ++ '_' :: name.toList := by
    simp [canonicalId]
  have hplace : isPlaceMark ('S' :: (Text.paddedDecimal 3 seq).toList) = true := by
    simp only [isPlaceMark, Bool.and_eq_true, Bool.not_eq_true', List.isEmpty_eq_false_iff,
      List.all_eq_true]
    exact ⟨paddedDecimal_ne_nil 3 seq, hdigits⟩
  rw [declaredName, hlist, Text.cutAt?_append hmark]
  simp [hplace]

end SchemaLang
