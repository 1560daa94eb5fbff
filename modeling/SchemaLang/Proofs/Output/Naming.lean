import SchemaLang.Output.Naming
import SchemaLang.Proofs.Schema.Identifier
import SchemaLang.Proofs.Text.Case

/-!
# Table names tell places apart

A naming policy keeps the mark of the place in an identifier, in lower or upper case. So the names
of two tables differ within that mark already, and no text that goes on with one of them is one that
goes on with the other.

## Key results

- `LetterCase.exists_apply_canonicalId`: an identifier in lower or upper case begins with its mark
- `TableNaming.exists_tableOf_canonicalId`: the name of a table holds a digit
- `TableNaming.seq_eq_of_tableOf_append`: a text begins with the name of one table only
-/

namespace SchemaLang

/-- Digits have no case. -/
private theorem caseForms_of_isDigit {c : Char} (h : c.isDigit = true) :
    c.toNat < 0x80 ∧ Text.upperChar c = [c] := by
  have hascii : c.toNat < 0x80 := by
    rw [Char.isDigit, Bool.and_eq_true, decide_eq_true_eq, decide_eq_true_eq] at h
    exact Nat.lt_of_le_of_lt (UInt32.le_iff_toNat_le.mp h.2) (by decide)
  have hall : ∀ n < 0x80, (Char.ofNat n).isDigit = true →
      Text.upperChar (Char.ofNat n) = [Char.ofNat n] := by
    decide
  exact ⟨hascii, Text.forall_ascii (p := fun c => c.isDigit = true → Text.upperChar c = [c]) hall
    hascii h⟩

/-- An identifier in lower or upper case begins with a letter, the digits of the place and `_`. -/
theorem LetterCase.exists_apply_canonicalId (letterCase : LetterCase) (seq : Nat) (name : String) :
    ∃ letter rest, letter ≠ '_' ∧ (letterCase.apply (canonicalId seq name)).toList =
      letter :: (Text.paddedDecimal 3 seq).toList ++ '_' :: rest := by
  have hlist : (canonicalId seq name).toList =
      'S' :: (Text.paddedDecimal 3 seq).toList ++ '_' :: name.toList := by
    simp [canonicalId]
  have hdigits : ∀ c ∈ (Text.paddedDecimal 3 seq).toList, c.isDigit = true :=
    fun _ => isDigit_of_mem_paddedDecimal
  cases letterCase with
  | lower =>
    have hascii : ∀ c ∈ 'S' :: (Text.paddedDecimal 3 seq).toList,
        c ≠ 'Σ' ∧ Text.lowerChar c = [c.toLower] := by
      refine List.forall_mem_cons.mpr ⟨by decide, fun c hc => ?_⟩
      exact Text.lower_of_ascii (caseForms_of_isDigit (hdigits c hc)).1
    have hmap : (Text.paddedDecimal 3 seq).toList.map Char.toLower =
        (Text.paddedDecimal 3 seq).toList :=
      (List.map_congr_left fun c hc => toLower_of_isDigit (hdigits c hc)).trans (List.map_id' _)
    have hback : ∀ before, ∃ rest, Text.lowerAfter before ('_' :: name.toList) = '_' :: rest :=
      fun _ => ⟨_, rfl⟩
    obtain ⟨rest, hrest⟩ := hback (('S' :: (Text.paddedDecimal 3 seq).toList).reverse ++ [])
    refine ⟨'s', rest, by decide, ?_⟩
    rw [apply, Text.lower, String.toList_ofList, Text.lowerChars, hlist,
      Text.lowerAfter_append hascii, hrest, List.map_cons, hmap]
    rfl
  | upper =>
    have hflat : (Text.paddedDecimal 3 seq).toList.flatMap Text.upperChar =
        (Text.paddedDecimal 3 seq).toList := by
      have hone := List.map_congr_left fun c hc => (caseForms_of_isDigit (hdigits c hc)).2
      rw [List.flatMap_def, hone, ← List.flatMap_def, List.flatMap_singleton']
    refine ⟨'S', name.toList.flatMap Text.upperChar, by decide, ?_⟩
    rw [apply, Text.upper, String.toList_ofList, Text.upperChars, hlist, List.flatMap_append,
      List.flatMap_cons, List.flatMap_cons, hflat]
    rfl

namespace TableNaming

/-- The name of a table has a digit behind a letter, and both behind the leading text. -/
theorem exists_tableOf_canonicalId (naming : TableNaming) (seq : Nat) (name : String) :
    ∃ letter digit rest, digit.isDigit = true ∧
      (naming.tableOf (canonicalId seq name)).toList =
        naming.leading.toList ++ letter :: digit :: rest := by
  obtain ⟨letter, rest, -, happly⟩ := naming.letterCase.exists_apply_canonicalId seq name
  obtain ⟨digit, digits, hdigits⟩ := List.exists_cons_of_ne_nil (paddedDecimal_ne_nil 3 seq)
  have hmem : digit ∈ (Text.paddedDecimal 3 seq).toList := hdigits ▸ List.mem_cons_self
  have hdigit : digit.isDigit = true := isDigit_of_mem_paddedDecimal hmem
  refine ⟨letter, digit, digits ++ '_' :: rest ++ naming.trailing.toList, hdigit, ?_⟩
  simp [tableOf, happly, hdigits]

/-- A text begins with the name of one table only. -/
theorem seq_eq_of_tableOf_append (naming : TableNaming) {seq seq' : Nat}
    {name name' a b : String}
    (h : naming.tableOf (canonicalId seq name) ++ a =
      naming.tableOf (canonicalId seq' name') ++ b) :
    seq = seq' := by
  obtain ⟨letter, rest, hletter, happly⟩ :=
    naming.letterCase.exists_apply_canonicalId seq name
  obtain ⟨letter', rest', hletter', happly'⟩ :=
    naming.letterCase.exists_apply_canonicalId seq' name'
  have hmark : ∀ {letter : Char} (seq : Nat), letter ≠ '_' →
      '_' ∉ letter :: (Text.paddedDecimal 3 seq).toList := by
    intro letter seq hletter
    rw [List.mem_cons, not_or]
    exact ⟨hletter.symm, fun h => absurd (isDigit_of_mem_paddedDecimal h) (by decide)⟩
  have hlist := congrArg String.toList h
  simp only [tableOf, String.toList_append, happly, happly', List.append_assoc,
    List.append_cancel_left_eq] at hlist
  -- What stands before the first `_` is the letter and the digits.
  have hcut := (Text.cutAt?_append (hmark seq hletter) _).symm.trans
    ((congrArg (Text.cutAt? '_') hlist).trans (Text.cutAt?_append (hmark seq' hletter') _))
  rw [Option.some.injEq, Prod.mk.injEq, List.cons.injEq] at hcut
  rw [← digitsValue_paddedDecimal 3 seq, hcut.1.2, digitsValue_paddedDecimal]

end TableNaming

end SchemaLang
