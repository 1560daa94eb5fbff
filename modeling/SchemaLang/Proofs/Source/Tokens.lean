import SchemaLang.Source.Token

/-!
# Closed tokens

A line is cut into tokens without a look at what follows, so a token can swallow its neighbours: a
bracket or a quote that is left open takes the rest of the line. A token is *closed* if it comes out
whole in front of a blank and a word. It then does so in front of any blank and at the end of the
line, and what follows is read as a line by itself.

## Key results

- `takeWord_append_of_stops`, `takeEnclosed_append_of_stops`: where a splitter stops does not depend
  on what follows
- `ofLine_text_append`: a closed token is found again in front of what follows it
-/

namespace SchemaLang

namespace Token

/-! ## Tokens at the front of a line -/

/-- The character starts a word: it is no blank, no brace and no square bracket. -/
def startsWord (c : Char) : Bool :=
  !(endsWord c || c == '[')

theorem endsWord_eq_false_iff {c : Char} :
    endsWord c = false ↔ Text.isAsciiBlank c = false ∧ c ≠ '\x7b' ∧ c ≠ '\x7d' := by
  simp [endsWord, and_assoc]

theorem ofLine_nil : ofLine [] = [] := by
  rw [ofLine]

theorem ofLine_blank {c : Char} (h : Text.isAsciiBlank c = true) (rest : List Char) :
    ofLine (c :: rest) = ofLine rest := by
  rw [ofLine, if_pos h]

/-- Blanks in front of a line are in no token. -/
theorem ofLine_blanks_append {indent : List Char} (h : indent.all Text.isAsciiBlank = true)
    (rest : List Char) : ofLine (indent ++ rest) = ofLine rest := by
  induction indent with
  | nil => rfl
  | cons c indent ih =>
    rw [List.all_cons, Bool.and_eq_true] at h
    rw [List.cons_append, ofLine_blank h.1, ih h.2]

theorem ofLine_opening (rest : List Char) : ofLine ('\x7b' :: rest) = opening :: ofLine rest := by
  rw [ofLine]
  simp [Text.isAsciiBlank]

theorem ofLine_closing (rest : List Char) : ofLine ('\x7d' :: rest) = closing :: ofLine rest := by
  rw [ofLine]
  simp [Text.isAsciiBlank]

theorem ofLine_bracket (rest : List Char) :
    ofLine ('[' :: rest) = group (dropCloser (takeEnclosed .enclosed rest).1) ::
      ofLine (takeEnclosed .enclosed rest).2 := by
  rw [ofLine]
  simp [Text.isAsciiBlank]

theorem ofLine_word {c : Char} (h : startsWord c = true) (rest : List Char) :
    ofLine (c :: rest) = word (c :: (takeWord (Nesting.top.stepWord c) rest).1) ::
      ofLine (takeWord (Nesting.top.stepWord c) rest).2 := by
  simp only [startsWord, endsWord, Bool.not_eq_true', Bool.or_eq_false_iff, beq_eq_false_iff_ne]
    at h
  rw [ofLine]
  simp [h]

/-- A word begins with a character that starts one. -/
theorem exists_cons_of_word_mem_ofLine {line w : List Char} (h : word w ∈ ofLine line) :
    ∃ c s, w = c :: s ∧ startsWord c = true := by
  fun_induction ofLine line with
  | case1 => simp at h
  | case2 c rest _ ih => exact ih h
  | case3 rest _ ih | case4 rest _ _ ih | case5 rest _ _ _ ih =>
    exact ih (by simpa using h)
  | case6 c rest hblank hopening hclosing hbracket ih =>
    rcases List.mem_cons.mp h with hword | h
    · refine ⟨c, _, word.inj hword, ?_⟩
      simp [startsWord, endsWord, hblank, hopening, hclosing, hbracket]
    · exact ih h

/-! ## Where the splitters stop -/

/-- Outside brackets a word goes on over a character that does not end it. -/
theorem takeWord_top_cons {c : Char} (h : endsWord c = false) (rest : List Char) :
    takeWord .top (c :: rest) = (c :: (takeWord (Nesting.top.stepWord c) rest).1,
      (takeWord (Nesting.top.stepWord c) rest).2) := by
  rw [takeWord, if_neg (by simp [h])]

/-- What follows a word: nothing, or a blank. -/
def IsGap (rest : List Char) : Prop :=
  ∀ c ∈ rest.head?, Text.isAsciiBlank c = true

@[simp] theorem isGap_nil : IsGap [] := by
  simp [IsGap]

@[simp] theorem isGap_cons {c : Char} {rest : List Char} :
    IsGap (c :: rest) ↔ Text.isAsciiBlank c = true := by
  simp [IsGap]

/-- A word that ends at a blank ends there whatever follows the blank, and at the end of the line. -/
theorem takeWord_append_of_stops {n : Nesting} {s t : List Char} {b : Char}
    (h : takeWord n (s ++ b :: t) = (s, b :: t)) {rest : List Char} (hrest : IsGap rest) :
    takeWord n (s ++ rest) = (s, rest) := by
  induction s generalizing n with
  | nil =>
    -- The word has stopped here, so no bracket is open.
    have htop : n.isTop = true := by
      cases hopen : n.isTop with
      | true => rfl
      | false => simp [takeWord, hopen] at h
    cases rest with
    | nil => rfl
    | cons c rest =>
      have hblank : Text.isAsciiBlank c = true := isGap_cons.mp hrest
      simp [takeWord, htop, endsWord, hblank]
  | cons c s ih =>
    rw [List.cons_append, takeWord] at h ⊢
    split at h
    · simp at h
    · next hgoes =>
      have hstops : takeWord (n.stepWord c) (s ++ b :: t) = (s, b :: t) := by
        simpa [Prod.ext_iff] using h
      rw [if_neg hgoes, ih hstops]

/-- A bracket that is closed is closed whatever follows. -/
theorem takeEnclosed_append_of_stops {n : Nesting} {s t : List Char} {b : Char}
    (h : takeEnclosed n (s ++ b :: t) = (s, b :: t)) (rest : List Char) :
    takeEnclosed n (s ++ rest) = (s, rest) := by
  induction s generalizing n with
  | nil =>
    -- At least the closer has been taken.
    rw [List.nil_append, takeEnclosed] at h
    split at h <;> simp at h
  | cons c s ih =>
    rw [List.cons_append, takeEnclosed] at h ⊢
    split at h
    · next hcloses =>
      obtain rfl : s = [] := by simpa using (Prod.ext_iff.mp h).1
      rw [if_pos hcloses, List.nil_append]
    · next hgoes =>
      have hstops : takeEnclosed (n.step c) (s ++ b :: t) = (s, b :: t) := by
        simpa [Prod.ext_iff] using h
      rw [if_neg hgoes, ih hstops]

/-! ## Closed tokens -/

/-- The token as it is written. -/
def text : Token → List Char
  | word w => w
  | group inner => '[' :: (inner ++ [']'])
  | opening => ['\x7b']
  | closing => ['\x7d']

/-- In front of a blank and a word the token is read as itself, and the word by itself. -/
def IsClosed (token : Token) : Prop :=
  ofLine (token.text ++ " x".toList) = [token, word "x".toList]

instance (token : Token) : Decidable token.IsClosed :=
  inferInstanceAs (Decidable (_ = _))

/-- A closed word stops at the blank behind it. -/
theorem exists_takeWord_of_isClosed {w : List Char} (h : (word w).IsClosed) :
    ∃ c s, w = c :: s ∧ startsWord c = true ∧
      takeWord (Nesting.top.stepWord c) (s ++ " x".toList) = (s, " x".toList) := by
  have hmem : word w ∈ ofLine ((word w).text ++ " x".toList) := by
    rw [h]
    exact List.mem_cons_self
  obtain ⟨c, s, rfl, hstarts⟩ := exists_cons_of_word_mem_ofLine hmem
  refine ⟨c, s, rfl, hstarts, ?_⟩
  rw [IsClosed, text, List.cons_append, ofLine_word hstarts, List.cons.injEq, word.injEq,
    List.cons.injEq] at h
  have hsplit := takeWord_append (Nesting.top.stepWord c) (s ++ " x".toList)
  rw [h.1.2, List.append_cancel_left_eq] at hsplit
  exact Prod.ext h.1.2 hsplit

/-- A closed group stops at its closer. -/
theorem takeEnclosed_of_isClosed {inner : List Char} (h : (group inner).IsClosed) :
    takeEnclosed .enclosed (inner ++ [']'] ++ " x".toList) = (inner ++ [']'], " x".toList) := by
  rw [IsClosed, text, List.cons_append, ofLine_bracket, List.cons.injEq, group.injEq] at h
  obtain ⟨hinner, hrest⟩ := h
  have hsplit := takeEnclosed_append .enclosed (inner ++ [']'] ++ " x".toList)
  rw [dropCloser] at hinner
  split at hinner
  · next hcloser =>
    -- The square bracket has been taken with the group.
    obtain ⟨front, htaken⟩ := List.getLast?_eq_some_iff.mp hcloser
    rw [htaken, List.dropLast_concat] at hinner
    subst hinner
    rw [htaken, List.append_cancel_left_eq] at hsplit
    exact Prod.ext htaken hsplit
  · -- Otherwise it would be left in front of the last word, and be a word itself.
    rw [hinner, List.append_assoc inner, List.append_cancel_left_eq] at hsplit
    rw [List.append_assoc inner, hsplit] at hrest
    exact absurd hrest (by decide +kernel)

/-- A closed token is found again in front of what follows it. -/
theorem ofLine_text_append {token : Token} (h : token.IsClosed) {rest : List Char}
    (hrest : IsGap rest) : ofLine (token.text ++ rest) = token :: ofLine rest := by
  cases token with
  | word w =>
    obtain ⟨c, s, rfl, hstarts, hstops⟩ := exists_takeWord_of_isClosed h
    have htaken := takeWord_append_of_stops hstops hrest
    rw [text, List.cons_append, ofLine_word hstarts, htaken]
  | group inner =>
    have htaken := takeEnclosed_append_of_stops (takeEnclosed_of_isClosed h) rest
    rw [text, List.cons_append, ofLine_bracket, htaken]
    simp [dropCloser]
  | opening => exact ofLine_opening rest
  | closing => exact ofLine_closing rest

/-- What stands in brackets belongs to its token, quotes and blanks and all. -/
example : (word "Decimal(10, 2)".toList).IsClosed ∧ (group "default: \"a ] b\"".toList).IsClosed ∧
    ¬ (word "Decimal(10".toList).IsClosed ∧ ¬ (group "a) b".toList).IsClosed := by
  decide +kernel

end Token

end SchemaLang
