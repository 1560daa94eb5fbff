import SchemaLang.Text.Blank

/-!
# Cutting texts

Cutting a text at the first occurrence of a character, and taking off the quotes around a text.
`cutAt?` loses nothing but the separator (`eq_of_cutAt?`) and fails exactly where there is none
(`cutAt?_eq_none_iff`).
-/

namespace SchemaLang.Text

/-- The parts before and after the first `sep`. -/
def cutAt? (sep : Char) : List Char → Option (List Char × List Char)
  | [] => none
  | c :: rest =>
    if c = sep then some ([], rest)
    else (cutAt? sep rest).map fun (front, back) => (c :: front, back)

theorem cutAt?_eq_none_iff {sep : Char} {s : List Char} : cutAt? sep s = none ↔ sep ∉ s := by
  induction s with
  | nil => simp [cutAt?]
  | cons c rest ih =>
    by_cases h : c = sep
    · simp [cutAt?, h]
    · simp [cutAt?, h, ih, Ne.symm h]

/-- The text is the two parts with the separator between them, and the front part holds none. -/
theorem eq_of_cutAt? {sep : Char} {s front back : List Char}
    (h : cutAt? sep s = some (front, back)) : s = front ++ sep :: back ∧ sep ∉ front := by
  induction s generalizing front with
  | nil => simp [cutAt?] at h
  | cons c rest ih =>
    by_cases hc : c = sep
    · simp only [cutAt?, hc, if_true, Option.some.injEq, Prod.mk.injEq] at h
      obtain ⟨rfl, rfl⟩ := h
      simp [hc]
    · simp only [cutAt?, hc, if_false, Option.map_eq_some_iff] at h
      obtain ⟨⟨f, b⟩, hfb, he⟩ := h
      simp only [Prod.mk.injEq] at he
      obtain ⟨rfl, rfl⟩ := he
      obtain ⟨rfl, hf⟩ := ih hfb
      simp [hf, Ne.symm hc]

/-- A front part without the separator is cut off whole. -/
theorem cutAt?_append {sep : Char} {front : List Char} (h : sep ∉ front) (back : List Char) :
    cutAt? sep (front ++ sep :: back) = some (front, back) := by
  induction front with
  | nil => simp [cutAt?]
  | cons c rest ih =>
    simp only [List.mem_cons, not_or] at h
    simp [cutAt?, Ne.symm h.1, ih h.2]

/-- The stretches of a text between the occurrences of `sep`; there is one more of them than of
    those. -/
def splitAt (sep : Char) : List Char → List (List Char)
  | [] => [[]]
  | c :: rest =>
    if c = sep then [] :: splitAt sep rest else (splitAt sep rest).modifyHead (c :: ·)

/-- The text occurs somewhere in the other one. -/
def occursIn (part : List Char) : List Char → Bool
  | [] => part.isEmpty
  | c :: rest => part.isPrefixOf (c :: rest) || occursIn part rest

/-- The text behind the first `n` bytes of its UTF-8 form, if a character ends there. -/
def dropBytes? : Nat → List Char → Option (List Char)
  | 0, s => some s
  | _, [] => none
  | n, c :: rest => if c.utf8Size ≤ n then dropBytes? (n - c.utf8Size) rest else none

/-- What stands between two quotes `quote` that open and close the text. -/
def stripQuotes? (quote : Char) : List Char → Option (List Char)
  | [] => none
  | c :: rest =>
    if c = quote ∧ rest.getLast? = some quote then some rest.dropLast else none

/-- What stands between the quotes of a text in double or else single quotes. -/
def quotedBody? (s : List Char) : Option (List Char) :=
  (stripQuotes? '"' s).or (stripQuotes? '\'' s)

/-- The trimmed text, without the pair of quotes around it if it has one. -/
def unquote (s : List Char) : List Char :=
  (quotedBody? (trim s)).getD (trim s)

theorem stripQuotes?_quoted (quote : Char) (s : List Char) :
    stripQuotes? quote (quote :: (s ++ [quote])) = some s := by
  simp [stripQuotes?]

/-- A text in double quotes has no blanks around it. -/
theorem trim_quoted (s : List Char) : trim ('"' :: (s ++ ['"'])) = '"' :: (s ++ ['"']) := by
  apply trim_eq_self
  · intro c hc
    obtain rfl : '"' = c := by simpa using hc
    decide
  · intro c hc
    rw [← List.cons_append, List.getLast?_concat] at hc
    obtain rfl : '"' = c := by simpa using hc
    decide

/-- A text in double quotes is unquoted to what stands between them. -/
theorem unquote_quoted (s : List Char) : unquote ('"' :: (s ++ ['"'])) = s := by
  simp [unquote, trim_quoted, quotedBody?, stripQuotes?_quoted]

end SchemaLang.Text
