/-!
# Blank characters

The two classes of blank characters of a schema source: the `White_Space` characters, which
trimming takes off, and the five ASCII blanks, which separate tokens. A trimmed text has no blank
at either end (`head_trimStart`, `getLast_trimEnd`), and trimming twice is trimming once
(`trim_trim`).
-/

namespace SchemaLang.Text

/-- The `White_Space` characters. -/
def isBlank (c : Char) : Bool :=
  let n := c.toNat
  (9 ≤ n && n ≤ 13) || n == 0x20 || n == 0x85 || n == 0xA0 || n == 0x1680 ||
    (0x2000 ≤ n && n ≤ 0x200A) || n == 0x2028 || n == 0x2029 || n == 0x202F || n == 0x205F ||
    n == 0x3000

/-- The blanks between tokens: space, tab, line feed, form feed and carriage return. -/
def isAsciiBlank (c : Char) : Bool :=
  c == ' ' || c == '\t' || c == '\n' || c == '\x0c' || c == '\r'

theorem isBlank_of_isAsciiBlank {c : Char} (h : isAsciiBlank c = true) : isBlank c = true := by
  simp only [isAsciiBlank, Bool.or_eq_true, beq_iff_eq] at h
  rcases h with (((rfl | rfl) | rfl) | rfl) | rfl <;> decide

/-- Drops a run of `p` characters from the end. -/
def dropEndWhile (p : Char → Bool) (s : List Char) : List Char :=
  (s.reverse.dropWhile p).reverse

/-- Drops the blanks in front. -/
def trimStart (s : List Char) : List Char :=
  s.dropWhile isBlank

/-- Drops the blanks at the end. -/
def trimEnd (s : List Char) : List Char :=
  dropEndWhile isBlank s

/-- Drops the blanks at both ends. -/
def trim (s : List Char) : List Char :=
  trimEnd (trimStart s)

@[simp] theorem dropEndWhile_nil (p : Char → Bool) : dropEndWhile p [] = [] := rfl

theorem dropEndWhile_append_singleton (p : Char → Bool) (s : List Char) (c : Char) :
    dropEndWhile p (s ++ [c]) = if p c then dropEndWhile p s else s ++ [c] := by
  simp only [dropEndWhile, List.reverse_append, List.reverse_singleton, List.singleton_append,
    List.dropWhile_cons]
  split <;> simp

/-- What is left is a front part of the text. -/
theorem dropEndWhile_prefix (p : Char → Bool) (s : List Char) : dropEndWhile p s <+: s := by
  have h := List.dropWhile_suffix p (l := s.reverse)
  simpa [dropEndWhile] using List.reverse_prefix.mpr h

/-- Nothing is dropped from a text whose last character stays. -/
theorem dropEndWhile_eq_self {p : Char → Bool} {s : List Char}
    (h : ∀ c, s.getLast? = some c → p c = false) : dropEndWhile p s = s := by
  cases hs : s.reverse with
  | nil => simp [List.reverse_eq_nil_iff.mp hs]
  | cons c r =>
    have hc : p c = false := h c (by rw [List.getLast?_eq_head?_reverse, hs]; rfl)
    have : s = (c :: r).reverse := by rw [← hs, List.reverse_reverse]
    simp [this, dropEndWhile, hc]

/-- The last character that is left is not one of those dropped. -/
theorem getLast_dropEndWhile {p : Char → Bool} {s : List Char} {c : Char}
    (h : (dropEndWhile p s).getLast? = some c) : p c = false := by
  rw [dropEndWhile, List.getLast?_reverse] at h
  have := List.head?_dropWhile_not p s.reverse
  rw [h] at this
  simpa using this

/-- Trimming adds nothing. -/
theorem mem_of_mem_trimStart {s : List Char} {c : Char} (h : c ∈ trimStart s) : c ∈ s :=
  (List.dropWhile_suffix isBlank).subset h

theorem mem_of_mem_trim {s : List Char} {c : Char} (h : c ∈ trim s) : c ∈ s := by
  have hfront := dropEndWhile_prefix isBlank (trimStart s)
  exact mem_of_mem_trimStart (hfront.subset h)

/-- A trimmed text does not start with a blank. -/
theorem head_trimStart {s : List Char} {c : Char} (h : (trimStart s).head? = some c) :
    isBlank c = false := by
  have := List.head?_dropWhile_not isBlank s
  rw [trimStart] at h
  rw [h] at this
  simpa using this

/-- A trimmed text does not end with a blank. -/
theorem getLast_trimEnd {s : List Char} {c : Char} (h : (trimEnd s).getLast? = some c) :
    isBlank c = false :=
  getLast_dropEndWhile h

@[simp] theorem trim_nil : trim [] = [] := rfl

/-- A text that neither starts nor ends with a blank is its own trimmed form. -/
theorem trim_eq_self {s : List Char} (hhead : ∀ c, s.head? = some c → isBlank c = false)
    (hlast : ∀ c, s.getLast? = some c → isBlank c = false) : trim s = s := by
  have hstart : trimStart s = s := by
    cases s with
    | nil => rfl
    | cons c r => simp [trimStart, hhead c rfl]
  rw [trim, hstart]
  exact dropEndWhile_eq_self hlast

/-- A trimmed text does not start with a blank, also after its end is trimmed. -/
theorem head_trim {s : List Char} {c : Char} (h : (trim s).head? = some c) :
    isBlank c = false := by
  obtain ⟨t, ht⟩ := dropEndWhile_prefix isBlank (trimStart s)
  apply head_trimStart (s := s)
  rw [← ht]
  change (trim s ++ t).head? = some c
  cases hs : trim s with
  | nil => simp [hs] at h
  | cons d r => simpa [hs] using h

/-- Trimming twice is trimming once. -/
@[simp] theorem trim_trim (s : List Char) : trim (trim s) = trim s :=
  trim_eq_self (fun _ => head_trim) (fun _ => getLast_trimEnd)

end SchemaLang.Text
