import SchemaLang.Proofs.Source.Tokens

/-!
# The spelling of tokens

A line is its tokens, as they are spelled, with blanks between them: the scanner passes over nothing
else. How many blanks stand in front of a token says nothing, as long as any do, so the tokens can be
written with other blanks between them and are read again. Behind the last one none may be put, since
a bracket or a quote that it leaves open would take them.

## Key results

- `takeWord_fst`, `takeEnclosed_fst`: what a splitter takes it takes again
- `exists_startsWith`: a line starts with a token, which holds together by itself
- `KeepTokens.cons`: tokens are read again with other blanks between them
- `exists_isSpelled`: a line is made of its tokens, and they can be written so
-/

namespace SchemaLang

namespace Token

/-! ## Splitters -/

/-- What a bracket takes it takes again. -/
theorem takeEnclosed_fst (n : Nesting) (s : List Char) :
    takeEnclosed n (takeEnclosed n s).1 = ((takeEnclosed n s).1, []) := by
  induction s generalizing n with
  | nil => rfl
  | cons c s ih =>
    rw [takeEnclosed]
    split
    · next hcloses => rw [takeEnclosed, if_pos hcloses]
    · next hgoes => rw [takeEnclosed, if_neg hgoes, ih]

/-- What a word takes it takes again. -/
theorem takeWord_fst (n : Nesting) (s : List Char) :
    takeWord n (takeWord n s).1 = ((takeWord n s).1, []) := by
  induction s generalizing n with
  | nil => rfl
  | cons c s ih =>
    rw [takeWord]
    split
    · rfl
    · next hgoes => rw [takeWord, if_neg hgoes, ih]

/-! ## Tokens at the front of a line -/

/-- How a token is written. The square bracket behind a group is missing only where it would be taken
    for a part of it: if the group does not end with one. -/
inductive IsSpelling : Token → List Char → Prop
  | word {w : List Char} (hne : w ≠ []) : IsSpelling (word w) w
  | group (inner : List Char) : IsSpelling (group inner) ('[' :: (inner ++ [']']))
  | unclosed {inner : List Char} (hcloser : inner.getLast? ≠ some ']') :
      IsSpelling (group inner) ('[' :: inner)
  | opening : IsSpelling opening ['\x7b']
  | closing : IsSpelling closing ['\x7d']

/-- The text is a token in front of the rest, and it is that token by itself too. Where something
    follows it, it is that token in front of any gap. -/
structure StartsWith (token : Token) (text left : List Char) : Prop where
  spelling : IsSpelling token text
  ofLine_append : ofLine (text ++ left) = token :: ofLine left
  alone : ofLine text = [token]
  gap : left ≠ [] → ∀ rest, IsGap rest → ofLine (text ++ rest) = token :: ofLine rest

theorem IsSpelling.ne_nil {token : Token} {text : List Char} (h : IsSpelling token text) :
    text ≠ [] := by
  cases h with
  | word hne => exact hne
  | group | unclosed | opening | closing => exact List.cons_ne_nil _ _

/-- A group is written with its closer or without one. -/
theorem isSpelling_dropCloser (s : List Char) : IsSpelling (group (dropCloser s)) ('[' :: s) := by
  rw [dropCloser]
  split
  · next hcloser =>
    obtain ⟨inner, rfl⟩ := List.getLast?_eq_some_iff.mp hcloser
    rw [List.dropLast_concat]
    exact .group inner
  · next hcloser => exact .unclosed hcloser

theorem startsWith_group (rest : List Char) :
    StartsWith (group (dropCloser (takeEnclosed .enclosed rest).1))
      ('[' :: (takeEnclosed .enclosed rest).1) (takeEnclosed .enclosed rest).2 := by
  have hrest := takeEnclosed_append .enclosed rest
  constructor
  case spelling => exact isSpelling_dropCloser _
  case ofLine_append => rw [List.cons_append, hrest, ofLine_bracket]
  case alone =>
    rw [ofLine_bracket, takeEnclosed_fst, ofLine_nil]
  case gap =>
    intro hleft rest' _
    obtain ⟨b, left, hcons⟩ := List.exists_cons_of_ne_nil hleft
    have hstops : takeEnclosed .enclosed ((takeEnclosed .enclosed rest).1 ++ b :: left) =
        ((takeEnclosed .enclosed rest).1, b :: left) := by
      rw [← hcons, hrest]
    rw [List.cons_append, ofLine_bracket, takeEnclosed_append_of_stops hstops]

theorem startsWith_word {c : Char} (h : startsWord c = true) (rest : List Char) :
    StartsWith (word (c :: (takeWord (Nesting.top.stepWord c) rest).1))
      (c :: (takeWord (Nesting.top.stepWord c) rest).1)
      (takeWord (Nesting.top.stepWord c) rest).2 := by
  have hrest := takeWord_append (Nesting.top.stepWord c) rest
  constructor
  case spelling => exact .word (List.cons_ne_nil _ _)
  case ofLine_append => rw [List.cons_append, hrest, ofLine_word h]
  case alone =>
    rw [ofLine_word h, takeWord_fst, ofLine_nil]
  case gap =>
    intro hleft rest' hgap
    obtain ⟨b, left, hcons⟩ := List.exists_cons_of_ne_nil hleft
    have hstops : takeWord (Nesting.top.stepWord c)
        ((takeWord (Nesting.top.stepWord c) rest).1 ++ b :: left) =
          ((takeWord (Nesting.top.stepWord c) rest).1, b :: left) := by
      rw [← hcons, hrest]
    rw [List.cons_append, ofLine_word h, takeWord_append_of_stops hstops hgap]

theorem startsWith_opening (rest : List Char) : StartsWith opening ['\x7b'] rest where
  spelling := .opening
  ofLine_append := ofLine_opening rest
  alone := by rw [ofLine_opening, ofLine_nil]
  gap := fun _ rest' _ => ofLine_opening rest'

theorem startsWith_closing (rest : List Char) : StartsWith closing ['\x7d'] rest where
  spelling := .closing
  ofLine_append := ofLine_closing rest
  alone := by rw [ofLine_closing, ofLine_nil]
  gap := fun _ rest' _ => ofLine_closing rest'

/-- A line that does not start with a blank starts with a token. -/
theorem exists_startsWith {c : Char} (h : Text.isAsciiBlank c = false) (rest : List Char) :
    ∃ token text left, c :: rest = text ++ left ∧ StartsWith token text left := by
  by_cases hopening : c = '\x7b'
  · subst hopening
    exact ⟨_, _, rest, rfl, startsWith_opening rest⟩
  by_cases hclosing : c = '\x7d'
  · subst hclosing
    exact ⟨_, _, rest, rfl, startsWith_closing rest⟩
  by_cases hbracket : c = '['
  · subst hbracket
    refine ⟨_, _, _, ?_, startsWith_group rest⟩
    rw [List.cons_append, takeEnclosed_append]
  · have hstarts : startsWord c = true := by
      simp [startsWord, endsWord, h, hopening, hclosing, hbracket]
    refine ⟨_, _, _, ?_, startsWith_word hstarts rest⟩
    rw [List.cons_append, takeWord_append]

/-! ## Lines -/

/-- A token as it is written on a line, with the blanks in front of it. -/
structure Spelled where
  gap : List Char
  token : Token
  text : List Char
  deriving DecidableEq, Repr

/-- The line is made of the tokens and of blanks. -/
structure IsSpelled (line : List Char) (entries : List Spelled) (back : List Char) : Prop where
  line_eq : line = (entries.flatMap fun entry => entry.gap ++ entry.text) ++ back
  tokens : ofLine line = entries.map (·.token)
  spelling : ∀ entry ∈ entries, IsSpelling entry.token entry.text
  gaps : ∀ entry ∈ entries, entry.gap.all Text.isAsciiBlank = true
  back : back.all Text.isAsciiBlank = true

/-- Blanks that stand in front of so many tokens and keep them apart. In front of the first one there
    need not be any. -/
structure PartTokens (gaps : List (List Char)) (n : Nat) : Prop where
  length : gaps.length = n
  blank : ∀ gap ∈ gaps, gap.all Text.isAsciiBlank = true
  parted : ∀ gap ∈ gaps.tail, gap ≠ []

/-- The texts with blanks in front of them. -/
def spaced (gaps texts : List (List Char)) : List Char :=
  (gaps.zipWith (· ++ ·) texts).flatten

/-- The tokens can be written with any blanks in front of them. -/
def KeepTokens (entries : List Spelled) : Prop :=
  ∀ gaps, PartTokens gaps entries.length →
    ofLine (spaced gaps (entries.map (·.text))) = entries.map (·.token)

theorem keepTokens_nil : KeepTokens [] := by
  intro gaps _
  rw [spaced, List.map_nil, List.zipWith_nil_right, List.flatten_nil, ofLine_nil]
  rfl

/-- Blanks that keep tokens apart are a gap behind any text. -/
theorem isGap_spaced {gaps texts : List (List Char)}
    (hblank : ∀ gap ∈ gaps, gap.all Text.isAsciiBlank = true) (hparted : ∀ gap ∈ gaps, gap ≠ []) :
    IsGap (spaced gaps texts) := by
  cases gaps with
  | nil => simp [spaced]
  | cons gap gaps =>
    cases texts with
    | nil => simp [spaced]
    | cons text texts =>
      obtain ⟨c, gap, rfl⟩ := List.exists_cons_of_ne_nil (hparted _ List.mem_cons_self)
      have hc := hblank _ List.mem_cons_self
      rw [List.all_cons, Bool.and_eq_true] at hc
      exact isGap_cons.mpr hc.1

/-- A token in front of others that keep is kept with them. -/
theorem KeepTokens.cons {entry : Spelled} {entries : List Spelled} (h : KeepTokens entries)
    {left : List Char} (hentry : StartsWith entry.token entry.text left)
    (hleft : ofLine left = entries.map (·.token)) : KeepTokens (entry :: entries) := by
  intro gaps hgaps
  obtain ⟨gap, gaps, rfl⟩ : ∃ gap others, gaps = gap :: others :=
    List.exists_cons_of_length_eq_add_one hgaps.length
  obtain ⟨hlength, hblank, hparted⟩ := hgaps
  obtain ⟨hgap, hblank⟩ := List.forall_mem_cons.mp hblank
  have hspaced : spaced (gap :: gaps) ((entry :: entries).map (·.text)) =
      gap ++ (entry.text ++ spaced gaps (entries.map (·.text))) := by
    simp [spaced]
  rw [hspaced, ofLine_blanks_append hgap]
  cases entries with
  | nil =>
    -- Nothing follows the last token.
    rw [show spaced gaps _ = [] by simp [spaced], List.append_nil]
    exact hentry.alone
  | cons next entries =>
    have hne : left ≠ [] := by
      rintro rfl
      rw [ofLine_nil] at hleft
      cases hleft
    have hothers : PartTokens gaps (next :: entries).length :=
      ⟨by simpa using hlength, hblank, fun gap hmem => hparted gap (List.mem_of_mem_tail hmem)⟩
    rw [hentry.gap hne _ (isGap_spaced hblank hparted), h gaps hothers]
    rfl

/-- A line is made of its tokens, and they can be written with other blanks in front of them. -/
theorem exists_isSpelled (line : List Char) :
    ∃ entries back, IsSpelled line entries back ∧ KeepTokens entries := by
  induction hlength : line.length using Nat.strongRecOn generalizing line with
  | ind length ih =>
    have hgap : (line.takeWhile Text.isAsciiBlank).all Text.isAsciiBlank = true :=
      List.all_takeWhile
    have hline : line = line.takeWhile Text.isAsciiBlank ++ line.dropWhile Text.isAsciiBlank :=
      List.takeWhile_append_dropWhile.symm
    have htokens := ofLine_blanks_append hgap (line.dropWhile Text.isAsciiBlank)
    rw [← hline] at htokens
    cases hrest : line.dropWhile Text.isAsciiBlank with
    | nil =>
      rw [hrest, ofLine_nil] at htokens
      rw [hrest, List.append_nil] at hline
      exact ⟨[], line, ⟨rfl, htokens, nofun, nofun, hline ▸ hgap⟩, keepTokens_nil⟩
    | cons c rest =>
      have hc : Text.isAsciiBlank c = false := by
        simpa [hrest] using List.head?_dropWhile_not Text.isAsciiBlank line
      obtain ⟨token, text, left, htext, hstarts⟩ := exists_startsWith hc rest
      rw [hrest, htext] at hline htokens
      have hshorter : left.length < length := by
        have hlt := List.length_pos_iff.mpr hstarts.spelling.ne_nil
        rw [← hlength, hline]
        simp only [List.length_append]
        omega
      obtain ⟨entries, back, hspelled, hkeep⟩ := ih left.length hshorter left rfl
      refine ⟨⟨line.takeWhile Text.isAsciiBlank, token, text⟩ :: entries, back, ?_,
        hkeep.cons hstarts hspelled.tokens⟩
      constructor
      case line_eq =>
        rw [List.flatMap_cons, List.append_assoc, ← hspelled.line_eq, List.append_assoc, ← hline]
      case tokens => rw [htokens, hstarts.ofLine_append, hspelled.tokens, List.map_cons]
      case spelling => exact List.forall_mem_cons.mpr ⟨hstarts.spelling, hspelled.spelling⟩
      case gaps => exact List.forall_mem_cons.mpr ⟨hgap, hspelled.gaps⟩
      case back => exact hspelled.back

end Token

end SchemaLang
