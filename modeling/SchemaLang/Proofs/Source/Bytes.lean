import SchemaLang.Proofs.Source.Names
import SchemaLang.Proofs.Source.Spelling
import SchemaLang.Proofs.Text.Utf8

/-!
# Scanning bytes

A line can be scanned byte by byte for the places where its tokens start and end, with no look at
characters: all that the scanner asks for are characters of ASCII, and no byte of another character is
taken for one of these. So the places lie between characters, and the stretches between them are the
tokens.

## Key results

- `skipEnclosed_utf8`, `wordEnd_utf8`: the scanner of bytes stops where that of characters does
- `forall₂_spans_utf8`: each stretch that is found is cut out of the line, and is its token
- `exists_isSpelled_spans`: the tokens of a line are cut out of it, and nothing but blanks is left
-/

namespace SchemaLang

open Text

namespace Token

/-! ## The scanner -/

/-- The place behind the closer that leaves all brackets, from a place in the nesting on; without one,
    the end of the bytes. -/
def skipEnclosed (bytes : List UInt8) (n : Nesting) (i : Nat) : Nat :=
  if h : i < bytes.length then
    let next := n.step (Char.ofUInt8 bytes[i])
    if next.isTop then i + 1 else skipEnclosed bytes next (i + 1)
  else bytes.length
termination_by bytes.length - i

theorem lt_skipEnclosed {bytes : List UInt8} {i : Nat} (h : i < bytes.length) (n : Nesting) :
    i < skipEnclosed bytes n i := by
  fun_induction skipEnclosed bytes n i with
  | case1 => omega
  | case2 n i _ next hgoes ih =>
    by_cases hnext : i + 1 < bytes.length
    · exact Nat.lt_of_succ_lt (ih hnext)
    · rw [skipEnclosed, dif_neg hnext]
      exact h
  | case3 => assumption

/-- The place where a word ends that goes on at the given one. -/
def wordEnd (bytes : List UInt8) (i : Nat) : Nat :=
  if h : i < bytes.length then
    let c := Char.ofUInt8 bytes[i]
    if endsWord c then i
    else if Nesting.isOpener c then wordEnd bytes (skipEnclosed bytes .top i)
    else wordEnd bytes (i + 1)
  else i
termination_by bytes.length - i
decreasing_by
  · have := lt_skipEnclosed h .top
    omega
  · omega

theorem le_wordEnd (bytes : List UInt8) (i : Nat) : i ≤ wordEnd bytes i := by
  fun_induction wordEnd bytes i with
  | case1 => exact Nat.le_refl _
  | case2 i h _ _ _ ih => exact Nat.le_trans (Nat.le_of_lt (lt_skipEnclosed h .top)) ih
  | case3 => omega
  | case4 => exact Nat.le_refl _

theorem lt_wordEnd {bytes : List UInt8} {i : Nat} (h : i < bytes.length)
    (hgoes : endsWord (Char.ofUInt8 bytes[i]) = false) : i < wordEnd bytes i := by
  rw [wordEnd, dif_pos h, if_neg (by simp [hgoes])]
  split
  · exact Nat.lt_of_lt_of_le (lt_skipEnclosed h .top) (le_wordEnd _ _)
  · exact le_wordEnd _ _

/-- A token that is found, with the places of its text. -/
inductive Span where
  | word (start stop : Nat)
  | group (start stop : Nat)
  | opening
  | closing
  deriving DecidableEq, Repr

/-- The tokens that are found from a place on. -/
def spans (bytes : List UInt8) (i : Nat) : List Span :=
  if h : i < bytes.length then
    let c := Char.ofUInt8 bytes[i]
    if isAsciiBlank c then spans bytes (i + 1)
    else if c = '\x7b' then .opening :: spans bytes (i + 1)
    else if c = '\x7d' then .closing :: spans bytes (i + 1)
    else if c = '[' then
      let stop := skipEnclosed bytes .top i
      -- The closer is looked for behind the group, and need not be the one that has closed it.
      let innerStop := if bytes[stop - 1]?.map Char.ofUInt8 = some ']' then stop - 1 else stop
      .group (i + 1) innerStop :: spans bytes stop
    else .word i (wordEnd bytes i) :: spans bytes (wordEnd bytes i)
  else []
termination_by bytes.length - i
decreasing_by
  · omega
  · omega
  · omega
  · have := lt_skipEnclosed h .top
    omega
  · next hblank hopening hclosing _ =>
    have hgoes : endsWord (Char.ofUInt8 bytes[i]) = false :=
      endsWord_eq_false_iff.mpr ⟨Bool.eq_false_iff.mpr hblank, hopening, hclosing⟩
    have := lt_wordEnd h hgoes
    omega

/-! ## Bytes that are passed over -/

theorem isPlain_of_not_ascii {c : Char} (h : ¬ c.toNat < 0x80) : Nesting.isPlain c = true :=
  @Nesting.isPlain_of_pos (fun c => !decide (c.toNat < 0x80)) (by decide) c (by simp [h])

theorem endsWord_of_not_ascii {c : Char} (h : ¬ c.toNat < 0x80) : endsWord c = false := by
  rw [Bool.eq_false_iff]
  intro hends
  simp only [endsWord, isAsciiBlank, Bool.or_eq_true, beq_iff_eq] at hends
  rcases hends with (((((rfl | rfl) | rfl) | rfl) | rfl) | rfl) | rfl <;> exact h (by decide)

section

variable (front back : List UInt8)

theorem skipEnclosed_append_cons (b : UInt8) (n : Nesting) :
    skipEnclosed (front ++ b :: back) n front.length =
      if (n.step (Char.ofUInt8 b)).isTop then front.length + 1
      else skipEnclosed (front ++ b :: back) (n.step (Char.ofUInt8 b)) (front.length + 1) := by
  rw [skipEnclosed, dif_pos (by simp)]
  simp

theorem wordEnd_append_cons (b : UInt8) :
    wordEnd (front ++ b :: back) front.length =
      if endsWord (Char.ofUInt8 b) then front.length
      else if Nesting.isOpener (Char.ofUInt8 b) then
        wordEnd (front ++ b :: back) (skipEnclosed (front ++ b :: back) .top front.length)
      else wordEnd (front ++ b :: back) (front.length + 1) := by
  rw [wordEnd, dif_pos (by simp)]
  simp

/-- Bytes that leave the nesting as it is are passed over. -/
theorem skipEnclosed_append {middle : List UInt8} {n : Nesting} (hopen : n.isTop = false)
    (h : ∀ b ∈ middle, n.step (Char.ofUInt8 b) = n) :
    skipEnclosed (front ++ (middle ++ back)) n front.length =
      skipEnclosed (front ++ (middle ++ back)) n (front ++ middle).length := by
  induction middle generalizing front with
  | nil => rw [List.append_nil]
  | cons b middle ih =>
    obtain ⟨hb, hmiddle⟩ := List.forall_mem_cons.mp h
    have hrest := ih (front ++ [b]) hmiddle
    rw [← List.append_cons, ← List.append_cons, List.length_append] at hrest
    rw [List.cons_append, skipEnclosed_append_cons, hb, if_neg (by simp [hopen])]
    exact hrest

/-- Bytes that neither end a word nor open a bracket are passed over by it. -/
theorem wordEnd_append {middle : List UInt8}
    (h : ∀ b ∈ middle, endsWord (Char.ofUInt8 b) = false ∧
      Nesting.isOpener (Char.ofUInt8 b) = false) :
    wordEnd (front ++ (middle ++ back)) front.length =
      wordEnd (front ++ (middle ++ back)) (front ++ middle).length := by
  induction middle generalizing front with
  | nil => rw [List.append_nil]
  | cons b middle ih =>
    obtain ⟨⟨hends, hopener⟩, hmiddle⟩ := List.forall_mem_cons.mp h
    have hrest := ih (front ++ [b]) hmiddle
    rw [← List.append_cons, ← List.append_cons, List.length_append] at hrest
    rw [List.cons_append, wordEnd_append_cons, if_neg (by simp [hends]), if_neg (by simp [hopener])]
    exact hrest

end

/-! ## Characters and their bytes -/

section

variable (front : List Char) (c : Char) (s : List Char)

/-- A character of ASCII is one byte of a text. -/
theorem exists_utf8_append_cons_of_ascii {c : Char} (h : c.toNat < 0x80) :
    ∃ b, utf8 (front ++ c :: s) = utf8 front ++ b :: utf8 s ∧ Char.ofUInt8 b = c ∧
      (utf8 (front ++ [c])).length = (utf8 front).length + 1 := by
  obtain ⟨b, hb, hread⟩ := utf8EncodeChar_of_ascii h
  refine ⟨b, ?_, hread, ?_⟩
  · rw [utf8_append, utf8_cons, hb, List.singleton_append]
  · rw [utf8_append, utf8_singleton, hb, List.length_append, List.length_singleton]

/-- A bracket is skipped character by character. -/
theorem skipEnclosed_utf8_cons {n : Nesting} (hproper : n.IsProper)
    (hopen : n.isTop = true → c.toNat < 0x80) :
    skipEnclosed (utf8 (front ++ c :: s)) n (utf8 front).length =
      if (n.step c).isTop then (utf8 (front ++ [c])).length
      else skipEnclosed (utf8 (front ++ c :: s)) (n.step c) (utf8 (front ++ [c])).length := by
  by_cases hascii : c.toNat < 0x80
  · obtain ⟨b, hbytes, rfl, hlength⟩ := exists_utf8_append_cons_of_ascii front s hascii
    rw [hbytes, hlength, skipEnclosed_append_cons]
  · have hgoes : n.isTop = false := Bool.eq_false_iff.mpr fun htop => hascii (hopen htop)
    rw [hproper.step_of_isPlain (isPlain_of_not_ascii hascii), if_neg (by simp [hgoes]),
      utf8_append, utf8_cons, utf8_append, utf8_singleton]
    exact skipEnclosed_append _ _ hgoes fun b hb =>
      hproper.step_of_isPlain (isPlain_of_not_ascii (not_ascii_of_mem_utf8EncodeChar hascii hb))

/-- A word goes on character by character. -/
theorem wordEnd_utf8_cons :
    wordEnd (utf8 (front ++ c :: s)) (utf8 front).length =
      if endsWord c then (utf8 front).length
      else if Nesting.isOpener c then
        wordEnd (utf8 (front ++ c :: s))
          (skipEnclosed (utf8 (front ++ c :: s)) .top (utf8 front).length)
      else wordEnd (utf8 (front ++ c :: s)) (utf8 (front ++ [c])).length := by
  by_cases hascii : c.toNat < 0x80
  · obtain ⟨b, hbytes, rfl, hlength⟩ := exists_utf8_append_cons_of_ascii front s hascii
    rw [hbytes, hlength, wordEnd_append_cons]
  · have hpasses : ∀ {c : Char}, ¬ c.toNat < 0x80 →
        endsWord c = false ∧ Nesting.isOpener c = false := by
      intro c hc
      have hplain := isPlain_of_not_ascii hc
      simp only [Nesting.isPlain, Bool.not_eq_true', Bool.or_eq_false_iff] at hplain
      exact ⟨endsWord_of_not_ascii hc, hplain.1.2⟩
    rw [if_neg (by simp [hpasses hascii]), if_neg (by simp [hpasses hascii]), utf8_append,
      utf8_cons, utf8_append, utf8_singleton]
    exact wordEnd_append _ _ fun b hb => hpasses (not_ascii_of_mem_utf8EncodeChar hascii hb)

/-- Tokens are found character by character. -/
theorem spans_utf8_cons :
    spans (utf8 (front ++ c :: s)) (utf8 front).length =
      if isAsciiBlank c then spans (utf8 (front ++ c :: s)) (utf8 (front ++ [c])).length
      else if c = '\x7b' then
        .opening :: spans (utf8 (front ++ c :: s)) (utf8 (front ++ [c])).length
      else if c = '\x7d' then
        .closing :: spans (utf8 (front ++ c :: s)) (utf8 (front ++ [c])).length
      else if c = '[' then
        let stop := skipEnclosed (utf8 (front ++ c :: s)) .top (utf8 front).length
        let innerStop :=
          if (utf8 (front ++ c :: s))[stop - 1]?.map Char.ofUInt8 = some ']' then stop - 1
          else stop
        .group (utf8 (front ++ [c])).length innerStop :: spans (utf8 (front ++ c :: s)) stop
      else
        let stop := wordEnd (utf8 (front ++ c :: s)) (utf8 front).length
        .word (utf8 front).length stop :: spans (utf8 (front ++ c :: s)) stop := by
  by_cases hascii : c.toNat < 0x80
  · obtain ⟨b, hbytes, rfl, hlength⟩ := exists_utf8_append_cons_of_ascii front s hascii
    rw [hbytes, hlength, spans, dif_pos (by simp)]
    simp
  · obtain ⟨b, bytes, hb⟩ := List.exists_cons_of_ne_nil (utf8EncodeChar_ne_nil c)
    -- The first byte of the character starts a word, as the character does.
    have hstarts : ∀ {c : Char}, ¬ c.toNat < 0x80 →
        isAsciiBlank c = false ∧ c ≠ '\x7b' ∧ c ≠ '\x7d' ∧ c ≠ '[' := by
      intro c hc
      obtain ⟨hblank, hopening, hclosing⟩ :=
        endsWord_eq_false_iff.mp (endsWord_of_not_ascii hc)
      refine ⟨hblank, hopening, hclosing, ?_⟩
      rintro rfl
      exact hc (by decide)
    have hbytes : utf8 (front ++ c :: s) = utf8 front ++ b :: (bytes ++ utf8 s) := by
      rw [utf8_append, utf8_cons, hb, List.cons_append]
    have hread : ¬ (Char.ofUInt8 b).toNat < 0x80 :=
      not_ascii_of_mem_utf8EncodeChar hascii (hb ▸ List.mem_cons_self)
    obtain ⟨hblank, hopening, hclosing, hbracket⟩ := hstarts hascii
    obtain ⟨hblank', hopening', hclosing', hbracket'⟩ := hstarts hread
    rw [hbytes, spans, dif_pos (by simp)]
    simp [hblank, hopening, hclosing, hbracket, hblank', hopening', hclosing', hbracket']

end

/-! ## Where the scanner stops -/

/-- Brackets are left at the closer where the scanner of characters leaves them. -/
theorem skipEnclosed_utf8 {n : Nesting} (hproper : n.IsProper) (hopen : n.isTop = false)
    (front s : List Char) :
    skipEnclosed (utf8 (front ++ s)) n (utf8 front).length =
      (utf8 (front ++ (takeEnclosed n s).1)).length := by
  induction s generalizing n front with
  | nil =>
    rw [skipEnclosed, dif_neg (by simp)]
    rfl
  | cons c s ih =>
    rw [skipEnclosed_utf8_cons front c s hproper (by simp [hopen]), takeEnclosed]
    split
    · rfl
    · next hgoes =>
      have hrest := ih (hproper.step c) (Bool.eq_false_iff.mpr hgoes) (front ++ [c])
      rw [← List.append_cons, ← List.append_cons] at hrest
      exact hrest

/-- From its opener on a bracket is skipped as from behind it. -/
theorem skipEnclosed_utf8_opener {c : Char} (hc : Nesting.isOpener c = true) (front s : List Char) :
    skipEnclosed (utf8 (front ++ c :: s)) .top (utf8 front).length =
      (utf8 (front ++ c :: (takeEnclosed .enclosed s).1)).length := by
  have hascii : c.toNat < 0x80 := by
    rcases Nesting.isOpener_eq_true_iff.mp hc with rfl | rfl <;> decide
  have hstep : Nesting.top.step c = .enclosed := by
    rcases Nesting.isOpener_eq_true_iff.mp hc with rfl | rfl <;> rfl
  rw [skipEnclosed_utf8_cons front c s Nesting.isProper_top fun _ => hascii, hstep,
    if_neg (by decide)]
  have hrest := skipEnclosed_utf8 (n := .enclosed) nofun rfl (front ++ [c]) s
  rw [← List.append_cons, ← List.append_cons] at hrest
  exact hrest

/-- Words end where the scanner of characters ends them. -/
theorem wordEnd_utf8 (front s : List Char) :
    wordEnd (utf8 (front ++ s)) (utf8 front).length =
      (utf8 (front ++ (takeWord .top s).1)).length := by
  induction hlength : s.length using Nat.strongRecOn generalizing front s with
  | ind length ih =>
    cases s with
    | nil =>
      rw [wordEnd, dif_neg (by simp), takeWord, List.append_nil]
    | cons c s =>
      rw [wordEnd_utf8_cons]
      by_cases hends : endsWord c = true
      · rw [if_pos hends, takeWord, if_pos (by simp [hends, Nesting.top, Nesting.isTop]),
          List.append_nil]
      rw [if_neg hends, takeWord_top_cons (Bool.eq_false_iff.mpr hends)]
      by_cases hopener : Nesting.isOpener c = true
      · -- The word takes the bracket and goes on behind it.
        have hstep : Nesting.top.stepWord c = .enclosed := by
          simp [Nesting.stepWord, Nesting.top, hopener]
        have htaken := takeEnclosed_append .enclosed s
        have hshorter := length_takeEnclosed_le .enclosed s
        have hrest := ih _ (by simp at hlength; omega)
          (front ++ c :: (takeEnclosed .enclosed s).1) (takeEnclosed .enclosed s).2 rfl
        rw [List.append_assoc, List.cons_append, htaken, List.append_assoc, List.cons_append] at hrest
        rw [if_pos hopener, skipEnclosed_utf8_opener hopener, hrest, hstep,
          takeWord_of_depth_ne_zero (n := .enclosed) (by decide)]
      · have hstep : Nesting.top.stepWord c = .top := by
          simp [Nesting.stepWord, Nesting.top, hopener]
        have hrest := ih s.length (by simp at hlength; omega) (front ++ [c]) s rfl
        rw [← List.append_cons, ← List.append_cons] at hrest
        rw [if_neg hopener, hrest, hstep]

/-! ## Stretches -/

/-- The token that is found, cut out of the line. -/
def Span.token? (line : List Char) : Span → Option Token
  | .word start stop => (slice? line start stop).map Token.word
  | .group start stop => (slice? line start stop).map Token.group
  | .opening => some Token.opening
  | .closing => some Token.closing

/-- The closer of a group is looked for where its last character stands. -/
theorem getElem?_utf8_eq_closer_iff (front taken left : List Char) :
    (utf8 (front ++ '[' :: (taken ++ left)))[(utf8 (front ++ '[' :: taken)).length - 1]?.map
        Char.ofUInt8 = some ']' ↔ taken.getLast? = some ']' := by
  have hbytes : utf8 (front ++ '[' :: (taken ++ left)) =
      utf8 (front ++ '[' :: taken) ++ utf8 left := by
    rw [← utf8_append, List.append_assoc, List.cons_append]
  have hpos : 0 < (utf8 (front ++ '[' :: taken)).length := by
    rw [utf8_append, utf8_cons, List.length_append, List.length_append,
      String.length_utf8EncodeChar]
    have := Char.utf8Size_pos '['
    omega
  rw [hbytes, List.getElem?_append_left (by omega), ← List.getLast?_eq_getElem?,
    getLast?_utf8_eq_iff (by decide)]
  rcases List.eq_nil_or_concat taken with rfl | ⟨inner, c, rfl⟩
  · simp
  · rw [List.concat_eq_append, ← List.cons_append, ← List.append_assoc, List.getLast?_concat,
      List.getLast?_concat]

/-- The inner part of a group is cut out of the line. -/
theorem slice?_group (front taken left : List Char) :
    slice? (front ++ '[' :: (taken ++ left)) (utf8 (front ++ ['['])).length
      (if (utf8 (front ++ '[' :: (taken ++ left)))[(utf8 (front ++ '[' :: taken)).length - 1]?.map
          Char.ofUInt8 = some ']' then (utf8 (front ++ '[' :: taken)).length - 1
        else (utf8 (front ++ '[' :: taken)).length) = some (dropCloser taken) := by
  have hslice : ∀ inner left, slice? (front ++ '[' :: (inner ++ left)) (utf8 (front ++ ['['])).length
      (utf8 (front ++ '[' :: inner)).length = some inner := by
    intro inner left
    have h := slice?_utf8 (front ++ ['[']) inner left
    rwa [← List.append_cons, ← List.append_cons] at h
  simp only [getElem?_utf8_eq_closer_iff]
  rw [dropCloser]
  split
  · next hcloser =>
    obtain ⟨inner, rfl⟩ := List.getLast?_eq_some_iff.mp hcloser
    have hstop : (utf8 (front ++ '[' :: (inner ++ [']']))).length =
        (utf8 (front ++ '[' :: inner)).length + 1 := by
      rw [← List.cons_append, ← List.append_assoc, utf8_append (front ++ '[' :: inner),
        List.length_append]
      rfl
    rw [hstop, Nat.add_sub_cancel, List.append_assoc, List.dropLast_concat]
    exact hslice inner _
  · exact hslice taken left

/-- Each stretch that is found is cut out of the line, and is its token. -/
theorem forall₂_spans_utf8 (front s : List Char) :
    List.Forall₂ (fun span token => span.token? (front ++ s) = some token)
      (spans (utf8 (front ++ s)) (utf8 front).length) (ofLine s) := by
  fun_induction ofLine s generalizing front with
  | case1 =>
    rw [spans, dif_neg (by simp)]
    exact .nil
  | case2 c rest hblank ih =>
    rw [spans_utf8_cons, if_pos hblank]
    simpa using ih (front ++ [c])
  | case3 rest hblank ih =>
    rw [spans_utf8_cons, if_neg hblank, if_pos rfl]
    exact .cons rfl (by simpa using ih (front ++ ['\x7b']))
  | case4 rest hblank hopening ih =>
    rw [spans_utf8_cons, if_neg hblank, if_neg hopening, if_pos rfl]
    exact .cons rfl (by simpa using ih (front ++ ['\x7d']))
  | case5 rest hblank hopening hclosing ih =>
    have htaken := takeEnclosed_append .enclosed rest
    have hrest := ih (front ++ '[' :: (takeEnclosed .enclosed rest).1)
    have hgroup := slice?_group front (takeEnclosed .enclosed rest).1 (takeEnclosed .enclosed rest).2
    rw [List.append_assoc, List.cons_append, htaken] at hrest
    rw [htaken] at hgroup
    rw [spans_utf8_cons, if_neg hblank, if_neg hopening, if_neg hclosing, if_pos rfl,
      skipEnclosed_utf8_opener rfl]
    refine .cons ?_ hrest
    rw [Span.token?, hgroup, Option.map_some]
  | case6 c rest hblank hopening hclosing hbracket ih =>
    have hends : endsWord c = false :=
      endsWord_eq_false_iff.mpr ⟨Bool.eq_false_iff.mpr hblank, hopening, hclosing⟩
    have htaken := takeWord_append (Nesting.top.stepWord c) rest
    have hrest := ih (front ++ c :: (takeWord (Nesting.top.stepWord c) rest).1)
    have hslice := slice?_utf8 front (c :: (takeWord (Nesting.top.stepWord c) rest).1)
      (takeWord (Nesting.top.stepWord c) rest).2
    rw [List.append_assoc, List.cons_append, htaken] at hrest
    rw [List.cons_append, htaken] at hslice
    rw [spans_utf8_cons, if_neg hblank, if_neg hopening, if_neg hclosing, if_neg hbracket,
      wordEnd_utf8, takeWord_top_cons hends]
    refine .cons ?_ hrest
    rw [Span.token?, hslice, Option.map_some]

/-- A line is scanned byte by byte: all stretches that are found lie in it and between characters, and
    they are its tokens. Nothing else stands on the line but blanks in front of the tokens and behind
    them, which say nothing: the tokens are read again with any blanks that keep them apart. -/
theorem exists_isSpelled_spans (line : List Char) :
    List.Forall₂ (fun span token => span.token? line = some token) (spans (utf8 line) 0)
      (ofLine line) ∧
    ∃ entries back, IsSpelled line entries back ∧
      ∀ gaps, PartTokens gaps entries.length →
        ofLine (spaced gaps (entries.map (·.text))) = ofLine line := by
  refine ⟨forall₂_spans_utf8 [] line, ?_⟩
  obtain ⟨entries, back, hspelled, hkeep⟩ := exists_isSpelled line
  exact ⟨entries, back, hspelled, fun gaps hgaps => (hkeep gaps hgaps).trans hspelled.tokens.symm⟩

/-- A line with characters of several bytes, a group that a round bracket closes, tokens with no blanks
    between them, and a group that nothing closes. -/
def tangledLine : List Char :=
  "größe\t[ä) x\x7b[é, \"]\"] [in 'a".toList

theorem exists_isSpelled_spans_tangledLine :
    spans (utf8 tangledLine) 0 =
        [.word 0 7, .group 9 12, .word 13 14, .opening, .group 16 23, .group 26 31] ∧
      ofLine tangledLine =
        [word "größe".toList, group "ä)".toList, word "x".toList, opening,
          group "é, \"]\"".toList, group "in 'a".toList] ∧
      List.Forall₂ (fun span token => span.token? tangledLine = some token)
        (spans (utf8 tangledLine) 0) (ofLine tangledLine) ∧
      ∃ entries back, IsSpelled tangledLine entries back ∧
        ofLine (spaced ["\n".toList, " ".toList, "\t".toList, "  ".toList, " ".toList, " ".toList]
          (entries.map (·.text))) = ofLine tangledLine := by
  obtain ⟨hfound, htokens⟩ : spans (utf8 tangledLine) 0 =
        [.word 0 7, .group 9 12, .word 13 14, .opening, .group 16 23, .group 26 31] ∧
      ofLine tangledLine =
        [word "größe".toList, group "ä)".toList, word "x".toList, opening,
          group "é, \"]\"".toList, group "in 'a".toList] := by
    decide +kernel
  obtain ⟨hspans, entries, back, hspelled, hkeep⟩ := exists_isSpelled_spans tangledLine
  have hlength : 6 = entries.length := by
    have hmap := congrArg List.length hspelled.tokens
    rwa [htokens, List.length_map] at hmap
  have hparted : PartTokens
      ["\n".toList, " ".toList, "\t".toList, "  ".toList, " ".toList, " ".toList] entries.length :=
    ⟨hlength, by decide, by decide⟩
  exact ⟨hfound, htokens, hspans, entries, back, hspelled, hkeep _ hparted⟩

end Token

end SchemaLang
