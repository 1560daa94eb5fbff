import Mathlib.Data.List.Induction
import SchemaLang.Source.Check

/-!
# Braces and the check of a source

The check of a source stops at its first fault. The faults are ranked: nothing to read at all, no
table at the start, a brace that closes more than is open, and braces that are left open. Braces
count where they stand outside all brackets, so neither a bracket group nor the parameters of a type
can hold one that does, and a quote hides braces inside brackets only.

## Key results

- `Token.filterMap_brace?_ofLine`: the braces of a line are those outside its brackets
- `checkBraces_append`: the counts behind a row of braces that never closes too much
- `neverOvercloses_or_exists_excess`: a row of braces that closes too much does so at a first one
- `checkSource_eq_iff`: the result of the check
-/

namespace SchemaLang

/-! ## Braces outside brackets -/

/-- The brace that a character is. -/
def Brace.ofChar? (c : Char) : Option Brace :=
  if c = '\x7b' then some .opening else if c = '\x7d' then some .closing else none

/-- The braces of a text that stand outside all brackets, where quotes count inside brackets only.
    The nesting is that at the start of the text. -/
def outerBraces : Nesting → List Char → List Brace
  | _, [] => []
  | n, c :: rest =>
    if n.depth = 0 then (Brace.ofChar? c).toList ++ outerBraces (n.stepWord c) rest
    else outerBraces (n.stepWord c) rest

namespace Nesting

/-- Inside brackets the nesting of a word is that of any text. -/
theorem stepWord_of_depth_ne_zero {n : Nesting} (h : n.depth ≠ 0) (c : Char) :
    n.stepWord c = n.step c := by
  rw [stepWord, if_neg h]

/-- A bracket is left with all quotes closed. -/
theorem isTop_step_of_depth_eq_zero {n : Nesting} (h : n.depth ≠ 0) {c : Char}
    (hstep : (n.step c).depth = 0) : (n.step c).isTop = true := by
  unfold step at hstep ⊢
  cases hquote : n.quote with
  | some q =>
    -- A quoted character leaves the depth alone.
    simp only [hquote] at hstep
    split at hstep <;> exact absurd hstep h
  | none =>
    simp only [hquote] at hstep ⊢
    split
    · next hopens =>
      rw [if_pos hopens] at hstep
      exact absurd hstep h
    · next hopens =>
      rw [if_neg hopens] at hstep
      simp [isTop, hstep, apply_ite Nesting.quote, hquote]

/-- Outside brackets a word knows no quotes. -/
theorem stepWord_eq_top_of_depth_eq_zero {n : Nesting} (h : n.depth = 0 → n = top) {c : Char}
    (hstep : (n.stepWord c).depth = 0) : n.stepWord c = top := by
  by_cases hdepth : n.depth = 0
  · rw [stepWord, if_pos hdepth] at hstep ⊢
    split at hstep
    · cases hstep
    · next hopens => rw [if_neg hopens, h hdepth]
  · rw [stepWord_of_depth_ne_zero hdepth] at hstep ⊢
    exact isTop_iff.mp (isTop_step_of_depth_eq_zero hdepth hstep)

end Nesting

/-- Up to the closer of a bracket no brace counts. -/
theorem outerBraces_of_depth_ne_zero {n : Nesting} (h : n.depth ≠ 0) (s : List Char) :
    outerBraces n s = outerBraces .top (Token.takeEnclosed n s).2 := by
  induction s generalizing n with
  | nil => rfl
  | cons c rest ih =>
    rw [outerBraces, if_neg h, Nesting.stepWord_of_depth_ne_zero h, Token.takeEnclosed]
    split
    · next hcloses => rw [Nesting.isTop_iff.mp hcloses]
    · next hopen =>
      apply ih
      exact fun hdepth => hopen (Nesting.isTop_step_of_depth_eq_zero h hdepth)

/-- A character that ends no word is no brace. -/
theorem Brace.ofChar?_eq_none {c : Char} (h : Token.endsWord c = false) : ofChar? c = none := by
  simp only [Token.endsWord, Bool.or_eq_false_iff, beq_eq_false_iff_ne] at h
  simp [ofChar?, h]

/-- Up to the end of a word no brace counts. -/
theorem outerBraces_takeWord {n : Nesting} (h : n.depth = 0 → n = .top) (s : List Char) :
    outerBraces n s = outerBraces .top (Token.takeWord n s).2 := by
  induction s generalizing n with
  | nil => rfl
  | cons c rest ih =>
    rw [Token.takeWord]
    split
    · next hends =>
      rw [Bool.and_eq_true, Nesting.isTop_iff] at hends
      rw [hends.1]
    · next hgoes =>
      have hrest := ih fun hdepth => Nesting.stepWord_eq_top_of_depth_eq_zero h (c := c) hdepth
      rw [outerBraces, hrest]
      split
      · next hdepth =>
        -- Outside all brackets the word goes on, so this is none of the characters that end it.
        have hends : Token.endsWord c = false := by
          simpa [h hdepth, Nesting.isTop, Nesting.top] using hgoes
        simp [Brace.ofChar?_eq_none hends]
      · rfl

/-- The braces of a line are those outside its brackets. -/
theorem Token.filterMap_brace?_ofLine (s : List Char) :
    (ofLine s).filterMap brace? = outerBraces .top s := by
  have hskip : ∀ c rest, outerBraces .top (c :: rest) =
      (Brace.ofChar? c).toList ++ outerBraces (Nesting.top.stepWord c) rest := fun _ _ => rfl
  fun_induction ofLine s with
  | case1 => rfl
  | case2 c rest hblank ih =>
    have hplain : Nesting.isOpener c = false ∧ Brace.ofChar? c = none := by
      simp only [Text.isAsciiBlank, Bool.or_eq_true, beq_iff_eq] at hblank
      rcases hblank with (((rfl | rfl) | rfl) | rfl) | rfl <;> decide
    rw [hskip, hplain.2, ih]
    simp [Nesting.stepWord, Nesting.top, hplain.1]
  | case3 rest _ ih | case4 rest _ _ ih =>
    rw [hskip, List.filterMap_cons, ih]
    rfl
  | case5 rest _ _ _ ih =>
    rw [hskip, List.filterMap_cons, ih]
    exact (outerBraces_of_depth_ne_zero (n := .enclosed) (by decide) rest).symm
  | case6 c rest hblank hopening hclosing _ ih =>
    have hword : ∀ hdepth : (Nesting.top.stepWord c).depth = 0, Nesting.top.stepWord c = .top :=
      fun hdepth => Nesting.stepWord_eq_top_of_depth_eq_zero (fun _ => rfl) hdepth
    rw [hskip, List.filterMap_cons, ih, outerBraces_takeWord hword]
    simp [brace?, Brace.ofChar?, hopening, hclosing]

/-- Braces in brackets do not count, be they quoted there or not; outside brackets a quote hides
    none. -/
example : outerBraces .top "a\x7b\"\x7d\" b(\x7d) c[x: '\x7d]'] [\x7d".toList = [.opening, .closing] := by
  decide

/-! ## Braces that close too much -/

/-- How often a brace occurs in a row. -/
def countBrace (brace : Brace) (braces : List (Nat × Brace)) : Nat :=
  braces.countP (·.2 == brace)

/-- From the start up to any place, no more braces close than open. -/
def NeverOvercloses (braces : List (Nat × Brace)) : Prop :=
  ∀ front, front <+: braces → countBrace .closing front ≤ countBrace .opening front

/-- The first brace that closes more than has been opened stands on the line. -/
def FirstExcess (braces : List (Nat × Brace)) (line : Nat) : Prop :=
  ∃ front back, braces = front ++ (line, .closing) :: back ∧ NeverOvercloses front ∧
    countBrace .opening (front ++ [(line, .closing)]) <
      countBrace .closing (front ++ [(line, .closing)])

@[simp] theorem countBrace_append (brace : Brace) (braces braces' : List (Nat × Brace)) :
    countBrace brace (braces ++ braces') = countBrace brace braces + countBrace brace braces' :=
  List.countP_append

@[simp] theorem countBrace_nil (brace : Brace) : countBrace brace [] = 0 := rfl

@[simp] theorem countBrace_cons (brace : Brace) (line : Nat) (first : Brace)
    (braces : List (Nat × Brace)) :
    countBrace brace ((line, first) :: braces) =
      countBrace brace braces + if first = brace then 1 else 0 := by
  simp [countBrace, List.countP_cons]

/-- A row of braces that closes too much does so at a first one. -/
theorem neverOvercloses_or_exists_excess (braces : List (Nat × Brace)) :
    NeverOvercloses braces ∨ ∃ line, FirstExcess braces line := by
  -- From behind: an excess in front of the last brace is the first one of the whole row too.
  induction braces using List.reverseRecOn with
  | nil =>
    left
    intro front hfront
    simp [List.prefix_nil.mp hfront]
  | append_singleton front last ih =>
    rcases ih with hfront | ⟨line, before, after, rfl, hbefore, hexcess⟩
    · obtain ⟨line, brace⟩ := last
      by_cases hall : countBrace .closing (front ++ [(line, brace)]) ≤
          countBrace .opening (front ++ [(line, brace)])
      · left
        intro part hpart
        rcases List.prefix_concat_iff.mp hpart with rfl | hpart
        · exact hall
        · exact hfront part hpart
      · right
        have hnone := hfront front (List.prefix_refl front)
        cases brace with
        | opening =>
          simp at hall
          omega
        | closing => exact ⟨line, front, [], rfl, hfront, by omega⟩
    · exact .inr ⟨line, before, after ++ [last], by simp, hbefore, hexcess⟩

/-! ## Counting -/

/-- Behind a row of braces that never closes too much, the counts are those of the row. -/
theorem checkBraces_append {opened closed : Nat} {front : List (Nat × Brace)}
    (h : ∀ part, part <+: front →
      closed + countBrace .closing part ≤ opened + countBrace .opening part)
    (back : List (Nat × Brace)) :
    checkBraces opened closed (front ++ back) =
      checkBraces (opened + countBrace .opening front) (closed + countBrace .closing front) back := by
  induction front generalizing opened closed with
  | nil => rfl
  | cons first front ih =>
    obtain ⟨line, brace⟩ := first
    have hpart : ∀ part, part <+: front → closed + countBrace .closing ((line, brace) :: part) ≤
        opened + countBrace .opening ((line, brace) :: part) :=
      fun part hpart => h _ ((List.prefix_cons_inj _).mpr hpart)
    cases brace with
    | opening =>
      rw [List.cons_append, checkBraces, ih]
      · simp [Nat.add_assoc, Nat.add_comm 1]
      · intro part hinner
        have := hpart part hinner
        simp at this
        omega
    | closing =>
      have hfirst := hpart [] List.nil_prefix
      simp at hfirst
      rw [List.cons_append, checkBraces, if_neg (by omega), ih]
      · simp [Nat.add_assoc, Nat.add_comm 1]
      · intro part hinner
        have := hpart part hinner
        simp at this
        omega

/-- The first brace that closes too much is reported. -/
theorem checkBraces_of_firstExcess {braces : List (Nat × Brace)} {line : Nat}
    (h : FirstExcess braces line) : checkBraces 0 0 braces = .error (.unexpectedClose line) := by
  obtain ⟨front, back, rfl, hfront, hexcess⟩ := h
  simp at hexcess
  rw [checkBraces_append fun part hpart => by simpa using hfront part hpart, checkBraces,
    if_pos (by omega)]

/-- If none closes too much, the totals decide. -/
theorem checkBraces_of_neverOvercloses {braces : List (Nat × Brace)} (h : NeverOvercloses braces) :
    checkBraces 0 0 braces =
      if countBrace .opening braces = countBrace .closing braces then .ok ()
      else .error (.unbalancedBraces (countBrace .opening braces) (countBrace .closing braces)) := by
  have hall : checkBraces 0 0 (braces ++ []) =
      checkBraces (0 + countBrace .opening braces) (0 + countBrace .closing braces) [] :=
    checkBraces_append (fun part hpart => by simpa using h part hpart) []
  rw [List.append_nil] at hall
  rw [hall, checkBraces]
  simp

/-! ## The check -/

/-- What the check of a source with the given significant lines comes to. -/
inductive Verdict (lines : List SourceLine) : Except SourceError Unit → Prop where
  | empty (hnone : lines = []) : Verdict lines (.error .empty)
  | missingTable {first : SourceLine} (hfirst : lines.head? = some first)
      (htable : Token.startsTable first.tokens = false) :
      Verdict lines
        (.error (.missingTable first.number (String.ofList (Text.trim first.text))))
  | unexpectedClose {first : SourceLine} {line : Nat} (hfirst : lines.head? = some first)
      (htable : Token.startsTable first.tokens = true)
      (hexcess : FirstExcess (bracesOf lines) line) :
      Verdict lines (.error (.unexpectedClose line))
  | unbalancedBraces {first : SourceLine} (hfirst : lines.head? = some first)
      (htable : Token.startsTable first.tokens = true)
      (hnever : NeverOvercloses (bracesOf lines))
      (hne : countBrace .opening (bracesOf lines) ≠ countBrace .closing (bracesOf lines)) :
      Verdict lines (.error (.unbalancedBraces (countBrace .opening (bracesOf lines))
        (countBrace .closing (bracesOf lines))))
  | ok {first : SourceLine} (hfirst : lines.head? = some first)
      (htable : Token.startsTable first.tokens = true)
      (hnever : NeverOvercloses (bracesOf lines))
      (heq : countBrace .opening (bracesOf lines) = countBrace .closing (bracesOf lines)) :
      Verdict lines (.ok ())

section Check

variable {source : String} {first : SourceLine}

theorem checkSource_of_not_startsTable (hfirst : (significantLines source).head? = some first)
    (htable : Token.startsTable first.tokens = false) :
    checkSource source =
      .error (.missingTable first.number (String.ofList (Text.trim first.text))) := by
  obtain ⟨rest, hlines⟩ := List.head?_eq_some_iff.mp hfirst
  simp [checkSource, hlines, htable]

theorem checkSource_of_startsTable (hfirst : (significantLines source).head? = some first)
    (htable : Token.startsTable first.tokens = true) :
    checkSource source = checkBraces 0 0 (bracesOf (significantLines source)) := by
  obtain ⟨rest, hlines⟩ := List.head?_eq_some_iff.mp hfirst
  simp [checkSource, hlines, htable]

/-- The check of every source comes to something. -/
theorem verdict_checkSource (source : String) :
    Verdict (significantLines source) (checkSource source) := by
  cases hfirst : (significantLines source).head? with
  | none =>
    have hnone := List.head?_eq_none_iff.mp hfirst
    rw [show checkSource source = .error .empty by simp [checkSource, hnone]]
    exact .empty hnone
  | some first =>
    cases htable : Token.startsTable first.tokens with
    | false =>
      rw [checkSource_of_not_startsTable hfirst htable]
      exact .missingTable hfirst htable
    | true =>
      rw [checkSource_of_startsTable hfirst htable]
      rcases neverOvercloses_or_exists_excess (bracesOf (significantLines source)) with
        hnever | ⟨line, hexcess⟩
      · rw [checkBraces_of_neverOvercloses hnever]
        split
        · next heq => exact .ok hfirst htable hnever heq
        · next hne => exact .unbalancedBraces hfirst htable hnever hne
      · rw [checkBraces_of_firstExcess hexcess]
        exact .unexpectedClose hfirst htable hexcess

/-- It comes to nothing else. -/
theorem checkSource_eq_of_verdict {result : Except SourceError Unit}
    (h : Verdict (significantLines source) result) : checkSource source = result := by
  cases h with
  | empty hnone => simp [checkSource, hnone]
  | missingTable hfirst htable => exact checkSource_of_not_startsTable hfirst htable
  | unexpectedClose hfirst htable hexcess =>
    rw [checkSource_of_startsTable hfirst htable, checkBraces_of_firstExcess hexcess]
  | unbalancedBraces hfirst htable hnever hne =>
    rw [checkSource_of_startsTable hfirst htable, checkBraces_of_neverOvercloses hnever, if_neg hne]
  | ok hfirst htable hnever heq =>
    rw [checkSource_of_startsTable hfirst htable, checkBraces_of_neverOvercloses hnever, if_pos heq]

end Check

/-- The braces of some lines are those outside the brackets of each. -/
theorem bracesOf_eq (lines : List SourceLine) :
    bracesOf lines =
      lines.flatMap fun line => (outerBraces .top line.text).map (line.number, ·) := by
  simp only [bracesOf, SourceLine.tokens, Token.filterMap_brace?_ofLine]

/-- The result of the check is the one that the significant lines and their braces call for, and
    only braces outside brackets count. -/
theorem checkSource_eq_iff (source : String) :
    (∀ result, checkSource source = result ↔ Verdict (significantLines source) result) ∧
      bracesOf (significantLines source) = (significantLines source).flatMap fun line =>
        (outerBraces .top line.text).map (line.number, ·) := by
  refine ⟨fun result => ⟨?_, checkSource_eq_of_verdict⟩, bracesOf_eq _⟩
  rintro rfl
  exact verdict_checkSource source

/-- The first brace of the third line is one too many, whatever is opened behind it. -/
example : checkSource "# ports\ntable Port \x7b note Text [default: '\x7b'] \x7d\n\x7d \x7b" =
    .error (.unexpectedClose 3) := by
  decide +kernel

end SchemaLang
