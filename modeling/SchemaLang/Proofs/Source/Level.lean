import Mathlib.Data.List.Basic
import SchemaLang.Proofs.Source.Printing
import SchemaLang.Source.Item

/-!
# Level texts

Brackets, separators and the ends of groups count by the nesting in which they stand. A text of plain
characters and of stretches in double quotes is *level*: it ends in the nesting in which it starts,
and what stands between its quotes counts for nothing, be it a bracket, a separator or a quote of the
other kind. So groups and items run past it.

## Key results

- `pieces_append`, `pieces_append_cons`: a text is cut at its separators, wherever it is put together
- `Token.takeEnclosed_append_of_trace`: a group runs past what does not leave it
- `IsLevel.trace_run`: where the characters of a level text stand
- `items_intercalate`: items are found again in the list that they are written to
- `Token.takeEnclosed_of_isLevel`: a group runs past a level text
-/

namespace SchemaLang

namespace Nesting

/-! ## Characters and where they stand -/

/-- A character that is neither a quote nor a bracket. -/
def isPlain (c : Char) : Bool :=
  !(isQuote c || isOpener c || isCloser c)

theorem isOpener_eq_true_iff {c : Char} : isOpener c = true ↔ c = '[' ∨ c = '(' := by
  rw [isOpener, Bool.or_eq_true, beq_iff_eq, beq_iff_eq]

theorem isCloser_eq_true_iff {c : Char} : isCloser c = true ↔ c = ']' ∨ c = ')' := by
  rw [isCloser, Bool.or_eq_true, beq_iff_eq, beq_iff_eq]

/-- The characters of a text, each with the nesting in front of it. -/
def trace : Nesting → List Char → List (Nesting × Char)
  | _, [] => []
  | n, c :: rest => (n, c) :: trace (n.step c) rest

theorem step_of_isPlain {n : Nesting} (hquote : n.quote = none) {c : Char} (h : isPlain c = true) :
    n.step c = n := by
  simp only [isPlain, Bool.not_eq_true', Bool.or_eq_false_iff] at h
  simp [step, hquote, h]

/-- Characters of a kind that neither quotes nor brackets are of. -/
theorem isPlain_of_pos {p : Char → Bool} (h : "\"'[(])".toList.all (!p ·) = true) {c : Char}
    (hc : p c = true) : isPlain c = true := by
  have hne : ∀ d ∈ "\"'[(])".toList, c ≠ d := by
    rintro d hd rfl
    have hnot := List.all_eq_true.mp h c hd
    rw [hc] at hnot
    cases hnot
  simpa [isPlain, isQuote, isOpener, isCloser, and_assoc] using hne

/-- Between quotes only the closing one counts. -/
theorem step_of_ne_quote {n : Nesting} {q c : Char} (hquote : n.quote = some q) (h : c ≠ q) :
    n.step c = n := by
  simp [step, hquote, h]

/-- The quote that is open, if any, is one. -/
def IsProper (n : Nesting) : Prop :=
  ∀ q ∈ n.quote, isQuote q = true

theorem isProper_top : top.IsProper :=
  nofun

theorem IsProper.step {n : Nesting} (h : n.IsProper) (c : Char) : (n.step c).IsProper := by
  cases hquote : n.quote with
  | some q =>
    rw [Nesting.step, hquote]
    dsimp only
    split
    · nofun
    · exact h
  | none =>
    by_cases hc : isQuote c = true
    · simp [IsProper, Nesting.step, hquote, hc]
    · -- Brackets open no quote.
      simp [IsProper, Nesting.step, hquote, hc, apply_ite Nesting.quote]

/-- Then no other character than a quote or a bracket counts, be it quoted or not. -/
theorem IsProper.step_of_isPlain {n : Nesting} (h : n.IsProper) {c : Char}
    (hc : isPlain c = true) : n.step c = n := by
  cases hquote : n.quote with
  | none => exact Nesting.step_of_isPlain hquote hc
  | some q =>
    refine step_of_ne_quote hquote ?_
    rintro rfl
    simp [isPlain, h c hquote] at hc

theorem trace_append (n : Nesting) (s t : List Char) :
    n.trace (s ++ t) = n.trace s ++ (n.run s).trace t := by
  induction s generalizing n with
  | nil => rfl
  | cons c s ih => rw [List.cons_append, trace, ih, trace, run_cons, List.cons_append]

/-- Characters that leave the nesting as it is all stand in the same. -/
theorem trace_eq_map {n : Nesting} {s : List Char} (h : ∀ c ∈ s, n.step c = n) :
    n.trace s = s.map (n, ·) ∧ n.run s = n := by
  induction s with
  | nil => exact ⟨rfl, rfl⟩
  | cons c s ih =>
    obtain ⟨hc, hs⟩ := List.forall_mem_cons.mp h
    obtain ⟨htrace, hrun⟩ := ih hs
    rw [trace, run_cons, hc, htrace, hrun]
    exact ⟨rfl, rfl⟩

end Nesting

open Nesting

/-! ## Separators -/

theorem isSeparator_eq_true_iff {sep : Char} {n : Nesting} {c : Char} :
    isSeparator sep n c = true ↔ n = .top ∧ c = sep ∧ isPlain c = true := by
  rw [isSeparator, isPlain, Bool.and_eq_true, Bool.and_eq_true, beq_iff_eq, isTop_iff, and_assoc]

/-- A front part in which no separator stands goes with the first piece. -/
theorem pieces_append {sep : Char} {n : Nesting} {s : List Char}
    (h : ∀ place ∈ n.trace s, isSeparator sep place.1 place.2 = false) (t : List Char) :
    pieces sep n (s ++ t) = (pieces sep (n.run s) t).modifyHead (s ++ ·) := by
  induction s generalizing n with
  | nil =>
    obtain ⟨piece, others, hpieces⟩ := List.exists_cons_of_ne_nil (pieces_ne_nil sep n t)
    simp [hpieces]
  | cons c s ih =>
    obtain ⟨hc, hs⟩ := List.forall_mem_cons.mp h
    rw [List.cons_append, pieces, if_neg (by simp [hc]), ih hs, run_cons, List.modifyHead_modifyHead]
    rfl

/-- A separator outside all brackets and quotes ends the pieces in front of it. -/
theorem pieces_append_cons {sep : Char} (hsep : isPlain sep = true) {n : Nesting} {s : List Char}
    (h : n.run s = .top) (t : List Char) :
    pieces sep n (s ++ sep :: t) = pieces sep n s ++ pieces sep .top t := by
  induction s generalizing n with
  | nil =>
    have hhere : isSeparator sep n sep = true := isSeparator_eq_true_iff.mpr ⟨h, rfl, hsep⟩
    have hcut : pieces sep n (sep :: t) = [] :: pieces sep n t := by rw [pieces, if_pos hhere]
    rw [List.nil_append, hcut, pieces, List.singleton_append, (show n = .top from h)]
  | cons c s ih =>
    rw [run_cons] at h
    rw [List.cons_append, pieces, pieces]
    split
    · next hhere =>
      -- A separator leaves the nesting as it is.
      obtain ⟨rfl, rfl, -⟩ := isSeparator_eq_true_iff.mp hhere
      rw [step_of_isPlain rfl hsep] at h
      rw [ih h, List.cons_append]
    · obtain ⟨piece, others, hpieces⟩ :=
        List.exists_cons_of_ne_nil (pieces_ne_nil sep (n.step c) s)
      rw [ih h, hpieces]
      rfl

/-- So it does for items. -/
theorem items_append_cons {sep : Char} (hsep : isPlain sep = true) {s : List Char}
    (h : Nesting.top.run s = .top) (t : List Char) :
    items sep (s ++ sep :: t) = items sep s ++ items sep t := by
  rw [items, pieces_append_cons hsep h, List.map_append, List.filter_append]
  rfl

/-- A text in which no separator stands is one item, if it is not blank. -/
theorem items_eq_singleton {sep : Char} {s : List Char}
    (h : ∀ place ∈ Nesting.top.trace s, isSeparator sep place.1 place.2 = false)
    (hblank : Text.trim s ≠ []) : items sep s = [Text.trim s] := by
  have hpieces := pieces_append h []
  rw [List.append_nil, pieces] at hpieces
  simp [items, hpieces, hblank]

/-! ## Groups -/

/-- A group runs past what does not leave it. -/
theorem Token.takeEnclosed_append_of_trace {n : Nesting} {s : List Char}
    (h : ∀ place ∈ n.trace s, (place.1.step place.2).isTop = false) (t : List Char) :
    takeEnclosed n (s ++ t) =
      (s ++ (takeEnclosed (n.run s) t).1, (takeEnclosed (n.run s) t).2) := by
  induction s generalizing n with
  | nil => rfl
  | cons c s ih =>
    obtain ⟨hc, hs⟩ := List.forall_mem_cons.mp h
    rw [List.cons_append, takeEnclosed, if_neg (by simp [hc]), ih hs, run_cons]
    rfl

/-! ## Level texts -/

/-- A text of characters that fit and of stretches in double quotes. -/
inductive IsLevel (p : Char → Bool) : List Char → Prop
  | nil : IsLevel p []
  | plain {c : Char} {s : List Char} (hc : p c = true) (hs : IsLevel p s) : IsLevel p (c :: s)
  | quoted {body s : List Char} (hbody : '"' ∉ body) (hs : IsLevel p s) :
      IsLevel p ('"' :: (body ++ '"' :: s))

namespace IsLevel

variable {p q : Char → Bool} {s t : List Char}

theorem of_all (h : s.all p = true) : IsLevel p s := by
  induction s with
  | nil => exact .nil
  | cons c s ih =>
    rw [List.all_cons, Bool.and_eq_true] at h
    exact .plain h.1 (ih h.2)

theorem mono (hpq : ∀ c, p c = true → q c = true) (h : IsLevel p s) : IsLevel q s := by
  induction h with
  | nil => exact .nil
  | plain hc _ ih => exact .plain (hpq _ hc) ih
  | quoted hbody _ ih => exact .quoted hbody ih

theorem append (h : IsLevel p s) (ht : IsLevel p t) : IsLevel p (s ++ t) := by
  induction h with
  | nil => exact ht
  | plain hc _ ih => exact .plain hc ih
  | quoted hbody _ ih =>
    rw [List.cons_append, List.append_assoc, List.cons_append]
    exact .quoted hbody ih

/-- A text between double quotes. -/
theorem singleton (h : '"' ∉ s) : IsLevel p ('"' :: (s ++ ['"'])) :=
  .quoted h .nil

theorem intercalate (hs : IsLevel p s) {texts : List (List Char)} (h : ∀ t ∈ texts, IsLevel p t) :
    IsLevel p (s.intercalate texts) := by
  induction texts with
  | nil => exact .nil
  | cons first rest ih =>
    obtain ⟨hfirst, hrest⟩ := List.forall_mem_cons.mp h
    cases rest with
    | nil => rwa [List.intercalate_singleton]
    | cons next rest =>
      rw [List.intercalate_cons_cons]
      exact (hfirst.append hs).append (ih hrest)

/-- A level text ends as its parts do, so with no bracket if they are plain. -/
theorem of_mem_getLast? (h : IsLevel p s) : ∀ c ∈ s.getLast?, p c = true ∨ c = '"' := by
  induction h with
  | nil => nofun
  | @plain c s hc _ ih =>
    intro d hd
    cases s with
    | nil =>
      obtain rfl : c = d := Option.some.inj hd
      exact .inl hc
    | cons next s => exact ih d hd
  | @quoted body s _ _ ih =>
    intro d hd
    rw [← List.cons_append, List.getLast?_append_of_ne_nil _ (List.cons_ne_nil _ _)] at hd
    cases s with
    | nil => exact .inr (Option.some.inj hd).symm
    | cons next s => exact ih d hd

/-- Where the characters of a level text stand: in the nesting of the text, or between its quotes. And
    the text ends in its nesting. -/
theorem trace_run (hp : ∀ c, p c = true → isPlain c = true) {n : Nesting} (hquote : n.quote = none)
    (h : IsLevel p s) :
    (∀ place ∈ n.trace s, place.1 = n ∧ (p place.2 = true ∨ place.2 = '"') ∨
      place.1 = { n with quote := some '"' }) ∧ n.run s = n := by
  induction h with
  | nil => exact ⟨nofun, rfl⟩
  | plain hc _ ih =>
    rw [trace, run_cons, step_of_isPlain hquote (hp _ hc)]
    exact ⟨List.forall_mem_cons.mpr ⟨.inl ⟨rfl, .inl hc⟩, ih.1⟩, ih.2⟩
  | @quoted body s hbody _ ih =>
    have hopens : n.step '"' = { n with quote := some '"' } := by
      simp [step, hquote, isQuote]
    have hcloses : ({ n with quote := some '"' } : Nesting).step '"' = n := by
      cases n
      simp_all [step]
    obtain ⟨htrace, hrun⟩ := trace_eq_map (n := { n with quote := some '"' }) (s := body)
      fun c hc => step_of_ne_quote rfl fun heq => hbody (heq ▸ hc)
    rw [trace, run_cons, hopens, trace_append, run_append, hrun, htrace, trace, run_cons, hcloses]
    refine ⟨List.forall_mem_cons.mpr ⟨.inl ⟨rfl, .inr rfl⟩, List.forall_mem_append.mpr
      ⟨?_, List.forall_mem_cons.mpr ⟨.inr rfl, ih.1⟩⟩⟩, ih.2⟩
    simp

end IsLevel

/-- A text that can stand between separators on a line: it is level, holds none of them outside its
    quotes, and is neither empty nor has it blanks around it. -/
structure IsItem (sep : Char) (s : List Char) : Prop where
  level : IsLevel (fun c => isPlain c && c != sep) s
  trimmed : Text.trim s = s
  ne_nil : s ≠ []
  oneLine : Text.IsOneLine s

/-- What stands in front of an item can be part of it, if it does not begin with a blank. -/
theorem IsItem.append {sep : Char} {front s : List Char}
    (hfront : IsLevel (fun c => isPlain c && c != sep) front)
    (hhead : ∀ c ∈ front.head?, Text.isBlank c = false) (hline : Text.IsOneLine front)
    (h : IsItem sep s) : IsItem sep (front ++ s) := by
  refine ⟨hfront.append h.level, ?_, List.append_ne_nil_of_right_ne_nil front h.ne_nil,
    Text.isOneLine_append.mpr ⟨hline, h.oneLine⟩⟩
  cases front with
  | nil => exact h.trimmed
  | cons c front =>
    refine Text.trim_eq_self (fun d hd => ?_) fun d hd => ?_
    · exact hhead d hd
    · -- The end of the item is that of what stood there before.
      rw [List.getLast?_append_of_ne_nil _ h.ne_nil, ← h.trimmed] at hd
      exact Text.getLast_trimEnd hd

/-- Such a text is one item, and leaves the nesting to what follows it. -/
theorem IsItem.items_run {sep : Char} {s : List Char} (h : IsItem sep s) :
    items sep s = [s] ∧ Nesting.top.run s = .top := by
  obtain ⟨htrace, hrun⟩ :=
    h.level.trace_run (n := .top) (fun c hc => (Bool.and_eq_true_iff.mp hc).1) rfl
  have hblank : Text.trim s ≠ [] := by
    rw [h.trimmed]
    exact h.ne_nil
  refine ⟨(items_eq_singleton (fun place hplace => ?_) hblank).trans (by rw [h.trimmed]), hrun⟩
  rw [Bool.eq_false_iff, ne_eq, isSeparator_eq_true_iff]
  rintro ⟨htop, hsep, hplain⟩
  rcases htrace place hplace with ⟨-, hc | hc⟩ | hquoted
  · simp [hsep] at hc
  · rw [hc] at hplain
    cases hplain
  · rw [htop] at hquoted
    cases hquoted

theorem Text.trim_blank_cons {c : Char} (h : isBlank c = true) (s : List Char) :
    trim (c :: s) = trim s := by
  rw [trim, trimStart, List.dropWhile_cons_of_pos h]
  rfl

theorem Text.unquote_blank_cons {c : Char} (h : isBlank c = true) (s : List Char) :
    unquote (c :: s) = unquote s := by
  rw [unquote, trim_blank_cons h, ← unquote]

theorem Text.isPlain_of_isBlank {c : Char} (h : isBlank c = true) : isPlain c = true :=
  isPlain_of_pos (by decide) h

/-- A blank in front of items belongs to none. -/
theorem items_blank_cons {sep c : Char} (hc : Text.isBlank c = true) (hsep : sep ≠ c)
    (s : List Char) : items sep (c :: s) = items sep s := by
  have hpieces : pieces sep .top (c :: s) = (pieces sep .top s).modifyHead (c :: ·) := by
    rw [pieces, if_neg (by simp [isSeparator, hsep.symm]),
      step_of_isPlain rfl (Text.isPlain_of_isBlank hc)]
  obtain ⟨piece, others, hrest⟩ := List.exists_cons_of_ne_nil (pieces_ne_nil sep .top s)
  simp [items, hpieces, hrest, Text.trim_blank_cons hc]

/-- Items are found again in the list that they are written to. -/
theorem items_intercalate {sep : Char} (hsep : isPlain sep = true) (hblank : sep ≠ ' ')
    {texts : List (List Char)} (h : ∀ s ∈ texts, IsItem sep s) :
    items sep ([sep, ' '].intercalate texts) = texts := by
  induction texts with
  | nil => rfl
  | cons first rest ih =>
    obtain ⟨hfirst, hrest⟩ := List.forall_mem_cons.mp h
    obtain ⟨hitems, hrun⟩ := hfirst.items_run
    cases rest with
    | nil => rwa [List.intercalate_singleton]
    | cons next rest =>
      rw [List.intercalate_cons_cons, List.append_assoc, List.cons_append,
        items_append_cons hsep hrun, List.singleton_append, items_blank_cons rfl hblank, hitems, ih hrest]
      rfl

/-- A group runs past a level text, and is ended by a closer behind it. -/
theorem Token.takeEnclosed_of_isLevel {s : List Char} (h : IsLevel isPlain s) {closer : Char}
    (hcloser : isCloser closer = true) (rest : List Char) :
    takeEnclosed .enclosed (s ++ closer :: rest) = (s ++ [closer], rest) := by
  obtain ⟨htrace, hrun⟩ := h.trace_run (n := .enclosed) (fun _ hc => hc) rfl
  have hstays : ∀ place ∈ Nesting.enclosed.trace s, (place.1.step place.2).isTop = false := by
    intro place hplace
    rcases htrace place hplace with ⟨hplace, hc | hc⟩ | hplace
    · rw [hplace, step_of_isPlain rfl hc]
      rfl
    · rw [hplace, hc]
      rfl
    · rw [hplace]
      simp only [step]
      split <;> rfl
  have hleaves : (Nesting.enclosed.step closer).isTop = true := by
    rcases isCloser_eq_true_iff.mp hcloser with rfl | rfl <;> decide
  rw [takeEnclosed_append_of_trace hstays, hrun, takeEnclosed, if_pos hleaves]

end SchemaLang
