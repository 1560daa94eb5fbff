import Mathlib.Data.List.TakeWhile
import SchemaLang.Proofs.Source.Level

/-!
# Items and the separators between them

A text is cut at the separators that stand outside all brackets and quotes, and the pieces without
the blanks around them are its items. The pieces are told by that alone: there is one way to cut a
text so that no piece holds another place for a cut. And a list is found again however it is laid
out, with blanks and empty items strewn in, as long as each item leaves all brackets and quotes
closed.

## Key results

- `pieces_eq_iff`: the pieces of a text are those of its only cut
- `items_spacing_append`: blanks and separators in front of items belong to none
- `items_append_spacing`: nor do those behind an item
- `items_listing_and_cut`: lists are found again, and the items of any text are those of its cut
-/

namespace SchemaLang

open Nesting

variable {sep : Char} {n : Nesting} {s : List Char}

/-! ## Cuts -/

/-- No separator stands outside brackets and quotes in a text that starts in the nesting. -/
def IsUncut (sep : Char) (n : Nesting) (s : List Char) : Prop :=
  (.top, sep) ∉ n.trace s

instance (sep : Char) (n : Nesting) (s : List Char) : Decidable (IsUncut sep n s) :=
  inferInstanceAs (Decidable (¬ _))

/-- The text, which starts in the nesting, is cut into the pieces: at separators outside brackets and
    quotes, and at all of them. -/
inductive IsCut (sep : Char) : Nesting → List Char → List (List Char) → Prop
  | last {n : Nesting} {s : List Char} (hs : IsUncut sep n s) : IsCut sep n s [s]
  | cons {n : Nesting} {piece rest : List Char} {others : List (List Char)}
      (hpiece : IsUncut sep n piece) (htop : n.run piece = .top)
      (hrest : IsCut sep .top rest others) :
      IsCut sep n (piece ++ sep :: rest) (piece :: others)

theorem IsCut.ne_nil {others : List (List Char)} (h : IsCut sep n s others) : others ≠ [] := by
  cases h <;> exact List.cons_ne_nil _ _

theorem isUncut_nil (sep : Char) (n : Nesting) : IsUncut sep n [] :=
  List.not_mem_nil

theorem isUncut_cons {c : Char} (hc : ¬ (n = .top ∧ c = sep)) (hs : IsUncut sep (n.step c) s) :
    IsUncut sep n (c :: s) := by
  rw [IsUncut, trace, List.mem_cons, Prod.mk.injEq, not_or]
  exact ⟨fun h => hc ⟨h.1.symm, h.2.symm⟩, hs⟩

/-- Where no separator stands, none is taken for one. -/
theorem IsUncut.isSeparator_eq_false (h : IsUncut sep n s) :
    ∀ place ∈ n.trace s, isSeparator sep place.1 place.2 = false := by
  intro place hplace
  rw [Bool.eq_false_iff, ne_eq, isSeparator_eq_true_iff]
  rintro ⟨htop, hsep, -⟩
  exact h (by rwa [← htop, ← hsep])

/-- Such a text is one piece. -/
theorem IsUncut.pieces_eq (h : IsUncut sep n s) : pieces sep n s = [s] := by
  have hpieces := pieces_append h.isSeparator_eq_false []
  rw [List.append_nil, pieces] at hpieces
  rw [hpieces, List.modifyHead_cons, List.append_nil]

/-- The pieces of a text are a cut of it. -/
theorem isCut_pieces (hsep : isPlain sep = true) (n : Nesting) (s : List Char) :
    IsCut sep n s (pieces sep n s) := by
  induction s generalizing n with
  | nil => exact .last (isUncut_nil sep n)
  | cons c s ih =>
    rw [pieces]
    split
    · next hhere =>
      obtain ⟨rfl, rfl, -⟩ := isSeparator_eq_true_iff.mp hhere
      exact .cons (isUncut_nil c .top) rfl (ih .top)
    · next hgoes =>
      have hc : ¬ (n = .top ∧ c = sep) := fun h =>
        hgoes (isSeparator_eq_true_iff.mpr ⟨h.1, h.2, h.2 ▸ hsep⟩)
      -- The character goes with the first piece, whether that is the last one or not.
      cases hrest : pieces sep (n.step c) s with
      | nil => exact absurd hrest (pieces_ne_nil sep (n.step c) s)
      | cons piece others =>
        have hcut := ih (n.step c)
        rw [hrest] at hcut
        cases hcut with
        | last hs => exact .last (isUncut_cons hc hs)
        | cons hpiece htop hothers => exact .cons (isUncut_cons hc hpiece) htop hothers

/-- No other cut is one. -/
theorem IsCut.pieces_eq (hsep : isPlain sep = true) {others : List (List Char)}
    (h : IsCut sep n s others) : pieces sep n s = others := by
  induction h with
  | last hs => exact hs.pieces_eq
  | cons hpiece htop _ ih =>
    rw [pieces_append_cons hsep htop, hpiece.pieces_eq, ih, List.singleton_append]

/-- The pieces of a text are those of its only cut. -/
theorem pieces_eq_iff (hsep : isPlain sep = true) {others : List (List Char)} :
    pieces sep n s = others ↔ IsCut sep n s others :=
  ⟨fun h => h ▸ isCut_pieces hsep n s, IsCut.pieces_eq hsep⟩

/-- A text without the separator is not cut. -/
theorem isUncut_of_not_mem (h : sep ∉ s) (n : Nesting) : IsUncut sep n s := by
  induction s generalizing n with
  | nil => exact isUncut_nil sep n
  | cons c s ih =>
    rw [List.mem_cons, not_or] at h
    exact isUncut_cons (fun hc => h.1 hc.2.symm) (ih h.2 (n.step c))

theorem IsUncut.append {t : List Char} (hs : IsUncut sep n s) (ht : IsUncut sep (n.run s) t) :
    IsUncut sep n (s ++ t) := by
  rw [IsUncut, trace_append, List.mem_append, not_or]
  exact ⟨hs, ht⟩

/-! ## Spacing -/

/-- A text of blanks and separators. -/
def IsSpacing (sep : Char) (s : List Char) : Prop :=
  ∀ c ∈ s, c = sep ∨ Text.isBlank c = true

instance (sep : Char) (s : List Char) : Decidable (IsSpacing sep s) :=
  List.decidableBAll _ s

/-- Blanks at the end of a text are trimmed off. -/
theorem Text.trim_append_of_isBlank (s : List Char) {blanks : List Char}
    (h : ∀ c ∈ blanks, isBlank c = true) : trim (s ++ blanks) = trim s := by
  have hdropped : blanks.dropWhile isBlank = [] := List.dropWhile_eq_nil_iff.mpr h
  rw [trim, trim, trimStart, trimStart, List.dropWhile_append]
  split
  · next hempty => rw [hdropped, List.isEmpty_iff.mp hempty]
  · rw [trimEnd, trimEnd, dropEndWhile, dropEndWhile, List.reverse_append,
      List.dropWhile_append_of_pos fun c hc => h c (List.mem_reverse.mp hc)]

/-- Blanks and separators in front of items belong to none. -/
theorem items_spacing_append (hsep : isPlain sep = true) {front : List Char}
    (h : IsSpacing sep front) (s : List Char) : items sep (front ++ s) = items sep s := by
  induction front with
  | nil => rfl
  | cons c front ih =>
    obtain ⟨hc, hfront⟩ := List.forall_mem_cons.mp h
    by_cases hcut : c = sep
    · -- The separator ends an empty item.
      have hitems := items_append_cons hsep (s := []) rfl (front ++ s)
      rw [List.nil_append] at hitems
      rw [hcut, List.cons_append, hitems, ih hfront]
      rfl
    · rw [List.cons_append, items_blank_cons (hc.resolve_left hcut) (Ne.symm hcut), ih hfront]

/-! ## Lists -/

/-- A text that is an item wherever it stands: it is neither empty nor has it blanks around it, closes
    the brackets and quotes that it opens, and is not cut. -/
structure IsSelfContained (sep : Char) (s : List Char) : Prop where
  ne_nil : s ≠ []
  trimmed : Text.trim s = s
  closed : Nesting.top.run s = .top
  uncut : IsUncut sep .top s

instance (sep : Char) (s : List Char) : Decidable (IsSelfContained sep s) :=
  decidable_of_iff (s ≠ [] ∧ Text.trim s = s ∧ Nesting.top.run s = .top ∧ IsUncut sep .top s)
    ⟨fun ⟨hne, htrimmed, hclosed, huncut⟩ => ⟨hne, htrimmed, hclosed, huncut⟩,
      fun h => ⟨h.ne_nil, h.trimmed, h.closed, h.uncut⟩⟩

section

variable {item : List Char} (h : IsSelfContained sep item)

include h

/-- Blanks behind an item do not belong to it. -/
theorem items_append_of_isBlank {blanks : List Char} (hblanks : ∀ c ∈ blanks, Text.isBlank c = true)
    (hsep : sep ∉ blanks) :
    items sep (item ++ blanks) = [item] ∧ Nesting.top.run (item ++ blanks) = .top := by
  have htrim : Text.trim (item ++ blanks) = item := by
    rw [Text.trim_append_of_isBlank item hblanks, h.trimmed]
  have huncut : IsUncut sep .top (item ++ blanks) := h.uncut.append (isUncut_of_not_mem hsep _)
  have hstays : Nesting.top.run blanks = .top :=
    (trace_eq_map fun c hc => step_of_isPlain rfl (Text.isPlain_of_isBlank (hblanks c hc))).2
  constructor
  · rw [items_eq_singleton huncut.isSeparator_eq_false (by rw [htrim]; exact h.ne_nil), htrim]
  · rw [run_append, h.closed, hstays]

/-- A separator among the blanks behind an item parts it from what follows. -/
theorem items_append_spacing_append (hsep : isPlain sep = true) {gap : List Char}
    (hgap : IsSpacing sep gap) (hcut : sep ∈ gap) (s : List Char) :
    items sep (item ++ (gap ++ s)) = item :: items sep s := by
  obtain ⟨blanks, gap, rfl, hblanks⟩ := List.eq_append_cons_of_mem hcut
  obtain ⟨hfront, hback⟩ := List.forall_mem_append.mp hgap
  have hfront : ∀ c ∈ blanks, Text.isBlank c = true := fun c hc =>
    (hfront c hc).resolve_left fun heq => hblanks (heq ▸ hc)
  obtain ⟨hitems, hrun⟩ := items_append_of_isBlank h hfront hblanks
  calc items sep (item ++ (blanks ++ sep :: gap ++ s))
      = items sep ((item ++ blanks) ++ sep :: (gap ++ s)) := by simp
    _ = [item] ++ items sep (gap ++ s) := by rw [items_append_cons hsep hrun, hitems]
    _ = item :: items sep s := by
      rw [items_spacing_append hsep (List.forall_mem_cons.mp hback).2, List.singleton_append]

/-- Nothing but an item stands in front of the spacing behind it. -/
theorem items_append_spacing (hsep : isPlain sep = true) {gap : List Char}
    (hgap : IsSpacing sep gap) : items sep (item ++ gap) = [item] := by
  by_cases hcut : sep ∈ gap
  · have hitems := items_append_spacing_append h hsep hgap hcut []
    rwa [List.append_nil] at hitems
  · have hblanks : ∀ c ∈ gap, Text.isBlank c = true := fun c hc =>
      (hgap c hc).resolve_left fun heq => hcut (heq ▸ hc)
    exact (items_append_of_isBlank h hblanks hcut).1

end

/-- An item as it is written in a list, and what stands between it and the next one. -/
structure ListedItem where
  item : List Char
  gap : List Char
  deriving DecidableEq, Repr

/-- The item with what stands behind it. -/
def ListedItem.text (entry : ListedItem) : List Char :=
  entry.item ++ entry.gap

/-- The items can be listed so: each one holds together by itself, a separator stands between any two
    of them, and beside separators only blanks do. Where separators stand side by side, or at an end,
    they have empty items between them. -/
structure IsListing (sep : Char) (front : List Char) (entries : List ListedItem) : Prop where
  front : IsSpacing sep front
  items : ∀ entry ∈ entries, IsSelfContained sep entry.item
  gaps : ∀ entry ∈ entries, IsSpacing sep entry.gap
  parted : ∀ entry ∈ entries.dropLast, sep ∈ entry.gap

/-- A list is found again. -/
theorem items_flatMap_text (hsep : isPlain sep = true) {front : List Char}
    {entries : List ListedItem} (h : IsListing sep front entries) :
    items sep (front ++ entries.flatMap ListedItem.text) = entries.map (·.item) := by
  obtain ⟨hfront, hitems, hgaps, hparted⟩ := h
  rw [items_spacing_append hsep hfront]
  induction entries with
  | nil => rfl
  | cons entry rest ih =>
    obtain ⟨hitem, hitems⟩ := List.forall_mem_cons.mp hitems
    obtain ⟨hgap, hgaps⟩ := List.forall_mem_cons.mp hgaps
    rw [List.flatMap_cons, List.map_cons, ListedItem.text]
    cases rest with
    | nil =>
      rw [List.flatMap_nil, List.append_nil, items_append_spacing hitem hsep hgap]
      rfl
    | cons next rest =>
      rw [List.dropLast_cons_of_ne_nil (List.cons_ne_nil _ _), List.forall_mem_cons] at hparted
      rw [List.append_assoc, items_append_spacing_append hitem hsep hgap hparted.1,
        ih hitems hgaps hparted.2]

/-- However a list is laid out, its items are those that are listed. And whatever a text holds, its
    items are what is left of the pieces that it is cut into: trimmed, and none of them empty. -/
theorem items_listing_and_cut (hsep : isPlain sep = true) :
    (∀ front entries, IsListing sep front entries →
      items sep (front ++ entries.flatMap ListedItem.text) = entries.map (·.item)) ∧
    ∀ s, ∃ others, IsCut sep .top s others ∧
      items sep s = (others.map Text.trim).filter (· ≠ []) := by
  refine ⟨fun _ _ => items_flatMap_text hsep, fun s => ⟨_, isCut_pieces hsep .top s, ?_⟩⟩
  exact List.filter_congr fun piece _ => by cases piece <;> rfl

/-- Items that hold separators in quotes and in brackets, one with a closer of its own, and between
    them blanks and empty items. -/
def strewnItems : List ListedItem :=
  [{ item := "default: \"a, [b\"".toList, gap := " ,, ".toList },
    { item := "(c, 'd)']".toList, gap := "\u3000,\t".toList },
    { item := "e)f".toList, gap := " , ".toList }]

theorem items_listing_and_cut_strewnItems :
    isPlain ',' = true ∧ IsListing ',' " ,".toList strewnItems ∧
      " ,".toList ++ strewnItems.flatMap ListedItem.text =
        " ,default: \"a, [b\" ,, (c, 'd)']\u3000,\te)f , ".toList ∧
      items ',' (" ,".toList ++ strewnItems.flatMap ListedItem.text) =
        ["default: \"a, [b\"".toList, "(c, 'd)']".toList, "e)f".toList] ∧
      ∃ others, IsCut ',' .top "pk), ,\"x, y".toList others ∧
        items ',' "pk), ,\"x, y".toList = (others.map Text.trim).filter (· ≠ []) := by
  have hlisting : IsListing ',' " ,".toList strewnItems :=
    ⟨by decide +kernel, by decide +kernel, by decide +kernel, by decide +kernel⟩
  obtain ⟨hlist, hcut⟩ := @items_listing_and_cut ',' rfl
  exact ⟨rfl, hlisting, by decide +kernel, hlist _ _ hlisting, hcut _⟩

/-- A quote that is left open takes what follows it, and a closer too many changes nothing. -/
example : items ',' "pk), ,\"x, y".toList = ["pk)".toList, "\"x, y".toList] := by
  decide +kernel

end SchemaLang
