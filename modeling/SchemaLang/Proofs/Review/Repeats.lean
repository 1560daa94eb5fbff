import Mathlib.Data.List.Nodup
import SchemaLang.Review.Earlier

/-!
# Repetitions and distinct keys

The reports of repeated names are read off `repeats` and `withEarlier`. Nothing repeats exactly if
the keys of the list are pairwise distinct.

## Key results

- `repeats_eq_nil_iff`: no element repeats a key iff the keys are distinct
- `forall_withEarlier_iff`: no element stands beside an earlier one iff the keys are distinct
-/

namespace SchemaLang

variable {α κ : Type} [BEq κ] [LawfulBEq κ]

/-- The front part of a list holds an element with the key of `x` iff the look-up finds one. -/
private theorem find?_key_eq_none_iff (key : α → κ) (before : List α) (x : α) :
    (before.find? fun y => key y == key x) = none ↔ key x ∉ before.map key := by
  simp only [List.find?_eq_none, beq_iff_eq, List.mem_map, not_exists, not_and]

/-- No element of `l` stands beside an earlier one, neither of `l` nor of `before`, iff the keys of
    `l` are distinct and none of them is a key of `before`. -/
private theorem forall_withEarlierAfter_iff (key : α → κ) (before l : List α) :
    (∀ p ∈ withEarlierAfter key before l, p.2 = none) ↔
      (l.map key).Nodup ∧ ∀ x ∈ l, key x ∉ before.map key := by
  induction l generalizing before with
  | nil => simp [withEarlierAfter]
  | cons x rest ih =>
    simp only [withEarlierAfter, List.forall_mem_cons, ih, find?_key_eq_none_iff, List.map_cons,
      List.nodup_cons, List.map_append, List.map_nil, List.mem_append, List.mem_singleton, not_or]
    constructor
    · rintro ⟨hx, hnodup, hrest⟩
      refine ⟨⟨fun hmem => ?_, hnodup⟩, hx, fun y hy => (hrest y hy).1⟩
      obtain ⟨y, hy, heq⟩ := List.mem_map.mp hmem
      exact (hrest y hy).2 heq
    · rintro ⟨⟨hx', hnodup⟩, hx, hrest⟩
      exact ⟨hx, hnodup, fun y hy => ⟨hrest y hy, fun heq => hx' (heq ▸ List.mem_map_of_mem hy)⟩⟩

/-- No element stands beside an earlier one iff the keys are distinct. -/
theorem forall_withEarlier_iff (key : α → κ) (l : List α) :
    (∀ p ∈ withEarlier key l, p.2 = none) ↔ (l.map key).Nodup := by
  rw [withEarlier, forall_withEarlierAfter_iff]
  simp

/-- No element repeats a key iff the keys are distinct. -/
theorem repeats_eq_nil_iff (key : α → κ) (l : List α) :
    repeats key l = [] ↔ (l.map key).Nodup := by
  rw [repeats, List.filterMap_eq_nil_iff, ← forall_withEarlier_iff]
  simp only [Option.map_eq_none_iff]

end SchemaLang
