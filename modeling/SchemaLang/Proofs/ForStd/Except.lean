import Mathlib.Data.List.Forall2

/-!
# Lemmas on `Except` for the standard library

Steps that may fail, one after the other or over a list.
-/

namespace Except

variable {ε ε' α β : Type}

/-- Two steps succeed if the first one does and the second one on its value. -/
theorem bind_eq_ok_iff {x : Except ε α} {f : α → Except ε β} {y : β} :
    (x >>= f) = .ok y ↔ ∃ a, x = .ok a ∧ f a = .ok y := by
  cases x with
  | error e => exact ⟨nofun, fun ⟨_, h, _⟩ => nomatch h⟩
  | ok a =>
    refine ⟨fun h => ⟨a, rfl, h⟩, ?_⟩
    rintro ⟨_, hx, hy⟩
    cases hx
    exact hy

/-- Another wording of the error changes no success. -/
theorem mapError_eq_ok_iff {x : Except ε α} {f : ε → ε'} {a : α} :
    x.mapError f = .ok a ↔ x = .ok a := by
  cases x with
  | error e => exact ⟨nofun, nofun⟩
  | ok b => simp only [Except.mapError, Except.ok.injEq]

end Except

namespace List

variable {ε α β : Type}

/-- A run over a list succeeds if it does so on every element. -/
theorem exists_mapM_eq_ok {f : α → Except ε β} {l : List α} (h : ∀ x ∈ l, ∃ y, f x = .ok y) :
    ∃ ys, l.mapM f = .ok ys := by
  induction l with
  | nil => exact ⟨[], rfl⟩
  | cons x rest ih =>
    obtain ⟨y, hy⟩ := h x mem_cons_self
    obtain ⟨ys, hys⟩ := ih fun z hz => h z (mem_cons_of_mem _ hz)
    refine ⟨y :: ys, ?_⟩
    rw [mapM_cons, hy, hys]
    rfl

/-- A run that succeeds has done so on every element. -/
theorem forall₂_of_mapM_eq_ok {f : α → Except ε β} {l : List α} {ys : List β}
    (h : l.mapM f = .ok ys) : Forall₂ (fun x y => f x = .ok y) l ys := by
  induction l generalizing ys with
  | nil =>
    cases h
    exact .nil
  | cons x rest ih =>
    rw [mapM_cons, Except.bind_eq_ok_iff] at h
    obtain ⟨y, hx, h⟩ := h
    obtain ⟨zs, hrest, h⟩ := Except.bind_eq_ok_iff.mp h
    cases h
    exact .cons hx (ih hrest)

end List
