/-!
# Lemmas on `Option` for the standard library

Running over a list with a function that may have no value.
-/

namespace List

variable {α β : Type}

/-- A run over a list has the values of its elements. -/
theorem mapM_eq_some_map {f : α → Option β} {g : α → β} {l : List α}
    (h : ∀ x ∈ l, f x = some (g x)) : l.mapM f = some (l.map g) := by
  induction l with
  | nil => rfl
  | cons x rest ih =>
    rw [mapM_cons, h x mem_cons_self, ih fun y hy => h y (mem_cons_of_mem x hy)]
    rfl

/-- What is written element by element is read so. -/
theorem mapM_map_eq_some {write : α → β} {read : β → Option α} {l : List α}
    (h : ∀ x ∈ l, read (write x) = some x) : (l.map write).mapM read = some l := by
  rw [mapM_map]
  exact (mapM_eq_some_map h).trans (congrArg some (map_id' l))

/-- Each value of a run is that of an element. -/
theorem exists_mem_of_mapM_eq_some {f : α → Option β} {l : List α} {values : List β}
    (h : l.mapM f = some values) {y : β} (hy : y ∈ values) : ∃ x ∈ l, f x = some y := by
  induction l generalizing values with
  | nil =>
    cases h
    cases hy
  | cons x rest ih =>
    rw [mapM_cons] at h
    simp only [Option.bind_eq_bind, Option.bind_eq_some_iff, Option.pure_def,
      Option.some.injEq] at h
    obtain ⟨z, hz, zs, hzs, rfl⟩ := h
    rcases mem_cons.mp hy with rfl | hy
    · exact ⟨x, mem_cons_self, hz⟩
    · obtain ⟨w, hw, hread⟩ := ih hzs hy
      exact ⟨w, mem_cons_of_mem x hw, hread⟩

end List
