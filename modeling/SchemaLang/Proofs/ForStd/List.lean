import Mathlib.Data.List.Forall2

/-!
# Lists and positions

What stands at a position of a list, what becomes of a list with its positions if one element is put
in the place of another, and lists that are related position by position.
-/

namespace List

variable {α : Type}

theorem eq_take_append_cons_drop {l : List α} {i : Nat} {x : α} (h : l[i]? = some x) :
    l = l.take i ++ x :: l.drop (i + 1) := by
  obtain ⟨hlt, rfl⟩ := getElem?_eq_some_iff.mp h
  rw [← drop_eq_getElem_cons hlt, take_append_drop]

/-- The numbers below `n` are those in front of one of them, that one and others. -/
theorem exists_range_eq_append_cons {n i : Nat} (h : i < n) :
    ∃ rest, range n = range i ++ i :: rest := by
  have hsplit := eq_take_append_cons_drop (getElem?_range h)
  rw [take_range, Nat.min_eq_left (Nat.le_of_lt h)] at hsplit
  exact ⟨_, hsplit⟩

/-- A list that is run over beside one that is no shorter. -/
theorem zipWith_const_right {β γ : Type} (f : α → γ) {l : List α} {l' : List β}
    (h : l.length ≤ l'.length) : zipWith (fun x _ => f x) l l' = l.map f := by
  calc zipWith (fun x _ => f x) l l'
      = ((l.zip l').map Prod.fst).map f := by
        rw [map_map]
        exact (map_zip_eq_zipWith (f := fun x : α × β => f x.1)).symm
    _ = l.map f := by rw [map_fst_zip h]

/-- What follows an element that does not fit has no say in how far those that fit reach. -/
theorem takeWhile_append_of_head? {p : α → Bool} (l : List α) {l' : List α}
    (h : ∀ x ∈ l'.head?, p x = false) : (l ++ l').takeWhile p = l.takeWhile p := by
  induction l with
  | nil =>
    cases l' with
    | nil => rfl
    | cons x rest => rw [nil_append, takeWhile_cons_of_neg (by simp [h x rfl])]; rfl
  | cons x rest ih => rw [cons_append, takeWhile_cons, takeWhile_cons, ih]

theorem zipIdx_set (l : List α) (i : Nat) (y : α) : (l.set i y).zipIdx = l.zipIdx.set i (y, i) := by
  refine ext_getElem? fun j => ?_
  simp only [getElem?_zipIdx, getElem?_set, length_zipIdx]
  split
  · next h =>
    subst h
    split <;> simp
  · rfl

/-- Another element at a position leaves what stands around it. -/
private theorem zipIdx_set_of_eq_append {l : List α} {i : Nat} {x y : α}
    {before after : List (α × Nat)} (h : l.zipIdx = before ++ (x, i) :: after) :
    (l.set i y).zipIdx = before ++ (y, i) :: after := by
  have hposition : i = before.length := by
    have hget := congrArg (·[before.length]?) h
    simp only [getElem?_zipIdx, getElem?_append_right (Nat.le_refl _), Nat.sub_self,
      getElem?_cons_zero, Option.map_eq_some_iff, Prod.mk.injEq, Nat.zero_add] at hget
    obtain ⟨_, -, -, h⟩ := hget
    exact h.symm
  rw [zipIdx_set, h, set_append_right _ _ (Nat.le_of_eq hposition.symm), hposition, Nat.sub_self,
    set_cons_zero]

/-- What comes back behind another list is made of that one's elements: it repeats it. -/
theorem mem_of_isPrefix_append {back l : List α} (hback : back ≠ []) (h : l <+: back ++ l) {x : α}
    (hx : x ∈ l) : x ∈ back := by
  by_cases hlength : l.length ≤ back.length
  · exact (prefix_of_prefix_length_le h (prefix_append back l) hlength).subset hx
  · obtain ⟨rest, hrest⟩ := prefix_of_prefix_length_le (prefix_append back l) h (by omega)
    have hagain : rest <+: back ++ rest := by
      rwa [← prefix_append_right_inj back, hrest]
    rcases mem_append.mp (hrest ▸ hx) with hx | hx
    · exact hx
    · exact mem_of_isPrefix_append hback hagain hx
termination_by l.length
decreasing_by
  have := length_pos_iff.mpr hback
  rw [← hrest, length_append]
  omega

/-- If a list goes on the same behind another one, the first two elements that it goes on with are
    that one's. -/
theorem mem_of_append_eq_append {front back rest rest' : List α} {x y : α} (hback : 2 ≤ back.length)
    (h : front ++ x :: y :: rest = back ++ (front ++ rest')) : y ∈ back := by
  have hleft : front ++ [x, y] <+: back ++ (front ++ rest') := ⟨rest, by rw [← h]; simp⟩
  have hright : back ++ front <+: back ++ (front ++ rest') := ⟨rest', by simp⟩
  have hprefix : front ++ [x, y] <+: back ++ front :=
    prefix_of_prefix_length_le hleft hright (by simp; omega)
  have hy : y ∈ back ++ front := hprefix.subset (by simp)
  rcases mem_append.mp hy with hy | hy
  · exact hy
  · exact mem_of_isPrefix_append (length_pos_iff.mp (by omega))
      ((prefix_append front [x, y]).trans hprefix) hy

variable {p : α → Bool} {l : List α} {i : Nat} {x y : α}

/-- An element that fits stands behind those in front of it that do. -/
theorem getElem?_filter_countP_take (hx : l[i]? = some x) (hpx : p x = true) :
    (l.filter p)[(l.take i).countP p]? = some x := by
  have hfilter : l.filter p = (l.take i).filter p ++ x :: (l.drop (i + 1)).filter p := by
    conv_lhs => rw [eq_take_append_cons_drop hx]
    rw [filter_append, filter_cons_of_pos hpx]
  rw [hfilter, countP_eq_length_filter, getElem?_append_right (Nat.le_refl _), Nat.sub_self,
    getElem?_cons_zero]

/-- An element that does not fit is put in the place of one that does not either. -/
theorem filter_zipIdx_set_of_neg (hx : l[i]? = some x) (hpx : p x = false) (hpy : p y = false) :
    (l.set i y).zipIdx.filter (p ·.1) = l.zipIdx.filter (p ·.1) := by
  have hmem : (x, i) ∈ l.zipIdx := mem_zipIdx_iff_getElem?.mpr hx
  obtain ⟨before, after, happend⟩ := append_of_mem hmem
  rw [zipIdx_set_of_eq_append happend, happend, filter_append, filter_append,
    filter_cons_of_neg (by simp [hpy]), filter_cons_of_neg (by simp [hpx])]

/-- An element that does not fit is put in the place of the first one that does. -/
theorem filter_zipIdx_set_of_find? (h : l.zipIdx.find? (p ·.1) = some (x, i)) (hpy : p y = false) :
    (l.set i y).zipIdx.filter (p ·.1) = (l.zipIdx.filter (p ·.1)).tail := by
  obtain ⟨hpx, before, after, happend, hbefore⟩ := find?_eq_some_iff_append.mp h
  have hnone : before.filter (p ·.1) = [] :=
    filter_eq_nil_iff.mpr fun a ha => by simpa using hbefore a ha
  rw [zipIdx_set_of_eq_append happend, happend, filter_append, filter_append, hnone, nil_append,
    nil_append, filter_cons_of_neg (by simp [hpy]), filter_cons_of_pos (by simpa using hpx),
    tail_cons]

/-! ## Elements that are looked up -/

/-- The place of the first element that fits leads back to it. -/
theorem map_getElem?_findIdx? (p : α → Bool) (l : List α) :
    (l.findIdx? p).map (l[·]?) = (l.find? p).map some := by
  cases hplace : l.findIdx? p with
  | none =>
    rw [findIdx?_eq_none_iff] at hplace
    have hnone : l.find? p = none := find?_eq_none.mpr fun x hx => by simp [hplace x hx]
    rw [hnone]
    rfl
  | some i =>
    have hfound : l.find? p = l[i]? := by
      rw [find?_eq_bind_findIdx?_getElem?, hplace, Option.bind_some]
    obtain ⟨hlt, -⟩ := findIdx?_eq_some_iff_getElem.mp hplace
    rw [hfound, Option.map_some, getElem?_eq_getElem hlt]
    rfl

/-- The first element that fits stands in the first place that does. -/
theorem exists_findIdx?_of_find? (h : l.find? p = some x) :
    ∃ i, l.findIdx? p = some i ∧ l[i]? = some x := by
  have hplace := map_getElem?_findIdx? p l
  rwa [h, Option.map_some, Option.map_eq_some_iff] at hplace

/-- An element is found if no other one fits. -/
theorem find?_eq_some_of_unique (hx : x ∈ l) (hpx : p x = true)
    (hunique : ∀ y ∈ l, p y = true → y = x) : l.find? p = some x := by
  cases hfound : l.find? p with
  | none => exact absurd hpx (by simpa using find?_eq_none.mp hfound x hx)
  | some y => rw [hunique y (mem_of_find?_eq_some hfound) (find?_some hfound)]

/-! ## Elements that are counted once -/

/-- What is counted once is not counted before the place where it stands. -/
theorem countP_take_eq_zero (hx : l[i]? = some x) (hpx : p x = true) (honce : l.countP p = 1) :
    (l.take i).countP p = 0 := by
  have hsplit := congrArg (countP p) (eq_take_append_cons_drop hx)
  rw [honce, countP_append, countP_cons, if_pos hpx] at hsplit
  omega

/-- What is counted once stands in one place. -/
theorem position_unique_of_countP_eq_one {j : Nat} (hx : l[i]? = some x) (hy : l[j]? = some y)
    (hpx : p x = true) (hpy : p y = true) (honce : l.countP p = 1) : i = j := by
  have hbefore : ∀ {i j : Nat} {x y : α}, l[i]? = some x → l[j]? = some y → p x = true →
      p y = true → ¬ i < j := by
    intro i j x y hx hy hpx hpy hlt
    have hmem : x ∈ l.take j := by
      rw [← getElem?_take_of_lt hlt] at hx
      exact mem_of_getElem? hx
    exact countP_eq_zero.mp (countP_take_eq_zero hy hpy honce) x hmem hpx
  have hij := hbefore hx hy hpx hpy
  have hji := hbefore hy hx hpy hpx
  omega

/-! ## Related lists -/

/-- An element of one list has a relative at its position in the other one. -/
theorem Forall₂.exists_getElem? {β : Type} {r : α → β → Prop} {ys : List β} (h : Forall₂ r l ys)
    (hx : l[i]? = some x) : ∃ y, ys[i]? = some y ∧ r x y := by
  induction h generalizing i with
  | nil => cases hx
  | cons hxy _ ih =>
    cases i with
    | zero =>
      cases hx
      exact ⟨_, rfl, hxy⟩
    | succ i => exact ih hx

/-- An element of one list has a relative in the other one. -/
theorem Forall₂.exists_mem {β : Type} {r : α → β → Prop} {ys : List β} (h : Forall₂ r l ys)
    (hx : x ∈ l) : ∃ y ∈ ys, r x y := by
  obtain ⟨i, hi⟩ := mem_iff_getElem?.mp hx
  obtain ⟨y, hy, hxy⟩ := h.exists_getElem? hi
  exact ⟨y, mem_of_getElem? hy, hxy⟩

/-- Relatives are related also as elements of the lists. -/
theorem Forall₂.imp_of_mem {β : Type} {r r' : α → β → Prop} {ys : List β} (h : Forall₂ r l ys)
    (himp : ∀ x ∈ l, ∀ y ∈ ys, r x y → r' x y) : Forall₂ r' l ys := by
  induction h with
  | nil => exact .nil
  | cons hxy _ ih =>
    refine .cons (himp _ mem_cons_self _ mem_cons_self hxy) (ih fun x hx y hy => ?_)
    exact himp x (mem_cons_of_mem _ hx) y (mem_cons_of_mem _ hy)

/-- Relatives are related also as elements of the one list. -/
theorem Forall₂.imp_of_mem_left {β : Type} {r r' : α → β → Prop} {ys : List β} (h : Forall₂ r l ys)
    (himp : ∀ x ∈ l, ∀ y, r x y → r' x y) : Forall₂ r' l ys :=
  h.imp_of_mem fun x hx y _ => himp x hx y

/-- Relatives in two ways. -/
theorem Forall₂.and {β : Type} {r r' : α → β → Prop} {ys : List β} (h : Forall₂ r l ys)
    (h' : Forall₂ r' l ys) : Forall₂ (fun x y => r x y ∧ r' x y) l ys := by
  induction h with
  | nil => exact .nil
  | cons hxy _ ih =>
    cases h' with
    | cons hxy' hrest => exact .cons ⟨hxy, hxy'⟩ (ih hrest)

/-- A test that does not tell relatives apart. -/
theorem Forall₂.any_eq {β : Type} {q : β → Bool} {ys : List β}
    (h : Forall₂ (fun x y => p x = q y) l ys) : l.any p = ys.any q := by
  induction h with
  | nil => rfl
  | cons hxy _ ih => rw [any_cons, any_cons, hxy, ih]

/-- The values of relatives, where these have the same. -/
theorem Forall₂.filterMap_eq {β γ : Type} {f : α → Option γ} {g : β → Option γ} {ys : List β}
    (h : Forall₂ (fun x y => f x = g y) l ys) : l.filterMap f = ys.filterMap g := by
  induction h with
  | nil => rfl
  | cons hxy _ ih => rw [filterMap_cons, filterMap_cons, hxy, ih]

/-- Relatives of relatives. -/
theorem Forall₂.comp {β γ : Type} {r : α → β → Prop} {r' : β → γ → Prop} {ys : List β}
    {zs : List γ} (h : Forall₂ r l ys) (h' : Forall₂ r' ys zs) :
    Forall₂ (fun x z => ∃ y, r x y ∧ r' y z) l zs := by
  induction h generalizing zs with
  | nil =>
    cases h'
    exact .nil
  | cons hxy _ ih =>
    cases h' with
    | cons hyz hrest => exact .cons ⟨_, hxy, hyz⟩ (ih hrest)

/-- The elements that are kept, and the values of those that have one. -/
theorem forall₂_filter_filterMap {β : Type} {r : α → β → Prop} {g : α → Option β}
    (hsome : ∀ x ∈ l, p x = true → ∃ y, g x = some y ∧ r x y)
    (hnone : ∀ x ∈ l, p x = false → g x = none) : Forall₂ r (l.filter p) (l.filterMap g) := by
  induction l with
  | nil => exact .nil
  | cons x rest ih =>
    obtain ⟨hx, hsome⟩ := forall_mem_cons.mp hsome
    obtain ⟨hx', hnone⟩ := forall_mem_cons.mp hnone
    cases hpx : p x with
    | false =>
      rw [filter_cons_of_neg (by simp [hpx]), filterMap_cons_none (hx' hpx)]
      exact ih hsome hnone
    | true =>
      obtain ⟨y, hy, hxy⟩ := hx hpx
      rw [filter_cons_of_pos hpx, filterMap_cons_some hy]
      exact .cons hxy (ih hsome hnone)

end List
