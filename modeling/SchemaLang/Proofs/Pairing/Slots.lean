import SchemaLang.Pairing.Board

/-!
# Boards as rows of slots

A board keeps declared and synthesized relationships apart. Here it is seen as one row of slots, in
which a synthesized relationship counts as claimed. Settling an edge then writes two slots: that of
the one-to-many side on the board of the target, at the *partner position*, and that of the
many-to-one side behind all others on the board of the owner.

## Key results

- `map_relationship_slots`: the slots hold the relationships of the board
- `getElem?_slots_settle`: settling writes the partner position and nothing else
- `settle_cases`: what stood there before, and what stands there now
- `slotAt?_settleEdge`: an edge writes two places among all tables and nothing else
-/

namespace SchemaLang

/-- A place among the relationships of all tables. -/
structure Place where
  /-- The place of the table. -/
  table : Nat
  /-- The position among the relationships of the table. -/
  position : Nat
  deriving DecidableEq, Repr

/-- A relationship that is no longer to be had. -/
def Slot.taken (r : Relationship) : Slot where
  relationship := r
  claimed := true

namespace Board

/-- All relationships of the table as slots; those that keys brought about are taken. -/
def slots (b : Board) : List Slot :=
  b.explicit ++ b.synthesized.map Slot.taken

/-- The slots hold the relationships of the board. -/
theorem map_relationship_slots (b : Board) :
    b.slots.map (·.relationship) = b.relationships := by
  simp [slots, relationships, Slot.taken, Function.comp_def]

theorem slots_add (b : Board) (r : Relationship) : (b.add r).slots = b.slots ++ [Slot.taken r] := by
  simp [slots, add]

/-- A slot that is put in the place of a declared one. -/
theorem slots_set_explicit (b : Board) {place : Nat} (h : place < b.explicit.length) (slot : Slot) :
    { b with explicit := b.explicit.set place slot }.slots = b.slots.set place slot := by
  rw [slots, slots, List.set_append_left _ _ h]

/-! ## Settling on one board -/

/-- An edge claims a free slot, and is told where it stands. -/
theorem isFree_of_counterpart? {b : Board} {ownerId : String} {edge : KeyEdge} {slot : Slot}
    {place : Nat} (h : b.counterpart? ownerId edge = some (slot, place)) :
    b.explicit[place]? = some slot ∧ slot.isFree ownerId = true := by
  rw [counterpart?, Option.or_eq_some_iff] at h
  rcases h with h | ⟨-, h⟩
  · -- The slot declares the name of the edge.
    have hfits : slot.fits ownerId edge = true := by simpa using List.find?_some h
    rw [Slot.fits, Bool.and_eq_true] at hfits
    exact ⟨List.mem_zipIdx_iff_getElem?.mp (List.mem_of_find?_eq_some h), hfits.1⟩
  · -- The slot is adopted, which a shared edge does not do.
    split at h
    · exact nomatch h
    · have hfree : slot.isFree ownerId = true := by simpa using List.find?_some h
      exact ⟨List.mem_zipIdx_iff_getElem?.mp (List.mem_of_find?_eq_some h), hfree⟩

/-- The position of the one-to-many side once an edge of the owner is settled. -/
def partnerPosition (b : Board) (ownerId : String) (edge : KeyEdge) : Nat :=
  match b.counterpart? ownerId edge with
  | some (_, place) => place
  | none => b.slots.length

/-- The partner position held a free slot, which is claimed, or nothing, and the inverse is put
    there. -/
theorem settle_cases (b : Board) (ownerId : String) (edge : KeyEdge) :
    (∃ slot, b.slots[b.partnerPosition ownerId edge]? = some slot ∧ slot.isFree ownerId = true ∧
        (b.settle ownerId edge).2 = (slot.claim edge).relationship) ∨
      b.slots[b.partnerPosition ownerId edge]? = none ∧
        (b.settle ownerId edge).2 = inverse ownerId edge := by
  rw [settle, partnerPosition]
  cases hcounterpart : b.counterpart? ownerId edge with
  | none => exact .inr ⟨List.getElem?_eq_none (Nat.le_refl _), rfl⟩
  | some found =>
    obtain ⟨slot, place⟩ := found
    obtain ⟨hplace, hfree⟩ := isFree_of_counterpart? hcounterpart
    -- Declared relationships come first, so the slot keeps its position among all of them.
    have hlt : place < b.explicit.length := (List.getElem?_eq_some_iff.mp hplace).1
    exact .inl ⟨slot, by rw [slots, List.getElem?_append_left hlt, hplace], hfree, rfl⟩

/-- Settling writes the partner position and nothing else. -/
theorem getElem?_slots_settle (b : Board) (ownerId : String) (edge : KeyEdge) (i : Nat) :
    (b.settle ownerId edge).1.slots[i]? =
      if i = b.partnerPosition ownerId edge then some (Slot.taken (b.settle ownerId edge).2)
      else b.slots[i]? := by
  rw [settle, partnerPosition]
  cases hcounterpart : b.counterpart? ownerId edge with
  | none =>
    -- The inverse goes behind all slots.
    simp only [slots_add, List.getElem?_append]
    by_cases hi : i = b.slots.length
    · simp [hi]
    · by_cases hlt : i < b.slots.length
      · simp [hi, hlt]
      · have hone : ¬ i - b.slots.length < 1 := by omega
        simp [hi, hlt, hone]
  | some found =>
    obtain ⟨slot, place⟩ := found
    have hplace := (isFree_of_counterpart? hcounterpart).1
    have hlt : place < b.explicit.length := (List.getElem?_eq_some_iff.mp hplace).1
    have hslots : place < b.slots.length := by
      rw [slots, List.length_append]
      omega
    -- The claimed slot goes where it was found.
    simp only [slots_set_explicit b hlt, List.getElem?_set]
    by_cases hi : place = i
    · subst hi
      simp [hslots, Slot.taken, Slot.claim]
    · simp [hi, Ne.symm hi]

/-! ## All tables -/

/-- The slot at a place. -/
def slotAt? (boards : List Board) (p : Place) : Option Slot :=
  boards[p.table]?.bind (·.slots[p.position]?)

variable {boards : List Board}

/-- Another board in the place of one. -/
private theorem slotAt?_set {i : Nat} (hi : i < boards.length) (b : Board) (p : Place) :
    slotAt? (boards.set i b) p =
      if p.table = i then b.slots[p.position]? else slotAt? boards p := by
  rw [slotAt?, List.getElem?_set]
  by_cases h : i = p.table
  · subst h
    simp [hi]
  · simp [h, Ne.symm h, slotAt?]

/-- Another relationship behind those of one board. -/
private theorem slotAt?_modify_add {i : Nat} {b : Board} (hi : boards[i]? = some b)
    (r : Relationship) (p : Place) :
    slotAt? (boards.modify i (·.add r)) p =
      if p = ⟨i, b.slots.length⟩ then some (Slot.taken r) else slotAt? boards p := by
  obtain ⟨table, position⟩ := p
  simp only [slotAt?, List.getElem?_modify, Place.mk.injEq]
  by_cases h : i = table
  · subst h
    simp only [if_true, hi, Option.map_eq_map, Option.map_some, Option.bind_some, slots_add,
      true_and]
    by_cases hlast : position = b.slots.length
    · simp [hlast]
    · rw [if_neg hlast, List.getElem?_append]
      split
      · rfl
      · rw [List.getElem?_eq_none (by simp; omega), List.getElem?_eq_none (by omega)]
  · simp [h, Ne.symm h]

/-- Where the two sides of an edge stand once it is settled on the boards of its owner and its
    target. A table that references itself has both sides on one board, the many-to-one side
    behind. -/
structure Bond where
  edge : KeyEdge
  /-- The place of the many-to-one side. -/
  near : Place
  /-- The place of the one-to-many side. -/
  far : Place
  deriving DecidableEq, Repr

/-- The bond of an edge that is settled on the given boards. -/
def bond (owner : Nat) (ownerBoard targetBoard : Board) (edge : KeyEdge) : Bond where
  edge := edge
  near :=
    { table := owner
      position :=
        if owner = edge.target then (targetBoard.settle ownerBoard.id edge).1.slots.length
        else ownerBoard.slots.length }
  far := { table := edge.target, position := targetBoard.partnerPosition ownerBoard.id edge }

variable {owner : Nat} {edge : KeyEdge} {o t : Board}

theorem settleEdge_eq (ho : boards[owner]? = some o) (ht : boards[edge.target]? = some t) :
    settleEdge owner boards edge =
      (boards.set edge.target (t.settle o.id edge).1).modify owner
        (·.add ((t.settle o.id edge).2.reverse t.id)) := by
  rw [settleEdge, ho, ht]

/-- An edge writes the places of its bond and nothing else. -/
theorem slotAt?_settleEdge (ho : boards[owner]? = some o) (ht : boards[edge.target]? = some t)
    (p : Place) :
    slotAt? (settleEdge owner boards edge) p =
      if p = (bond owner o t edge).near then
        some (Slot.taken ((t.settle o.id edge).2.reverse t.id))
      else if p = (bond owner o t edge).far then some (Slot.taken (t.settle o.id edge).2)
      else slotAt? boards p := by
  have hlt : edge.target < boards.length := (List.getElem?_eq_some_iff.mp ht).1
  -- The board that the many-to-one side is added to: the settled one for a self reference.
  have howner : (boards.set edge.target (t.settle o.id edge).1)[owner]? =
      some (if owner = edge.target then (t.settle o.id edge).1 else o) := by
    rw [List.getElem?_set]
    by_cases h : edge.target = owner
    · simp [h, h ▸ hlt]
    · simp [h, Ne.symm h, ho]
  rw [settleEdge_eq ho ht, slotAt?_modify_add howner, slotAt?_set hlt]
  have hnear : (⟨owner, (if owner = edge.target then (t.settle o.id edge).1 else o).slots.length⟩ :
      Place) = (bond owner o t edge).near := by
    simp only [bond, Place.mk.injEq, true_and]
    split <;> rfl
  rw [hnear]
  by_cases hp : p = (bond owner o t edge).near
  · rw [if_pos hp, if_pos hp]
  · rw [if_neg hp, if_neg hp]
    obtain ⟨table, position⟩ := p
    simp only [bond, Place.mk.injEq]
    by_cases htable : table = edge.target
    · subst htable
      simp [getElem?_slots_settle, slotAt?, ht]
    · simp [htable]

/-- Nothing stood where the many-to-one side is put, and it does not take the place of the other
    side. -/
theorem slotAt?_near_eq_none (ho : boards[owner]? = some o) (ht : boards[edge.target]? = some t) :
    slotAt? boards (bond owner o t edge).near = none ∧
      (bond owner o t edge).near ≠ (bond owner o t edge).far := by
  have hsettled := getElem?_slots_settle t o.id edge
  by_cases hself : owner = edge.target
  · -- Behind the settled board stands nothing, neither before nor after settling.
    have hend := hsettled (t.settle o.id edge).1.slots.length
    rw [List.getElem?_eq_none (Nat.le_refl _)] at hend
    split at hend
    · exact nomatch hend
    · next hne =>
      subst hself
      simp only [bond, slotAt?, ht, if_true, Option.bind_some]
      exact ⟨hend.symm, fun h => hne (Place.mk.inj h).2⟩
  · simp only [bond, slotAt?, ho, hself, if_false, Option.bind_some]
    exact ⟨List.getElem?_eq_none (Nat.le_refl _), fun h => hself (Place.mk.inj h).1⟩

/-! ## What settling leaves alone -/

/-- What settling and adding leave alone on one board, an edge leaves alone on all of them. -/
theorem map_settleEdge {α : Type} (view : Board → α)
    (hsettle : ∀ (b : Board) (ownerId : String) (edge : KeyEdge),
      view (b.settle ownerId edge).1 = view b)
    (hadd : ∀ (b : Board) (r : Relationship), view (b.add r) = view b)
    (owner : Nat) (boards : List Board) (edge : KeyEdge) :
    (settleEdge owner boards edge).map view = boards.map view := by
  rw [settleEdge]
  split
  · next o t ho ht =>
    obtain ⟨hlt, hget⟩ := List.getElem?_eq_some_iff.mp ht
    -- Any one board is that of the target, that of the owner, of both or of neither.
    refine List.ext_getElem? fun i => ?_
    simp only [List.getElem?_map, List.getElem?_modify, List.getElem?_set]
    by_cases htarget : edge.target = i
    · subst htarget
      by_cases howner : owner = edge.target <;> simp [howner, hlt, hget, hsettle, hadd]
    · by_cases howner : owner = i <;> simp [howner, htarget, hadd, Function.comp_def]
  · rfl

theorem id_settle (b : Board) (ownerId : String) (edge : KeyEdge) :
    (b.settle ownerId edge).1.id = b.id := by
  rw [settle]
  cases b.counterpart? ownerId edge <;> rfl

/-- Tables keep their identifiers. -/
theorem map_id_settleEdge (owner : Nat) (boards : List Board) (edge : KeyEdge) :
    (settleEdge owner boards edge).map (·.id) = boards.map (·.id) :=
  map_settleEdge (·.id) id_settle (fun _ _ => rfl) owner boards edge

/-- What a claim leaves alone in a slot, settling leaves alone in all declared relationships. -/
theorem map_explicit_settle {α : Type} {view : Slot → α}
    (hclaim : ∀ slot edge, view (Slot.claim edge slot) = view slot) (b : Board) (ownerId : String)
    (edge : KeyEdge) : (b.settle ownerId edge).1.explicit.map view = b.explicit.map view := by
  rw [settle]
  cases hcounterpart : b.counterpart? ownerId edge with
  | none => rfl
  | some found =>
    obtain ⟨slot, place⟩ := found
    obtain ⟨hlt, hget⟩ := List.getElem?_eq_some_iff.mp (isFree_of_counterpart? hcounterpart).1
    have hplace : place < (b.explicit.map view).length := by simpa using hlt
    -- A claim puts back what stands there.
    have hsame : view (slot.claim edge) = (b.explicit.map view)[place] := by
      simp [hget, hclaim]
    show (b.explicit.set place (slot.claim edge)).map view = b.explicit.map view
    rw [List.map_set, hsame]
    exact List.set_getElem_self hplace

/-- The origins of the declared relationships of a table. -/
def declaredOrigins (b : Board) : List Origin :=
  b.explicit.map (·.relationship.origin)

/-- A claim keeps the origin of the relationship. -/
theorem declaredOrigins_settle (b : Board) (ownerId : String) (edge : KeyEdge) :
    (b.settle ownerId edge).1.declaredOrigins = b.declaredOrigins :=
  map_explicit_settle (fun _ _ => rfl) b ownerId edge

end Board

end SchemaLang
