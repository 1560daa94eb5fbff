import SchemaLang.Proofs.Pairing.Claims
import SchemaLang.Proofs.Pairing.Partner

/-!
# The assignment of partners

Which relationship becomes the partner of a key depends on the tables of the key alone: on what the
associations of its target declare, and on the other keys of its owner to that target. Of the
associations that lead to the owner and declare the name of the key, the first key of that name is
given the first one, the second key the second one, and so on. The only key to a table is given any
association that leads to its owner, if none declares its name. All other keys bring about a
relationship of their own.

A key has the name that the first foreign key of its field name asks for, or a default.

## Key results

- `Board.exists_turn`: what holds when it is the turn of an edge
- `Board.Turn.followsRule`: the edge then takes what the rule assigns to it
- `exists_assignment`: the partners of all keys of a compiled schema
-/

namespace SchemaLang

namespace Board

/-! ## The rule -/

/-- The relationships that the associations of the table in a place declare. -/
def declaredAt (source : String) (i : Nat) : List Relationship :=
  ((declaredOf source)[i]?.map (·.relationships)).getD []

/-- The key edges of the table in a place, in field order. -/
def edgesAt (source : String) (i : Nat) : List KeyEdge :=
  (edgesOf (TableDraft.ofSource source))[i]?.getD []

/-- The declared relationship that the rule assigns to `edge`, which is `edges[p]` among the edges
    of its owner, and its position. -/
def assigned? (declared : List Relationship) (ownerId : String) (edges : List KeyEdge) (p : Nat)
    (edge : KeyEdge) : Option (Relationship × Nat) :=
  let leading := declared.zipIdx.filter (·.1.target == ownerId)
  let earlier := (edges.take p).countP fun e => e.target == edge.target && e.name == edge.name
  ((leading.filter (·.1.backPopulates == edge.name))[earlier]?).or
    (if edges.countP (·.target == edge.target) = 1 then leading.head? else none)

/-- What the rule makes of the one-to-many side of an edge and of its position. -/
inductive FollowsRule (declared : List Relationship) (ownerId : String) (edges : List KeyEdge)
    (p : Nat) (edge : KeyEdge) : Nat → Relationship → Prop where
  /-- A declared relationship keeps its position, and its own name for the other side unless it has
      none or the edge asks for one. -/
  | claimed {a : Relationship} {place : Nat}
    (h : assigned? declared ownerId edges p edge = some (a, place)) :
    FollowsRule declared ownerId edges p edge place
      { a with
        backPopulates := if a.backPopulates = "" ∨ edge.named then edge.name else a.backPopulates
        foreignKeys := edge.foreignKeys }
  /-- An inverse comes behind all that are declared. -/
  | fresh {position : Nat} (h : assigned? declared ownerId edges p edge = none)
    (hposition : declared.length ≤ position) :
    FollowsRule declared ownerId edges p edge position (inverse ownerId edge)

end Board

/-- `partner i p` is the place of the partner of the edge `p` of the table `i`, as the rule assigns
    it. -/
structure Schema.IsAssignment (s : Schema) (source : String) (partner : Nat → Nat → Place) :
    Prop where
  /-- Each edge has brought about the many-to-one side in its own place among those that follow a
      key, and its partner follows the rule. -/
  rule : ∀ i p edge, (Board.edgesAt source i)[p]? = some edge →
    ∃ m t key r, s.models[i]? = some m ∧ (m.relationships.filter (·.isKeyed))[p]? = some key ∧
      (partner i p).table = edge.target ∧ s.models[edge.target]? = some t ∧
      t.relationships[(partner i p).position]? = some r ∧ KeySides m t key r ∧
      Board.FollowsRule (Board.declaredAt source edge.target) m.id (Board.edgesAt source i) p edge
        (partner i p).position r
  /-- Only edges have brought about relationships that follow a key. -/
  complete : ∀ i m, s.models[i]? = some m →
    (m.relationships.filter (·.isKeyed)).length = (Board.edgesAt source i).length
  /-- No two edges have the same partner. -/
  injective : ∀ i p i' p' edge edge', (Board.edgesAt source i)[p]? = some edge →
    (Board.edgesAt source i')[p']? = some edge' → partner i p = partner i' p' → i = i' ∧ p = p'
  /-- The name of an edge is what the first key of its field name asks for, or the default. -/
  names : ∀ i, ∀ edge ∈ Board.edgesAt source i, ∃ d, (TableDraft.ofSource source)[i]? = some d ∧
    edge.name = ((d.naming? edge.field).bind (·.relationship)).getD
      (defaultRelationshipName edge.field) ∧
    edge.named = ((d.naming? edge.field).bind (·.relationship)).isSome

namespace Board

/-! ## Edges of one table -/

section Edges

variable {source : String} {i p : Nat} {edge : KeyEdge}

theorem edgesAt_eq {d : TableDraft} (h : (TableDraft.ofSource source)[i]? = some d) :
    edgesAt source i = d.keyEdges ((TableDraft.ofSource source).map (·.id)) := by
  rw [edgesAt, edgesOf, List.getElem?_map, h]
  rfl

/-- Only tables have edges. -/
theorem exists_draft_of_mem_edgesAt (h : edge ∈ edgesAt source i) :
    ∃ d, (TableDraft.ofSource source)[i]? = some d := by
  rw [edgesAt, edgesOf, List.getElem?_map] at h
  cases hd : (TableDraft.ofSource source)[i]? with
  | none => simp [hd] at h
  | some d => exact ⟨d, rfl⟩

/-- An edge is shared if its owner holds another one to the same table. -/
theorem shared_iff (h : edge ∈ edgesAt source i) :
    edge.shared = true ↔ (edgesAt source i).countP (·.target == edge.target) ≠ 1 := by
  obtain ⟨d, hd⟩ := exists_draft_of_mem_edgesAt h
  have hpos : 0 < (edgesAt source i).countP (·.target == edge.target) :=
    List.countP_pos_iff.mpr ⟨edge, h, beq_self_eq_true _⟩
  rw [edgesAt_eq hd] at h hpos ⊢
  -- The edges are counted like the targets that they are made of.
  have hcount (target : Nat) : (d.keyEdges ((TableDraft.ofSource source).map (·.id))).countP
      (·.target == target) = (d.keyTargets ((TableDraft.ofSource source).map (·.id))).countP
        (·.2 == target) := by
    rw [TableDraft.keyEdges, List.countP_map]
    rfl
  rw [hcount] at hpos ⊢
  rw [TableDraft.keyEdges] at h
  obtain ⟨⟨field, target⟩, -, rfl⟩ := List.mem_map.mp h
  simp only [decide_eq_true_eq] at hpos ⊢
  omega

/-- The place of the edges of a table among all edges. -/
def offset (source : String) (i : Nat) : Nat :=
  (keysOf (edgesOf (TableDraft.ofSource source)) (List.range i)).length

/-- Before the turn of an edge it was that of the edges of earlier tables and of the earlier edges
    of its own. -/
theorem exists_split (h : (edgesAt source i)[p]? = some edge) :
    ∃ before after, keysOfSource source = before ++ (i, edge) :: after ∧
      before.length = offset source i + p ∧
      (before.filter (·.1 == i)).map (·.2) = (edgesAt source i).take p := by
  obtain ⟨d, hd⟩ := exists_draft_of_mem_edgesAt (List.mem_of_getElem? h)
  have hlt : i < (TableDraft.ofSource source).length := (List.getElem?_eq_some_iff.mp hd).1
  have hp : p < (edgesAt source i).length := (List.getElem?_eq_some_iff.mp h).1
  obtain ⟨rest, howners⟩ := List.exists_range_eq_append_cons hlt
  have hown : (edgesAt source i).map (i, ·) = ((edgesAt source i).take p).map (i, ·) ++
      (i, edge) :: ((edgesAt source i).drop (p + 1)).map (i, ·) := by
    conv_lhs => rw [List.eq_take_append_cons_drop h]
    rw [List.map_append, List.map_cons]
  have hkeys : keysOfSource source =
      (keysOf (edgesOf (TableDraft.ofSource source)) (List.range i) ++
        ((edgesAt source i).take p).map (i, ·)) ++ (i, edge) ::
        (((edgesAt source i).drop (p + 1)).map (i, ·) ++
          keysOf (edgesOf (TableDraft.ofSource source)) rest) := by
    show keysOf (edgesOf (TableDraft.ofSource source))
      (List.range (TableDraft.ofSource source).length) = _
    rw [howners, keysOf, List.flatMap_append, List.flatMap_cons, ← keysOf, ← keysOf, ← edgesAt,
      hown]
    simp only [List.append_assoc, List.cons_append]
  refine ⟨_, _, hkeys, ?_, ?_⟩
  · rw [List.length_append, List.length_map, List.length_take, Nat.min_eq_left (Nat.le_of_lt hp)]
    rfl
  · have hothers : ((keysOf (edgesOf (TableDraft.ofSource source)) (List.range i)).filter
        (·.1 == i)).map (·.2) = [] := by
      rw [filter_keysOf _ List.nodup_range, if_neg (by simp)]
    have hown : (((edgesAt source i).take p).map (i, ·)).filter (·.1 == i) =
        ((edgesAt source i).take p).map (i, ·) := by
      rw [List.filter_eq_self, List.forall_mem_map]
      exact fun _ _ => beq_self_eq_true i
    rw [List.filter_append, List.map_append, hothers, List.nil_append, hown, List.map_map]
    exact List.map_id _

end Edges

/-! ## The turn of an edge -/

/-- When it is the turn of the edge `p` of the table `i`, its owner and its target have the boards
    `o` and `t`. -/
structure Turn (source : String) (i p : Nat) (edge : KeyEdge) (o t : Board) : Prop where
  owner : ((settledOf source).map (·.id))[i]? = some o.id
  target : ((settledOf source).map (·.id))[edge.target]? = some t.id
  /-- The edge finds what the rule assigns to it. -/
  counterpart : t.counterpart? o.id edge =
    (assigned? (declaredAt source edge.target) o.id (edgesAt source i) p edge).map
      fun (r, place) => ({ relationship := r }, place)
  /-- No relationship is declared meanwhile. -/
  length : t.explicit.length = (declaredAt source edge.target).length
  bond : (bondsOf source)[offset source i + p]? = some (bond i o t edge)
  /-- The one-to-many side stays where the edge has put it. -/
  far : slotAt? (settledOf source) (Board.bond i o t edge).far =
    some (Slot.taken (t.settle o.id edge).2)
  /-- The many-to-one side has the place of the edge among the edges of its owner. -/
  near : (keyedAt (settledOf source) i)[p]? = some ((t.settle o.id edge).2.reverse t.id)

section Turns

variable {source : String} {i p : Nat} {edge : KeyEdge}

theorem inRange_keysOfSource (source : String) :
    InRange (declaredOf source) (keysOfSource source) :=
  fun _ => lt_of_mem_keysOfSource

/-- The identifier of each table is its own. -/
theorem isOnly_declaredOf {id : String} (h : ((declaredOf source).map (·.id))[i]? = some id) :
    IsOnly (declaredOf source) i id := by
  have hdraft : ∀ {j : Nat} {id' : String}, ((declaredOf source).map (·.id))[j]? = some id' →
      ∃ d, (TableDraft.ofSource source)[j]? = some d ∧ d.id = id' := by
    intro j id' hj
    rw [declaredOf, List.map_map, List.getElem?_map, Option.map_eq_some_iff] at hj
    exact hj
  obtain ⟨d, hd, hid⟩ := hdraft h
  intro j b hb
  have hown : ((declaredOf source).map (·.id))[j]? = some b.id := by
    rw [List.getElem?_map, hb]
    rfl
  obtain ⟨d', hd', hid'⟩ := hdraft hown
  constructor
  · intro heq
    refine TableDraft.eq_of_sameAsciiLetters hd' hd ?_
    rw [hid, hid', heq, Text.sameAsciiLetters_self]
  · rintro rfl
    rw [hd, Option.some.injEq] at hd'
    rw [← hid', ← hd', hid]

/-- The declared slots are those of the declared relationships, none of them claimed. -/
theorem explicitAt_declaredOf (source : String) (t : Nat) :
    explicitAt (declaredOf source) t =
      (declaredAt source t).map fun r => ({ relationship := r } : Slot) := by
  rw [explicitAt, declaredAt, declaredOf, List.getElem?_map]
  cases (TableDraft.ofSource source)[t]? with
  | none => rfl
  | some d => simp [ofDraft, relationships]

/-- The declared slots that lead to an owner. -/
private theorem filter_isFree_declared (declared : List Relationship) (ownerId : String) :
    (declared.map fun r => ({ relationship := r } : Slot)).zipIdx.filter (·.1.isFree ownerId) =
      (declared.zipIdx.filter (·.1.target == ownerId)).map
        fun (r, place) => ({ relationship := r }, place) := by
  rw [List.zipIdx_map, List.filter_map]
  rfl

/-- The declared slots that are open to an owner under a name. -/
private theorem openSlots_declared (declared : List Relationship) (ownerId name : String) :
    openSlots (declared.map fun r => ({ relationship := r } : Slot)) ownerId name =
      ((declared.zipIdx.filter (·.1.target == ownerId)).filter (·.1.backPopulates == name)).map
        fun (r, place) => ({ relationship := r }, place) := by
  rw [openSlots, List.zipIdx_map, List.filter_map, List.filter_filter]
  congr 1
  refine List.filter_congr fun r _ => ?_
  rw [Bool.and_comm]
  rfl

/-- The edges in front of the edge `p` of the table `i` have been settled, and its owner and its
    target have the boards `o` and `t`. -/
structure Reached (source : String) (i p : Nat) (edge : KeyEdge) (before : List (Nat × KeyEdge))
    (o t : Board) : Prop where
  next : (edgesAt source i)[p]? = some edge
  inRange : InRange (declaredOf source) before
  /-- Of its owner these were the edges in front of it. -/
  earlier : (before.filter (·.1 == i)).map (·.2) = (edgesAt source i).take p
  owner : (settleAll (declaredOf source) before)[i]? = some o
  target : (settleAll (declaredOf source) before)[edge.target]? = some t

namespace Reached

variable {before : List (Nat × KeyEdge)} {o t : Board}

theorem isOnly (h : Reached source i p edge before o t) : IsOnly (declaredOf source) i o.id := by
  refine isOnly_declaredOf ?_
  rw [← map_settleAll (·.id) map_id_settleEdge (declaredOf source) before, List.getElem?_map,
    h.owner]
  rfl

theorem explicitAt_target (h : Reached source i p edge before o t) :
    explicitAt (settleAll (declaredOf source) before) edge.target = t.explicit := by
  rw [explicitAt, h.target]
  rfl

theorem mem_take (h : Reached source i p edge before o t) {key : Nat × KeyEdge}
    (hkey : key ∈ before) (howner : key.1 = i) : key.2 ∈ (edgesAt source i).take p := by
  rw [← h.earlier]
  exact List.mem_map_of_mem (List.mem_filter.mpr ⟨hkey, beq_iff_eq.mpr howner⟩)

/-- The earlier edges of the owner, counted in the row and in its own list. -/
theorem countP_before (h : Reached source i p edge before o t) :
    before.countP (fun key => key.1 == i &&
      (key.2.target == edge.target && key.2.name == edge.name)) =
      ((edgesAt source i).take p).countP
        (fun e => e.target == edge.target && e.name == edge.name) := by
  rw [← h.earlier, List.countP_map, List.countP_filter]
  refine List.countP_congr fun key _ => ?_
  rw [Bool.and_comm]
  rfl

/-- If the owner has more edges to the table, it claims by name only: earlier edges have used up the
    declared slots under the name, one each. -/
private theorem counterpart?_of_shared (h : Reached source i p edge before o t)
    (hshared : edge.shared = true) :
    t.counterpart? o.id edge =
      (assigned? (declaredAt source edge.target) o.id (edgesAt source i) p edge).map
        fun (r, place) => ({ relationship := r }, place) := by
  have hother := (shared_iff (List.mem_of_getElem? h.next)).mp hshared
  have hall : ∀ key ∈ before, key.1 = i → key.2.target = edge.target → key.2.shared = true := by
    intro key hkey howner htarget
    have hmem := List.mem_of_mem_take (h.mem_take hkey howner)
    rw [shared_iff hmem, htarget]
    exact hother
  rw [counterpart?_eq, ← h.explicitAt_target, assigned?,
    openSlots_settleAll before (declaredOf source) h.isOnly h.inRange hall, h.countP_before,
    explicitAt_declaredOf, openSlots_declared, if_pos hshared, if_neg hother, Option.or_none,
    Option.or_none, List.head?_drop, List.getElem?_map]

/-- If it is the only edge of the owner to the table, no earlier edge has taken a slot that leads
    to the owner. -/
private theorem counterpart?_of_not_shared (h : Reached source i p edge before o t)
    (hshared : ¬ edge.shared = true) :
    t.counterpart? o.id edge =
      (assigned? (declaredAt source edge.target) o.id (edgesAt source i) p edge).map
        fun (r, place) => ({ relationship := r }, place) := by
  have honce : (edgesAt source i).countP (·.target == edge.target) = 1 := by
    by_contra hne
    exact hshared ((shared_iff (List.mem_of_getElem? h.next)).mpr hne)
  have hzero : ((edgesAt source i).take p).countP (·.target == edge.target) = 0 :=
    List.countP_take_eq_zero h.next (beq_self_eq_true _) honce
  have hnone : ∀ e ∈ (edgesAt source i).take p, e.target ≠ edge.target := by
    intro e he htarget
    exact absurd (beq_iff_eq.mpr htarget) (List.countP_eq_zero.mp hzero e he)
  have hearlier : ((edgesAt source i).take p).countP
      (fun e => e.target == edge.target && e.name == edge.name) = 0 := by
    rw [List.countP_eq_zero]
    intro e he
    simp [hnone e he]
  have hother : ∀ key ∈ before, key.1 = i → key.2.target ≠ edge.target :=
    fun key hkey howner => hnone key.2 (h.mem_take hkey howner)
  have hopen : openSlots (explicitAt (settleAll (declaredOf source) before) edge.target) o.id
      edge.name = openSlots (explicitAt (declaredOf source) edge.target) o.id edge.name :=
    filter_explicit_settleAll (fun _ => Slot.isFree_of_isOpen) before _ h.isOnly h.inRange hother
  have hfree := filter_explicit_settleAll (p := Slot.isFree o.id) (fun _ h => h) before _ h.isOnly
    h.inRange hother
  rw [counterpart?_eq, ← h.explicitAt_target, assigned?, hopen, hfree, hearlier, if_neg hshared,
    if_pos honce, explicitAt_declaredOf, openSlots_declared, filter_isFree_declared, Option.map_or,
    List.head?_map, List.head?_map, List.head?_eq_getElem?]

/-- An edge finds what the rule assigns to it. -/
theorem counterpart? (h : Reached source i p edge before o t) :
    t.counterpart? o.id edge =
      (assigned? (declaredAt source edge.target) o.id (edgesAt source i) p edge).map
        fun (r, place) => ({ relationship := r }, place) := by
  by_cases hshared : edge.shared = true
  · exact h.counterpart?_of_shared hshared
  · exact h.counterpart?_of_not_shared hshared

end Reached

/-- Every edge has its turn. -/
theorem exists_turn (h : (edgesAt source i)[p]? = some edge) : ∃ o t, Turn source i p edge o t := by
  obtain ⟨before, after, hkeys, hlength, hbefore⟩ := exists_split h
  have hrange : InRange (declaredOf source) (before ++ (i, edge) :: after) :=
    hkeys ▸ inRange_keysOfSource source
  obtain ⟨o, t, ho, ht⟩ := hrange.exists_boards
  have hids : (settledOf source).map (·.id) =
      (settleAll (declaredOf source) before).map (·.id) := by
    rw [settledOf_eq, map_settleAll _ map_id_settleEdge, map_settleAll _ map_id_settleEdge]
  have hsettled : settledOf source =
      settleAll (declaredOf source) (before ++ (i, edge) :: after) := by
    rw [settledOf_eq, hkeys]
  refine ⟨o, t, ?_⟩
  constructor
  case owner => rw [hids, List.getElem?_map, ho]; rfl
  case target => rw [hids, List.getElem?_map, ht]; rfl
  case counterpart => exact Reached.counterpart? ⟨h, hrange.left, hbefore, ho, ht⟩
  case length =>
    have hexplicit := length_explicitAt_settleAll (declaredOf source) before edge.target
    rw [explicitAt, ht, explicitAt_declaredOf, List.length_map] at hexplicit
    exact hexplicit
  case bond => rw [bondsOf, hkeys, ← hlength, getElem?_ledger before _ hrange ho ht]
  case far => rw [hsettled, slotAt?_far hrange ho ht]
  case near =>
    have hlt : p < (edgesAt source i).length := (List.getElem?_eq_some_iff.mp h).1
    have hp : (before.filter (·.1 == i)).length = p := by
      have hcount := congrArg List.length hbefore
      rw [List.length_map, List.length_take, Nat.min_eq_left (Nat.le_of_lt hlt)] at hcount
      exact hcount
    have hside := getElem?_keyedAt_settleAll (keyedAt_declaredOf source i) hrange ho ht
    rw [hp] at hside
    rw [hsettled, hside]

variable {o t : Board}

/-- In its turn an edge follows the rule. -/
theorem Turn.followsRule (h : Turn source i p edge o t) :
    FollowsRule (declaredAt source edge.target) o.id (edgesAt source i) p edge
      (Board.bond i o t edge).far.position (t.settle o.id edge).2 := by
  have hcounterpart := h.counterpart
  rw [Board.bond, partnerPosition, settle]
  cases hassigned : assigned? (declaredAt source edge.target) o.id (edgesAt source i) p edge with
  | none =>
    rw [hassigned, Option.map_none] at hcounterpart
    -- The inverse goes behind all slots, those that are declared among them.
    have hlength : (declaredAt source edge.target).length ≤ t.slots.length := by
      rw [← h.length, slots, List.length_append]
      omega
    rw [hcounterpart]
    exact .fresh hassigned hlength
  | some found =>
    rw [hassigned, Option.map_some] at hcounterpart
    rw [hcounterpart]
    exact .claimed hassigned

/-- What the ledger knows of the two sides of an edge. -/
theorem Turn.sides (h : Turn source i p edge o t) :
    (t.settle o.id edge).2.target = o.id ∧ (t.settle o.id edge).2.cardinality = .oneToMany ∧
      slotAt? (settledOf source) (Board.bond i o t edge).near =
        some (Slot.taken ((t.settle o.id edge).2.reverse t.id)) := by
  obtain ⟨ownerId, targetId, partner, howner, htarget, hpartner, hfar, hnear⟩ :=
    (kept_bondsOf source).holds _ (List.mem_of_getElem? h.bond)
  -- It knows the same owner, target and partner.
  obtain rfl : o.id = ownerId := Option.some.inj (h.owner.symm.trans howner)
  obtain rfl : t.id = targetId := Option.some.inj (h.target.symm.trans htarget)
  rw [h.far, Option.some.injEq] at hfar
  obtain rfl : (t.settle o.id edge).2 = partner := congrArg Slot.relationship hfar
  obtain ⟨hleads, hcardinality, -⟩ := hpartner.facts (allDeclared_declaredOf source)
  exact ⟨hleads, hcardinality, hnear⟩

/-- An edge has brought about the two sides of its key. -/
theorem Turn.keySides (h : Turn source i p edge o t) {m m' : Model} (hm : m.id = o.id)
    (hm' : m'.id = t.id) :
    KeySides m m' ((t.settle o.id edge).2.reverse t.id) (t.settle o.id edge).2 := by
  obtain ⟨hleads, hcardinality, -⟩ := h.sides
  constructor
  case target => exact hm'.symm
  case owner => rw [hleads, hm]
  case oneToMany => exact hcardinality
  all_goals rfl

/-- The many-to-one side has the place of the edge among the relationships that follow a key. -/
theorem Turn.getElem?_keyed (h : Turn source i p edge o t) {s : Schema}
    (hcompile : compile source = .ok s) {m : Model} (hm : s.models[i]? = some m) :
    (m.relationships.filter (·.isKeyed))[p]? = some ((t.settle o.id edge).2.reverse t.id) := by
  obtain ⟨d, b, -, hb, -, rfl⟩ := exists_of_getElem?_models hcompile hm
  have hkeyed : keyedAt (settledOf source) i = b.keyed := by
    rw [keyedAt, hb]
    rfl
  rw [← h.near, hkeyed, keyed_eq_filter (List.mem_of_getElem? hb)]
  rfl

end Turns

/-- The place of the partner of an edge. -/
def partnerAt (source : String) (i p : Nat) : Place :=
  ((bondsOf source)[offset source i + p]?.map (·.far)).getD ⟨i, p⟩

/-- Bonds with one far place stand in one place of the ledger. -/
theorem bond_index_unique {source : String} {n n' : Nat} {b b' : Bond}
    (hb : (bondsOf source)[n]? = some b) (hb' : (bondsOf source)[n']? = some b')
    (hfar : b.far = b'.far) : n = n' := by
  have hdisjoint := (List.nodup_flatMap.mp (kept_bondsOf source).distinct).2
  have hnodup : ((bondsOf source).map (·.far)).Nodup := by
    rw [List.Nodup, List.pairwise_map]
    refine hdisjoint.imp fun {c c'} h heq => ?_
    exact h (a := c.far) (by simp [Bond.places]) (by simp [Bond.places, heq])
  have hlt : n < ((bondsOf source).map (·.far)).length := by
    rw [List.length_map]
    exact (List.getElem?_eq_some_iff.mp hb).1
  refine (List.getElem?_inj hlt hnodup).mp ?_
  rw [List.getElem?_map, List.getElem?_map, hb, hb', Option.map_some, Option.map_some, hfar]

end Board

/-! ## Compiled schemas -/

/-- A model has as many relationships that follow a key as its table has edges. -/
theorem length_keyed_eq {source : String} {s : Schema} (h : compile source = .ok s) {i : Nat}
    {m : Model} (hm : s.models[i]? = some m) :
    (m.relationships.filter (·.isKeyed)).length = (Board.edgesAt source i).length := by
  obtain ⟨d, b, hd, hb, -, rfl⟩ := exists_of_getElem?_models h hm
  rw [Board.edgesAt_eq hd]
  exact (Board.forall₂_keyed_settledOf hd hb).length_eq.symm

/-- Every key of a compiled schema has the partner that the rule assigns to it. -/
theorem exists_assignment {source : String} {s : Schema} (h : compile source = .ok s) :
    ∃ partner, s.IsAssignment source partner := by
  refine ⟨Board.partnerAt source, ?_⟩
  constructor
  case rule =>
    intro i p edge hedge
    obtain ⟨o, t, hturn⟩ := Board.exists_turn hedge
    obtain ⟨m, hm, hid⟩ := getElem?_models_of_id h hturn.owner
    obtain ⟨m', hm', hid'⟩ := getElem?_models_of_id h hturn.target
    have hpartner : Board.partnerAt source i p = (Board.bond i o t edge).far := by
      rw [Board.partnerAt, hturn.bond]
      rfl
    refine ⟨m, m', _, _, hm, hturn.getElem?_keyed h hm, ?_, hm', ?_, hturn.keySides hid hid', ?_⟩
    · rw [hpartner]
      rfl
    · have hr := relationshipAt?_compile h (Board.bond i o t edge).far
      rw [hturn.far, Schema.relationshipAt?] at hr
      rw [hpartner]
      simpa [Board.bond, hm', Slot.taken] using hr
    · rw [hpartner, hid]
      exact hturn.followsRule
  case complete => exact fun i m => length_keyed_eq h
  case injective =>
    intro i p i' p' edge edge' hedge hedge' heq
    obtain ⟨o, t, hturn⟩ := Board.exists_turn hedge
    obtain ⟨o', t', hturn'⟩ := Board.exists_turn hedge'
    rw [Board.partnerAt, Board.partnerAt, hturn.bond, hturn'.bond] at heq
    have hindex := Board.bond_index_unique hturn.bond hturn'.bond heq
    -- One place in the ledger is one bond, and that has one owner.
    have hbond := hturn.bond
    rw [hindex, hturn'.bond, Option.some.injEq] at hbond
    obtain rfl : i' = i := congrArg (·.near.table) hbond
    exact ⟨rfl, Nat.add_left_cancel hindex⟩
  case names =>
    intro i edge hedge
    obtain ⟨d, hd⟩ := Board.exists_draft_of_mem_edgesAt hedge
    rw [Board.edgesAt_eq hd, TableDraft.keyEdges] at hedge
    obtain ⟨_, -, rfl⟩ := List.mem_map.mp hedge
    exact ⟨d, hd, rfl, rfl⟩

theorem exists_assignment_legsBetweenPorts :
    compile legsBetweenPorts = .ok (.ofChecked legsBetweenPorts) ∧
      ∃ partner, (Schema.ofChecked legsBetweenPorts).IsAssignment legsBetweenPorts partner := by
  have hcompile : compile legsBetweenPorts = .ok (.ofChecked legsBetweenPorts) :=
    compile_eq_ok_iff.mpr ⟨by decide +kernel, rfl⟩
  exact ⟨hcompile, exists_assignment hcompile⟩

/-- Two keys under one field name, of which only the first asks for a name. The association declares
    the default name of the second one. -/
def repeatedPort : String :=
  "table Port \x7b
legs Leg[] [back_populates: \"port_rel\"]
\x7d
table Leg \x7b
port Int [ref: > Port.id, as: \"home\"]
port Int [ref: > Port.id]
\x7d"

/-- The edges of `repeatedPort` if each key had the name that it asks for itself, or its default. -/
def repeatedPortEdges : List KeyEdge :=
  let first : KeyEdge :=
    { field := "port", target := 0, name := "home", named := true, inverseName := none
      shared := true }
  [first, { first with name := defaultRelationshipName "port", named := false }]

/-- The second of two keys under one field name has no name of its own: the association that
    declares its default name is not its partner, nor that of any key. -/
theorem not_partner_repeatedPort :
    compile repeatedPort = .ok (.ofChecked repeatedPort) ∧
      (TableDraft.ofSource repeatedPort).map (·.namings) =
        [[],
          [{ field := "port", relationship := some "home", backPopulates := none },
            { field := "port", relationship := none, backPopulates := none }]] ∧
      (repeatedPortEdges[1]?.bind fun edge =>
        Board.assigned? (Board.declaredAt repeatedPort 0) "S002_Leg" repeatedPortEdges 1 edge).map
          (·.1.name) = some "legs" ∧
      ∀ m ∈ (Schema.ofChecked repeatedPort).models, ∀ key ∈ m.relationships,
        key.origin = .foreignKey → key.name = "home" ∧ key.backPopulates ≠ "legs" :=
  ⟨compile_eq_ok_iff.mpr ⟨by decide +kernel, rfl⟩, by decide +kernel⟩

end SchemaLang
