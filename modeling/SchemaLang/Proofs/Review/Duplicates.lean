import SchemaLang.Proofs.ForStd.List
import SchemaLang.Review.Report

/-!
# Each repetition is told once

Names are to be distinct in five places of a schema: those of the tables, of the fields of a model,
of all indices, of the relationships of a model, and the other sides of these. For each of them the
review tells of every position whose name stands at an earlier one, once and in order, and where it
tells who holds the name that is the first to do so, however often the name comes up.

## Key results

- `exists_tellRepeats`: the repetitions of a list, position by position
- `repetitionsIn_violations`: the violations that tell of repetitions, check by check
- `tellsRepetitions`: what a review tells of repetitions
-/

namespace SchemaLang

/-! ## Repetitions of a list -/

section

variable {α κ ρ ρ' : Type}

/-- The key of the element at a position, if it has one. -/
def keyAt? (key : α → Option κ) (l : List α) (i : Nat) : Option κ :=
  l[i]?.bind key

/-- An earlier position has the key of this one. -/
def IsRepeat (key : α → Option κ) (l : List α) (i : Nat) : Prop :=
  ∃ k, keyAt? key l i = some k ∧ ∃ j < i, keyAt? key l j = some k

/-- The element is the first one with the key of the position. -/
def IsFirstHolder (key : α → Option κ) (l : List α) (i : Nat) (first : α) : Prop :=
  ∃ k j, keyAt? key l i = some k ∧ l[j]? = some first ∧ key first = some k ∧
    ∀ j' < j, keyAt? key l j' ≠ some k

/-- The reports tell of the repetitions of the list from a position on: of each one once, in order, and
    against the first holder of its key. -/
structure TellRepeats (key : α → Option κ) (l : List α) (start : Nat) (tells : α → α → ρ → Prop)
    (positions : List Nat) (reports : List ρ) : Prop where
  inOrder : positions.Pairwise (· < ·)
  mem_iff : ∀ i, i ∈ positions ↔ start ≤ i ∧ IsRepeat key l i
  told : List.Forall₂
    (fun i report => ∃ x first, l[i]? = some x ∧ IsFirstHolder key l i first ∧ tells x first report)
    positions reports

variable {key : α → Option κ} {l : List α} {start : Nat} {tells : α → α → ρ → Prop}
  {positions : List Nat} {reports : List ρ}

/-- In front of a position stands the part of the list before it. -/
theorem keyAt?_append_of_lt {before rest : List α} {j : Nat} (h : j < before.length) :
    keyAt? key (before ++ rest) j = keyAt? key before j := by
  rw [keyAt?, List.getElem?_append_left h, keyAt?]

theorem keyAt?_length_append_cons {before rest : List α} {x : α} :
    keyAt? key (before ++ x :: rest) before.length = key x := by
  simp [keyAt?]

/-- What is told can be told in other words. -/
theorem TellRepeats.map (h : TellRepeats key l start tells positions reports) {f : ρ → ρ'}
    {tells' : α → α → ρ' → Prop} (hf : ∀ x first report, tells x first report →
      tells' x first (f report)) :
    TellRepeats key l start tells' positions (reports.map f) where
  inOrder := h.inOrder
  mem_iff := h.mem_iff
  told := List.forall₂_map_right_iff.mpr <| h.told.imp fun _ _ ⟨x, first, hx, hfirst, htells⟩ =>
    ⟨x, first, hx, hfirst, hf x first _ htells⟩

/-- A position that is no repetition is passed over. -/
theorem TellRepeats.skip (h : TellRepeats key l (start + 1) tells positions reports)
    (hstart : ¬ IsRepeat key l start) : TellRepeats key l start tells positions reports where
  inOrder := h.inOrder
  mem_iff i := by
    rw [h.mem_iff]
    refine and_congr_left fun hi => ⟨fun hle => by omega, fun hle => ?_⟩
    have hne : start ≠ i := fun heq => hstart (heq ▸ hi)
    omega
  told := h.told

/-- A repetition is told in front of those behind it. -/
theorem TellRepeats.tell (h : TellRepeats key l (start + 1) tells positions reports) {x first : α}
    {report : ρ} (hx : l[start]? = some x) (hrepeat : IsRepeat key l start)
    (hfirst : IsFirstHolder key l start first) (htells : tells x first report) :
    TellRepeats key l start tells (start :: positions) (report :: reports) where
  inOrder := List.pairwise_cons.mpr ⟨fun i hi => ((h.mem_iff i).mp hi).1, h.inOrder⟩
  mem_iff i := by
    rw [List.mem_cons, h.mem_iff]
    constructor
    · rintro (rfl | ⟨hle, hi⟩)
      · exact ⟨Nat.le_refl _, hrepeat⟩
      · exact ⟨by omega, hi⟩
    · rintro ⟨hle, hi⟩
      by_cases heq : i = start
      · exact .inl heq
      · exact .inr ⟨by omega, hi⟩
  told := .cons ⟨x, first, hx, hfirst, htells⟩ h.told

end

section

variable {α κ : Type} [BEq κ] [LawfulBEq κ] (p : α → Bool) (key : α → κ)

/-- The key of an element that counts. -/
def keyIf (x : α) : Option κ :=
  if p x then some (key x) else none

/-- An element that counts is looked up by its key. -/
theorem find?_filter_key (before : List α) (x : α) :
    (before.filter p).find? (fun y => key y == key x) =
      before.find? fun y => keyIf p key y == some (key x) := by
  rw [List.find?_filter]
  congr 1
  funext y
  cases hy : p y <;> simp [keyIf, hy]

variable {p key} in
/-- The one that is found is the first holder of its key. -/
theorem exists_first_of_find? {before : List α} {k : κ} {first : α}
    (h : before.find? (fun y => keyIf p key y == some k) = some first) :
    ∃ j < before.length, before[j]? = some first ∧ keyIf p key first = some k ∧
      ∀ j' < j, keyAt? (keyIf p key) before j' ≠ some k := by
  obtain ⟨j, hj, hfirst⟩ := List.exists_findIdx?_of_find? h
  obtain ⟨hlt, -, hearlier⟩ := List.findIdx?_eq_some_iff_getElem.mp hj
  refine ⟨j, hlt, hfirst, by simpa using List.find?_some h, fun j' hj' => ?_⟩
  rw [keyAt?, List.getElem?_eq_getElem (by omega), Option.bind_some]
  simpa using hearlier j' hj'

/-- The repetitions behind the front part of a list. -/
theorem exists_tellRepeats_after (before rest : List α) :
    ∃ positions, TellRepeats (keyIf p key) (before ++ rest) before.length
      (fun x first pair => pair = (x, first)) positions
      ((withEarlierAfter key (before.filter p) (rest.filter p)).filterMap
        fun (x, first?) => first?.map (x, ·)) := by
  induction rest generalizing before with
  | nil =>
    refine ⟨[], .nil, fun i => ?_, .nil⟩
    -- Behind the last element stands none that could repeat a key.
    simp only [List.not_mem_nil, false_iff, not_and]
    rintro hle ⟨k, hk, -⟩
    rw [keyAt?, List.append_nil, List.getElem?_eq_none hle] at hk
    cases hk
  | cons x rest ih =>
    obtain ⟨positions, hrest⟩ := ih (before ++ [x])
    rw [List.append_assoc, List.singleton_append, List.length_append, List.length_singleton] at hrest
    have hhere : keyAt? (keyIf p key) (before ++ x :: rest) before.length = keyIf p key x :=
      keyAt?_length_append_cons
    cases hp : p x with
    | false =>
      rw [List.filter_append, List.filter_cons_of_neg (by simp [hp]), List.filter_nil,
        List.append_nil] at hrest
      rw [List.filter_cons_of_neg (by simp [hp])]
      refine ⟨positions, hrest.skip ?_⟩
      rintro ⟨k, hk, -⟩
      rw [hhere, keyIf, hp] at hk
      cases hk
    | true =>
      have hkey : keyIf p key x = some (key x) := by rw [keyIf, if_pos hp]
      rw [List.filter_append, List.filter_cons_of_pos hp, List.filter_nil] at hrest
      rw [List.filter_cons_of_pos hp, withEarlierAfter, find?_filter_key]
      cases hfound : before.find? fun y => keyIf p key y == some (key x) with
      | none =>
        rw [List.filterMap_cons_none (by rfl)]
        refine ⟨positions, hrest.skip ?_⟩
        rintro ⟨k, hk, j, hj, hholds⟩
        rw [hhere, hkey, Option.some.injEq] at hk
        subst hk
        rw [keyAt?_append_of_lt hj, keyAt?, List.getElem?_eq_getElem hj, Option.bind_some] at hholds
        have hnone := List.find?_eq_none.mp hfound before[j] (List.getElem_mem hj)
        simp [hholds] at hnone
      | some first =>
        obtain ⟨j, hj, hfirst, hholds, hearlier⟩ := exists_first_of_find? hfound
        have hat : (before ++ x :: rest)[j]? = some first := by
          rw [List.getElem?_append_left hj, hfirst]
        rw [List.filterMap_cons_some (by rfl)]
        refine ⟨_, hrest.tell (by simp) ⟨key x, hhere.trans hkey, j, hj, ?_⟩
          ⟨key x, j, hhere.trans hkey, hat, hholds, fun j' hj' => ?_⟩ rfl⟩
        · rw [keyAt?, hat, Option.bind_some, hholds]
        · rw [keyAt?_append_of_lt (by omega)]
          exact hearlier j' hj'

/-- The repetitions of a list among the elements that count. -/
theorem exists_tellRepeats_filter {ρ : Type} (l : List α) {f : α × α → ρ} {tells : α → α → ρ → Prop}
    (hf : ∀ x first, tells x first (f (x, first))) :
    ∃ positions, TellRepeats (keyIf p key) l 0 tells positions
      ((repeats key (l.filter p)).map f) := by
  obtain ⟨positions, h⟩ := exists_tellRepeats_after p key [] l
  refine ⟨positions, h.map fun x first pair hpair => ?_⟩
  rw [hpair]
  exact hf x first

/-- The repetitions of a list. -/
theorem exists_tellRepeats {ρ : Type} (key : α → κ) (l : List α) {f : α × α → ρ}
    {tells : α → α → ρ → Prop} (hf : ∀ x first, tells x first (f (x, first))) :
    ∃ positions, TellRepeats (fun x => some (key x)) l 0 tells positions
      ((repeats key l).map f) := by
  have h := exists_tellRepeats_filter (fun _ => true) key l hf
  rwa [List.filter_eq_self.mpr fun _ _ => rfl] at h

end

/-! ## Repetitions in a schema -/

/-- A place of a schema whose names are to be distinct. -/
inductive NameSpace where
  | tables
  | fields
  | indices
  | relationships
  /-- The other sides of the relationships of a model. -/
  | backReferences
  deriving DecidableEq, Repr

namespace Violation

/-- Where the violation tells of a repetition, if it does. -/
def repetitionIn? : Violation → Option NameSpace
  | repeatedTable .. => some .tables
  | repeatedField .. => some .fields
  | repeatedIndex .. => some .indices
  | repeatedRelationship .. => some .relationships
  | repeatedBackReference .. => some .backReferences
  | _ => none

/-- The violation as it is reported. -/
structure Says (v : Violation) (kind : ViolationKind) (context message : String) : Prop where
  kind : v.kind = kind
  context : v.context = context
  message : v.message = message

end Violation

/-- The violations that tell of repetitions in a place. -/
def repetitionsIn (ns : NameSpace) (violations : List Violation) : List Violation :=
  violations.filter (·.repetitionIn? == some ns)

variable {ns : NameSpace} {violations : List Violation}

theorem repetitionsIn_append (ns : NameSpace) (violations violations' : List Violation) :
    repetitionsIn ns (violations ++ violations') =
      repetitionsIn ns violations ++ repetitionsIn ns violations' :=
  List.filter_append ..

theorem repetitionsIn_flatMap {α : Type} (ns : NameSpace) (l : List α) (check : α → List Violation) :
    repetitionsIn ns (l.flatMap check) = l.flatMap fun x => repetitionsIn ns (check x) :=
  List.filter_flatMap

/-- A check that tells of repetitions in one place tells of none in another one. -/
theorem repetitionsIn_of_told {ns' : NameSpace}
    (h : ∀ v ∈ violations, v.repetitionIn? = some ns') (ns : NameSpace) :
    repetitionsIn ns violations = if ns = ns' then violations else [] := by
  split
  · next heq =>
    exact List.filter_eq_self.mpr fun v hv => by rw [h v hv, heq, beq_self_eq_true]
  · next hne =>
    exact List.filter_eq_nil_iff.mpr fun v hv => by rw [h v hv]; simpa using Ne.symm hne

/-- A check of something else tells of none. -/
theorem repetitionsIn_eq_nil (h : ∀ v ∈ violations, v.repetitionIn? = none) (ns : NameSpace) :
    repetitionsIn ns violations = [] :=
  List.filter_eq_nil_iff.mpr fun v hv => by simp [h v hv]

namespace Model

variable (ns : NameSpace) (s : Schema) (m : Model)

theorem repetitionsIn_fieldNameViolations :
    repetitionsIn ns m.fieldNameViolations = if ns = .fields then m.fieldNameViolations else [] := by
  refine repetitionsIn_of_told (fun v hv => ?_) ns
  obtain ⟨_, _, rfl⟩ := List.mem_map.mp hv
  rfl

theorem repetitionsIn_backReferenceViolations :
    repetitionsIn ns m.backReferenceViolations =
      if ns = .backReferences then m.backReferenceViolations else [] := by
  refine repetitionsIn_of_told (fun v hv => ?_) ns
  obtain ⟨_, _, rfl⟩ := List.mem_map.mp hv
  rfl

/-- Names that repeat are told apart from names of columns. -/
theorem repetitionsIn_relationshipNameViolations :
    repetitionsIn ns m.relationshipNameViolations =
      if ns = .relationships then
        (repeats Relationship.name m.relationships).map fun (r, _) =>
          .repeatedRelationship m.id r.name
      else [] := by
  rw [relationshipNameViolations, repetitionsIn_flatMap, repeats, List.map_filterMap,
    List.filterMap_eq_flatMap_toList]
  split
  · next heq =>
    subst heq
    refine List.flatMap_congr fun (r, first?) _ => ?_
    cases first? <;> cases hcolumn : m.field? r.name <;>
      simp [repetitionsIn, Violation.repetitionIn?]
  · next hne =>
    rw [List.flatMap_eq_nil_iff]
    intro (r, first?) _
    rw [repetitionsIn_append, List.append_eq_nil_iff]
    constructor <;> split <;> simp [repetitionsIn, Violation.repetitionIn?, Ne.symm hne]

theorem repetitionsIn_primaryKeyViolations : repetitionsIn ns m.primaryKeyViolations = [] := by
  refine repetitionsIn_eq_nil (fun v hv => ?_) ns
  rw [primaryKeyViolations] at hv
  split at hv
  · rw [List.mem_singleton.mp hv]
    rfl
  · cases hv
  · rw [List.mem_singleton.mp hv]
    rfl

theorem repetitionsIn_foreignKeyViolations (f : Field) :
    repetitionsIn ns (m.foreignKeyViolations s f) = [] := by
  refine repetitionsIn_eq_nil (fun v hv => ?_) ns
  rw [foreignKeyViolations] at hv
  split at hv
  · rw [List.mem_singleton.mp hv]
    rfl
  split at hv
  · rw [List.mem_singleton.mp hv]
    rfl
  split at hv
  · rw [List.mem_singleton.mp hv]
    rfl
  -- The key is found, and its type and its uniqueness are checked on their own.
  rcases List.mem_append.mp hv with hv | hv
  · split at hv
    · cases hv
    · rw [List.mem_singleton.mp hv]
      rfl
  · split at hv
    · cases hv
    · rw [List.mem_singleton.mp hv]
      rfl

theorem repetitionsIn_indexViolations (ix : Index) :
    repetitionsIn ns (m.indexViolations ix) = [] := by
  refine repetitionsIn_eq_nil (fun v hv => ?_) ns
  rcases List.mem_append.mp hv with hv | hv
  · split at hv
    · rw [List.mem_singleton.mp hv]
      rfl
    · cases hv
  · obtain ⟨_, _, rfl⟩ := List.mem_map.mp hv
    rfl

theorem repetitionsIn_coverageViolations : repetitionsIn ns m.coverageViolations = [] := by
  refine repetitionsIn_eq_nil (fun v hv => ?_) ns
  obtain ⟨_, _, rfl⟩ := List.mem_map.mp hv
  rfl

theorem repetitionsIn_targetViolations : repetitionsIn ns (m.targetViolations s) = [] := by
  refine repetitionsIn_eq_nil (fun v hv => ?_) ns
  obtain ⟨_, _, rfl⟩ := List.mem_map.mp hv
  rfl

theorem repetitionsIn_pairViolations (r : Relationship) :
    repetitionsIn ns (m.pairViolations s r) = [] := by
  refine repetitionsIn_eq_nil (fun v hv => ?_) ns
  rw [pairViolations] at hv
  split at hv
  · cases hv
  split at hv
  · rw [List.mem_singleton.mp hv]
    rfl
  split at hv
  · rw [List.mem_singleton.mp hv]
    rfl
  split at hv
  · cases hv
  · rw [List.mem_singleton.mp hv]
    rfl

end Model

namespace Schema

variable (s : Schema)

theorem repetitionsIn_tableNameViolations (ns : NameSpace) :
    repetitionsIn ns s.tableNameViolations = if ns = .tables then s.tableNameViolations else [] := by
  refine repetitionsIn_of_told (fun v hv => ?_) ns
  obtain ⟨_, _, rfl⟩ := List.mem_map.mp hv
  rfl

theorem repetitionsIn_indexNameViolations (ns : NameSpace) :
    repetitionsIn ns s.indexNameViolations = if ns = .indices then s.indexNameViolations else [] := by
  refine repetitionsIn_of_told (fun v hv => ?_) ns
  obtain ⟨_, _, rfl⟩ := List.mem_map.mp hv
  rfl

/-- Which check tells of the repetitions in a place. -/
theorem repetitionsIn_violations (ns : NameSpace) :
    repetitionsIn ns s.violations =
      match ns with
      | .tables => s.tableNameViolations
      | .fields => s.models.flatMap (·.fieldNameViolations)
      | .indices => s.indexNameViolations
      | .relationships => s.models.flatMap fun m =>
          (repeats Relationship.name m.relationships).map fun (r, _) =>
            .repeatedRelationship m.id r.name
      | .backReferences => s.models.flatMap (·.backReferenceViolations) := by
  have hsilent : ∀ {α : Type} (l : List α), (l.flatMap fun _ => ([] : List Violation)) = [] :=
    fun l => List.flatMap_eq_nil_iff.mpr fun _ _ => rfl
  simp only [violations, Model.relationshipViolations, repetitionsIn_append, repetitionsIn_flatMap,
    repetitionsIn_tableNameViolations, Model.repetitionsIn_fieldNameViolations,
    Model.repetitionsIn_primaryKeyViolations, Model.repetitionsIn_foreignKeyViolations,
    Model.repetitionsIn_indexViolations, repetitionsIn_indexNameViolations,
    Model.repetitionsIn_coverageViolations, Model.repetitionsIn_targetViolations,
    Model.repetitionsIn_relationshipNameViolations, Model.repetitionsIn_backReferenceViolations,
    Model.repetitionsIn_pairViolations]
  cases ns <;> simp [hsilent]

/-- The reports are told model by model. -/
def ToldInTurn (tells : Model → List Violation → Prop) (reports : List Violation) : Prop :=
  ∃ told : List (List Violation), told.flatten = reports ∧ List.Forall₂ tells s.models told

variable {s}

/-- What is told of each model is told of the models in turn. -/
theorem toldInTurn_flatMap {tells : Model → List Violation → Prop} {check : Model → List Violation}
    (h : ∀ m, tells m (check m)) : s.ToldInTurn tells (s.models.flatMap check) := by
  refine ⟨s.models.map check, List.flatMap_def.symm, ?_⟩
  rw [List.forall₂_map_right_iff, List.forall₂_same]
  exact fun m _ => h m

variable (s)

/-- The repetitions in each place of a schema are told, as they are reported. -/
structure TellsRepetitions : Prop where
  tables : ∃ positions, TellRepeats (fun m : Model => some m.name) s.models 0
    (fun m first v => v.Says .structural m.id
      s!"Table '{m.name}' is declared more than once (first as {first.id})")
    positions (repetitionsIn .tables s.violations)
  fields : s.ToldInTurn
    (fun m reports => ∃ positions, TellRepeats (fun f : Field => some f.name) m.fields 0
      (fun f _ v => v.Says .structural (m.id ++ "." ++ f.name)
        s!"Model {m.id} declares field '{f.name}' more than once")
      positions reports)
    (repetitionsIn .fields s.violations)
  indices : ∃ positions, TellRepeats (fun o : Model × Index => some o.2.name) s.ownedIndices 0
    (fun o first v => v.Says .structural o.1.id
      s!"Index name '{o.2.name}' in {o.1.id} is already used by {first.1.id}")
    positions (repetitionsIn .indices s.violations)
  relationships : s.ToldInTurn
    (fun m reports => ∃ positions, TellRepeats (fun r : Relationship => some r.name)
      m.relationships 0
      (fun r _ v => v.Says .naming (m.id ++ "." ++ r.name)
        s!"Relationship name '{r.name}' is used more than once in {m.id}")
      positions reports)
    (repetitionsIn .relationships s.violations)
  backReferences : s.ToldInTurn
    (fun m reports => ∃ positions, TellRepeats
      (fun r : Relationship =>
        if r.backPopulates = "" then none else some (r.target, r.backPopulates))
      m.relationships 0
      (fun r first v => v.Says .naming (m.id ++ "." ++ r.name)
        (s!"Relationships '{first.name}' and '{r.name}' in {m.id} both back-populate " ++
          (r.target ++ "." ++ r.backPopulates)))
      positions reports)
    (repetitionsIn .backReferences s.violations)

/-- In each place the review tells of every repetition once, in order and against the first holder of
    the name. -/
theorem tellsRepetitions : s.TellsRepetitions := by
  constructor <;> simp only [repetitionsIn_violations]
  case tables => exact exists_tellRepeats Model.name s.models fun m first => ⟨rfl, rfl, rfl⟩
  case fields =>
    exact toldInTurn_flatMap fun m =>
      exists_tellRepeats Field.name m.fields fun f first => ⟨rfl, rfl, rfl⟩
  case indices =>
    exact exists_tellRepeats (fun o : Model × Index => o.2.name) s.ownedIndices
      fun o first => ⟨rfl, rfl, rfl⟩
  case relationships =>
    exact toldInTurn_flatMap fun m =>
      exists_tellRepeats Relationship.name m.relationships fun r first => ⟨rfl, rfl, rfl⟩
  case backReferences =>
    refine toldInTurn_flatMap fun m => ?_
    -- Only relationships that name their other side count.
    have hkey : (fun r : Relationship =>
        if r.backPopulates = "" then none else some (r.target, r.backPopulates)) =
          keyIf (·.backPopulates != "") fun r => (r.target, r.backPopulates) := by
      funext r
      by_cases hempty : r.backPopulates = "" <;> simp [keyIf, hempty]
    rw [hkey]
    exact exists_tellRepeats_filter _ _ m.relationships fun r first => ⟨rfl, rfl, rfl⟩

end Schema

end SchemaLang
