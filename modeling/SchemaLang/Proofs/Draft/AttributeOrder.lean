import Mathlib.Data.List.Pairwise
import SchemaLang.Proofs.Draft.Declarations

/-!
# The order of attributes

The attributes of a column are applied one after the other, and of two that assign to one slot the
later one counts. That is all that their order decides: flags only ever switch something on, and
assignments to different slots do not see each other, also where a value is no number and leaves its
slot alone.

## Key results

- `ofItem?_bind_slot?`: which items assign to which slot
- `apply_comm`: attributes of different slots are applied in any order
- `ColumnDraft.foldl_apply_of_perm`: so are the attributes of a line
- `exists_column_of_perm`: a draft does not depend on the order of the attributes of its lines
-/

namespace SchemaLang

/-! ## Slots -/

/-- The keys that assign a value to a column or to what it asks for, in lower case. -/
def slotWords : List String :=
  ["ref", "default", "as", "back_populates", "length", "precision", "scale"]

/-- The slot that an item of an attribute block assigns to: its key, in any case of its letters. -/
def assignedSlot? (item : List Char) : Option (List Char) :=
  ((itemKey? item).map Text.asciiLower).filter (slotWords.map String.toList).contains

namespace Attribute

/-- The key of the slot that an attribute assigns to. Flags assign to none. -/
def slot? : Attribute → Option (List Char)
  | flag _ => none
  | reference _ => some "ref".toList
  | default _ => some "default".toList
  | relationshipName _ => some "as".toList
  | backPopulates _ => some "back_populates".toList
  | size part _ => some part.key.toList

theorem ofAssignment?_bind_slot? (registry : Registry) (key value : List Char) :
    (ofAssignment? registry key value).bind slot? =
      (some (Text.asciiLower (Text.trim key))).filter
        (slotWords.map String.toList).contains := by
  simp only [ofAssignment?]
  split
  · next href =>
    rw [href]
    rfl
  split
  · next hdefault =>
    rw [hdefault]
    rfl
  split
  · next has =>
    rw [has]
    rfl
  split
  · next hback =>
    rw [hback]
    rfl
  -- The keys that are left are those of the parts of a size.
  · cases hpart : SizePart.ofKey? (Text.trim key) with
    | some part =>
      rw [SizePart.ofKey?_eq_some_iff.mp hpart]
      cases part <;> rfl
    | none =>
      have hword : ∀ part : SizePart, Text.asciiLower (Text.trim key) ≠ part.key.toList := by
        intro part h
        rw [SizePart.ofKey?_eq_some_iff.mpr h] at hpart
        cases hpart
      have hnone : Text.asciiLower (Text.trim key) ∉ slotWords.map String.toList := by
        have hlength := hword .length
        have hprecision := hword .precision
        have hscale := hword .scale
        simp_all [slotWords, SizePart.key]
      rw [Option.filter_some, if_neg (by rwa [List.contains_iff_mem])]
      rfl

/-- The attributes do not assign to one slot. -/
def Apart (a b : Attribute) : Prop :=
  ∀ slot ∈ a.slot?, slot ∉ b.slot?

instance : Std.Symm Apart where
  symm _ _ h slot hb ha := h slot ha hb

/-- Attributes are apart if no slot comes up twice. -/
theorem pairwise_apart {l : List Attribute} (h : (l.filterMap slot?).Nodup) : l.Pairwise Apart :=
  (List.pairwise_filterMap.mp h).imp fun hne slot ha hb => hne slot ha slot hb rfl

/-- The items that assign to a slot are those that make an attribute of that slot. -/
theorem ofItem?_bind_slot? (registry : Registry) (item : List Char) :
    (ofItem? registry item).bind slot? = assignedSlot? item := by
  rw [ofItem?, assignedSlot?, itemKey?]
  cases Text.cutAt? ':' item with
  | none => cases Flag.ofWord? (Text.asciiLower item) <;> rfl
  | some parts => exact ofAssignment?_bind_slot? registry parts.1 parts.2

/-- The slots of the attributes of some items are those of the items. -/
theorem filterMap_slot?_filterMap (registry : Registry) (items : List (List Char)) :
    (items.filterMap (ofItem? registry)).filterMap slot? = items.filterMap assignedSlot? := by
  rw [List.filterMap_filterMap]
  exact List.filterMap_congr fun item _ => ofItem?_bind_slot? registry item

end Attribute

/-! ## Attributes in any order -/

/-- Two parts of a size are set in any order. -/
theorem Size.set_comm (size : Size) {part part' : SizePart} (h : part ≠ part') (n n' : UInt32) :
    (size.set part n).set part' n' = (size.set part' n').set part n := by
  cases part with
  | length => cases part' with
    | length => exact absurd rfl h
    | precision | scale => rfl
  | precision => cases part' with
    | precision => exact absurd rfl h
    | length | scale => rfl
  | scale => cases part' with
    | scale => exact absurd rfl h
    | length | precision => rfl

/-- So they are from texts, whether these are numbers or not. -/
theorem Size.setText_comm (size : Size) {part part' : SizePart} (h : part ≠ part')
    (value value' : List Char) :
    (size.setText part value).setText part' value' =
      (size.setText part' value').setText part value := by
  simp only [setText]
  cases Text.readWord32? (Text.unquote value) with
  | none => rfl
  | some n =>
    cases Text.readWord32? (Text.unquote value') with
    | none => rfl
    | some n' => exact size.set_comm h n n'

namespace ColumnDraft

/-- A flag is switched on in front of any attribute or behind it. -/
theorem apply_flag_comm (c : ColumnDraft) (f : Flag) (a : Attribute) :
    (c.apply (.flag f)).apply a = (c.apply a).apply (.flag f) := by
  cases a with
  | flag g => cases f <;> cases g <;> rfl
  | _ => cases f <;> rfl

/-- Attributes that do not assign to one slot are applied in any order. -/
theorem apply_comm (c : ColumnDraft) {a b : Attribute} (h : a.Apart b) :
    (c.apply a).apply b = (c.apply b).apply a := by
  cases a with
  | flag f => exact apply_flag_comm c f b
  | reference key => cases b with
    | flag g => exact (apply_flag_comm c g _).symm
    | reference => exact absurd rfl (h _ rfl)
    | _ => rfl
  | default literal => cases b with
    | flag g => exact (apply_flag_comm c g _).symm
    | default => exact absurd rfl (h _ rfl)
    | _ => rfl
  | relationshipName name => cases b with
    | flag g => exact (apply_flag_comm c g _).symm
    | relationshipName => exact absurd rfl (h _ rfl)
    | _ => rfl
  | backPopulates name => cases b with
    | flag g => exact (apply_flag_comm c g _).symm
    | backPopulates => exact absurd rfl (h _ rfl)
    | _ => rfl
  | size part value => cases b with
    | flag g => exact (apply_flag_comm c g _).symm
    | size part' value' =>
      have hpart : part ≠ part' := by
        rintro rfl
        exact h _ rfl rfl
      rw [apply, apply, apply, apply, c.field.size.setText_comm hpart]
    | _ => rfl

/-- Attributes of which no two assign to one slot are applied in any order. -/
theorem foldl_apply_of_perm {l l' : List Attribute} (hperm : l.Perm l')
    (hslots : (l.filterMap Attribute.slot?).Nodup) (c : ColumnDraft) :
    l.foldl apply c = l'.foldl apply c := by
  refine hperm.foldl_eq' (fun a ha b hb c => ?_) c
  by_cases hsame : a = b
  · rw [hsame]
  · exact apply_comm c ((Attribute.pairwise_apart hslots).forall ha hb hsame)

end ColumnDraft

/-! ## Lines -/

/-- The line with another attribute block. -/
def FieldLine.withAttributes (line : FieldLine) (text : List Char) : FieldLine :=
  { line with attributes := some text }

/-- A column does not depend on the order of its attributes, if no two of them assign to one slot. -/
theorem ColumnDraft.ofLine_of_perm (registry : Registry) (line : FieldLine) (type : FieldType)
    (size : Size) {text text' : List Char} (hperm : (items ',' text).Perm (items ',' text'))
    (hslots : ((items ',' text).filterMap assignedSlot?).Nodup) :
    ofLine registry (line.withAttributes text) type size =
      ofLine registry (line.withAttributes text') type size := by
  have hattributes : (((items ',' text).filterMap (Attribute.ofItem? registry)).filterMap
      Attribute.slot?).Nodup := by
    rwa [Attribute.filterMap_slot?_filterMap]
  exact foldl_apply_of_perm (hperm.filterMap _) hattributes _

/-- Two attribute blocks with the same items in another order make the same column of a line, and the
    same draft of a table that declares it, if no two of the items assign to one slot. -/
theorem exists_column_of_perm {registry : Registry} {line : FieldLine} {type : FieldType}
    {size : Size} (hcolumn : TypeSpec.ofToken line.type = .column type size)
    {text text' : List Char} (hperm : (items ',' text).Perm (items ',' text'))
    (hslots : ((items ',' text).filterMap assignedSlot?).Nodup) :
    (∃ c, Member.ofLine registry (line.withAttributes text) = .column c ∧
      Member.ofLine registry (line.withAttributes text') = .column c) ∧
    ∀ (entry : TableEntry) (block : TableBlock) (before after : List FieldLine),
      TableDraft.ofBlock registry entry
          { block with fields := before ++ line.withAttributes text :: after } =
        TableDraft.ofBlock registry entry
          { block with fields := before ++ line.withAttributes text' :: after } := by
  have hmember : ∀ text, Member.ofLine registry (line.withAttributes text) =
      .column (ColumnDraft.ofLine registry (line.withAttributes text) type size) := by
    intro text
    have htype : TypeSpec.ofToken (line.withAttributes text).type = .column type size := hcolumn
    rw [Member.ofLine, htype]
  have hsame := ColumnDraft.ofLine_of_perm registry line type size hperm hslots
  refine ⟨⟨_, hmember text, by rw [hmember text', hsame]⟩, fun entry block before after => ?_⟩
  simp only [TableDraft.ofBlock, List.map_append, List.map_cons, hmember, hsame]

/-- The key of a leg to its port. -/
def legKey : FieldLine :=
  { line := 3, name := "port_id".toList, type := "Int(8)".toList, attributes := none }

/-- Its attributes, with a flag that comes up twice and a length that is no number. -/
def legAttributes : List Char :=
  "Ref: > Port.id, pk, NOT NULL, note: \"a, b\", as: \"home\", LENGTH: x, note: c, pk".toList

/-- The same ones in another order, with an empty item among them. -/
def shuffledLegAttributes : List Char :=
  "note: c ,pk,, LENGTH: x, as: \"home\", pk, note: \"a, b\", NOT NULL, Ref: > Port.id".toList

theorem exists_column_of_perm_legKey :
    TypeSpec.ofToken legKey.type = .column .integer { length := some 8 } ∧
      (items ',' legAttributes).Perm (items ',' shuffledLegAttributes) ∧
      ((items ',' legAttributes).filterMap assignedSlot?).Nodup ∧
      ∃ c, Member.ofLine (.ofSource "table Port") (legKey.withAttributes legAttributes) =
          .column c ∧
        Member.ofLine (.ofSource "table Port") (legKey.withAttributes shuffledLegAttributes) =
          .column c ∧
        c.field.size = { length := some 8 } ∧ c.field.nullable = false ∧
        c.naming? = some
          { field := "port_id", relationship := some "home", backPopulates := none } := by
  obtain ⟨htype, hperm, hslots⟩ :
      TypeSpec.ofToken legKey.type = .column .integer { length := some 8 } ∧
        (items ',' legAttributes).Perm (items ',' shuffledLegAttributes) ∧
        ((items ',' legAttributes).filterMap assignedSlot?).Nodup := by
    decide +kernel
  have hcolumns : ∃ c,
      Member.ofLine (.ofSource "table Port") (legKey.withAttributes legAttributes) = .column c ∧
        Member.ofLine (.ofSource "table Port") (legKey.withAttributes shuffledLegAttributes) =
          .column c :=
    (exists_column_of_perm htype hperm hslots).1
  obtain ⟨c, hcolumn, hcolumn'⟩ := hcolumns
  have hmade : (Member.ofLine (.ofSource "table Port")
      (legKey.withAttributes legAttributes)).column?.map
        (fun c => (c.field.size, c.field.nullable, c.naming?)) =
      some ({ length := some 8 }, false, some
        { field := "port_id", relationship := some "home", backPopulates := none }) := by
    decide +kernel
  rw [hcolumn, Member.column?, Option.map_some, Option.some.injEq, Prod.mk.injEq,
    Prod.mk.injEq] at hmade
  exact ⟨htype, hperm, hslots, c, hcolumn, hcolumn', hmade⟩

/-- Of two items that assign to one slot the later one counts, so that their order does. -/
example :
    let default? (text : String) : Option String :=
      (ColumnDraft.ofLine (.ofSource "")
        { line := 1, name := "code".toList, type := "String".toList, attributes := text.toList }
        .string {}).field.defaultLiteral
    default? "default: a, DEFAULT: b" = some "b" ∧ default? "DEFAULT: b, default: a" = some "a" := by
  decide +kernel

end SchemaLang
