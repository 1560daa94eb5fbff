import SchemaLang.Draft.Member
import SchemaLang.Proofs.ForStd.List

/-!
# Columns and the lines that declare them

The fields of a draft are the columns of its block, in order. A column has the name of its line, and
of the references that its attributes make the last one counts.

## Key results

- `SizePart.ofKey?_eq_some_iff`: the keys of the parts of a size
- `foreignKey_foldl_apply`: the last reference counts
- `ofItem?_bind_reference?`: which items make a reference
- `forall₂_fields_ofBlock`: the fields of a draft follow the lines of its block
-/

namespace SchemaLang

/-! ## Keys of parts -/

/-- The key of a part of a size. -/
def SizePart.key : SizePart → String
  | .length => "length"
  | .precision => "precision"
  | .scale => "scale"

/-- A part is told by its key, in any case of the letters. -/
theorem SizePart.ofKey?_eq_some_iff {text : List Char} {part : SizePart} :
    ofKey? text = some part ↔ Text.asciiLower text = part.key.toList := by
  simp only [ofKey?]
  constructor
  · intro h
    split at h
    · next hlength =>
      obtain rfl := Option.some.inj h
      exact hlength
    split at h
    · next hprecision =>
      obtain rfl := Option.some.inj h
      exact hprecision
    split at h
    · next hscale =>
      obtain rfl := Option.some.inj h
      exact hscale
    · cases h
  · intro h
    cases part <;> simp [h, key]

/-! ## References in attributes -/

/-- What the attribute makes of the reference of a column, if it makes one. -/
def Attribute.reference? : Attribute → Option (Option String)
  | reference foreignKey => some foreignKey
  | flag _ | default _ | relationshipName _ | backPopulates _ | size _ _ => none

/-- The text that an item of an attribute block assigns to `ref`, in any case of the letters of the
    key. -/
def referenceText? (item : List Char) : Option (List Char) :=
  match Text.cutAt? ':' item with
  | some (key, value) =>
    if Text.asciiLower (Text.trim key) = "ref".toList then some value else none
  | none => none

/-- The items that assign to `ref` are those that make a reference. -/
theorem Attribute.ofItem?_bind_reference? (registry : Registry) (item : List Char) :
    (ofItem? registry item).bind reference? =
      (referenceText? item).map (readReference? registry) := by
  rw [ofItem?, referenceText?]
  cases Text.cutAt? ':' item with
  | none => cases Flag.ofWord? (Text.asciiLower item) <;> rfl
  | some parts =>
    obtain ⟨key, value⟩ := parts
    simp only [ofAssignment?]
    by_cases href : Text.asciiLower (Text.trim key) = "ref".toList
    · rw [if_pos href, if_pos href]
      rfl
    · rw [if_neg href, if_neg href]
      -- No other key makes a reference.
      split
      · rfl
      split
      · rfl
      split
      · rfl
      cases SizePart.ofKey? (Text.trim key) <;> rfl

namespace ColumnDraft

/-- No attribute changes the name or the type of a column. -/
theorem name_type_foldl_apply (attributes : List Attribute) (c : ColumnDraft) :
    (attributes.foldl apply c).field.name = c.field.name ∧
      (attributes.foldl apply c).field.type = c.field.type := by
  induction attributes generalizing c with
  | nil => exact ⟨rfl, rfl⟩
  | cons a rest ih =>
    have happly : (c.apply a).field.name = c.field.name ∧ (c.apply a).field.type = c.field.type := by
      cases a with
      | flag f => cases f <;> exact ⟨rfl, rfl⟩
      | _ => exact ⟨rfl, rfl⟩
    rw [List.foldl_cons, (ih _).1, (ih _).2]
    exact happly

/-- An attribute that makes a reference replaces the one of the column, and no other one does. -/
theorem foreignKey_apply (c : ColumnDraft) (a : Attribute) :
    (c.apply a).field.foreignKey = a.reference?.getD c.field.foreignKey := by
  cases a with
  | flag f => cases f <;> rfl
  | _ => rfl

/-- Of the references that attributes make the last one counts. -/
theorem foreignKey_foldl_apply (attributes : List Attribute) (c : ColumnDraft) :
    (attributes.foldl apply c).field.foreignKey =
      (attributes.filterMap Attribute.reference?).getLast?.getD c.field.foreignKey := by
  induction attributes generalizing c with
  | nil => rfl
  | cons a rest ih =>
    rw [List.foldl_cons, ih, foreignKey_apply]
    cases hreference : a.reference? with
    | none => rw [List.filterMap_cons_none hreference, Option.getD_none]
    | some foreignKey =>
      rw [List.filterMap_cons_some hreference, List.getLast?_cons, Option.getD_some,
        Option.getD_some]

end ColumnDraft

/-! ## Lines -/

namespace TypeSpec

/-- The type of an association is the name of its table with `[]` behind it. -/
theorem associationTable?_eq_some_iff {token table : List Char} :
    associationTable? token = some table ↔ token = table ++ "[]".toList := by
  have hreverse : token = table ++ "[]".toList ↔ token.reverse = ']' :: '[' :: table.reverse := by
    rw [← List.reverse_inj]
    simp
  rw [hreverse, associationTable?]
  split
  · next rest h => simp [h, List.reverse_eq_iff]
  · next hother =>
    simp only [reduceCtorEq, false_iff]
    exact fun h => hother _ h

end TypeSpec

namespace FieldLine

/-- The line declares a column. -/
def isColumn (line : FieldLine) : Bool :=
  (TypeSpec.associationTable? line.type).isNone

/-- The reference of the line: the last text that is assigned to `ref`. -/
def reference? (line : FieldLine) : Option (List Char) :=
  (line.items.filterMap referenceText?).getLast?

/-- The field is what the line declares, as far as its name and its reference go. -/
structure Declares (registry : Registry) (line : FieldLine) (f : Field) : Prop where
  name : f.name = String.ofList line.name
  foreignKey : f.foreignKey = line.reference?.bind (Attribute.readReference? registry)

/-- The column is made of the line. -/
def Drafts (registry : Registry) (line : FieldLine) (c : ColumnDraft) : Prop :=
  ∃ type size, TypeSpec.ofToken line.type = .column type size ∧
    c = ColumnDraft.ofLine registry line type size

end FieldLine

/-- What the members of a block are made of: associations and columns, each from its own line. -/
theorem Member.ofLine_eq (registry : Registry) (line : FieldLine) :
    (line.isColumn = false ∧ ∃ table, line.type = table ++ "[]".toList ∧
      ofLine registry line = association (Association.ofLine line table)) ∨
    (line.isColumn = true ∧ ∃ type size, TypeSpec.ofToken line.type = .column type size ∧
      ofLine registry line = column (ColumnDraft.ofLine registry line type size)) := by
  rw [FieldLine.isColumn, ofLine, TypeSpec.ofToken]
  cases htable : TypeSpec.associationTable? line.type with
  | some table => exact .inl ⟨rfl, table, TypeSpec.associationTable?_eq_some_iff.mp htable, rfl⟩
  | none => exact .inr ⟨rfl, _, _, rfl, rfl⟩

/-- The lines of the block that declare columns. -/
def TableBlock.columnLines (block : TableBlock) : List FieldLine :=
  block.fields.filter (·.isColumn)

/-- The column of a line is what the line declares. -/
theorem ColumnDraft.declares_ofLine (registry : Registry) (line : FieldLine) (type : FieldType)
    (size : Size) : line.Declares registry (ofLine registry line type size).field := by
  constructor
  case name => exact (name_type_foldl_apply _ _).1
  case foreignKey =>
    have hreferences : (line.items.filterMap (Attribute.ofItem? registry)).filterMap
        Attribute.reference? =
          (line.items.filterMap referenceText?).map (Attribute.readReference? registry) := by
      rw [List.filterMap_filterMap, List.map_filterMap]
      exact List.filterMap_congr fun item _ => Attribute.ofItem?_bind_reference? registry item
    rw [ofLine, foreignKey_foldl_apply, hreferences, List.getLast?_map, FieldLine.reference?]
    cases (line.items.filterMap referenceText?).getLast? <;> rfl

/-- The columns of a block are made line by line. -/
theorem TableBlock.forall₂_columns (registry : Registry) (block : TableBlock) :
    List.Forall₂ (FieldLine.Drafts registry) block.columnLines
      ((block.fields.map (Member.ofLine registry)).filterMap Member.column?) := by
  rw [List.filterMap_map]
  refine List.forall₂_filter_filterMap (fun line _ hcolumn => ?_) (fun line _ hrows => ?_)
  · rcases Member.ofLine_eq registry line with ⟨hrows, -⟩ | ⟨-, type, size, htype, hmember⟩
    · rw [hcolumn] at hrows
      cases hrows
    · rw [Function.comp_apply, hmember]
      exact ⟨_, rfl, type, size, htype, rfl⟩
  · rcases Member.ofLine_eq registry line with ⟨-, table, -, hmember⟩ | ⟨hcolumn, -⟩
    · rw [Function.comp_apply, hmember]
      rfl
    · rw [hrows] at hcolumn
      cases hcolumn

/-- The fields of a draft follow the lines of its block. -/
theorem TableDraft.forall₂_fields_ofBlock (registry : Registry) (entry : TableEntry)
    (block : TableBlock) :
    List.Forall₂ (FieldLine.Declares registry) block.columnLines
      (ofBlock registry entry block).fields := by
  refine List.forall₂_map_right_iff.mpr ((block.forall₂_columns registry).imp fun line c hc => ?_)
  obtain ⟨type, size, -, rfl⟩ := hc
  exact ColumnDraft.declares_ofLine registry line type size

end SchemaLang
