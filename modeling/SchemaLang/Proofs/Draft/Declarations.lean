import SchemaLang.Proofs.Draft.Columns
import SchemaLang.Proofs.Source.Headers

/-!
# Declarations and what becomes of them

A line of a block goes through many hands: it is read as a column or as an association, an
association becomes a relationship that keys may claim, keys put further relationships behind it, and
indices are derived behind those that are declared. Here each model is set beside its block: every
line has its place in the model, in the order of the lines, and only what keys bring about is added
behind.

## Key results

- `Board.forall₂_explicit`: the declared relationships of a settled board are those of its draft
- `Board.tellDeclared_settledOf`: no other one passes for declared
- `TableDraft.indices_ofBlock`, `TableDraft.forall₂_links_ofBlock`: indices and links in line order
- `forall₂_followsBlock`: a compiled schema follows the blocks of its source
-/

namespace SchemaLang

/-! ## Lines -/

/-- The key of an item of an attribute block: what stands in front of its first colon. -/
def itemKey? (item : List Char) : Option (List Char) :=
  (Text.cutAt? ':' item).map fun (key, _) => Text.trim key

namespace FieldLine

/-- Some item of the attribute block has the key, as it is written. -/
def hasKey (key : String) (line : FieldLine) : Bool :=
  line.items.any (itemKey? · == some key.toList)

/-- The line declares a relationship: it declares an association, and says so. -/
def isRelated (line : FieldLine) : Bool :=
  !line.isColumn && (line.hasKey "relationship" || line.hasKey "back_populates")

/-- The line has the flag `index`, in any case of its letters. -/
def isIndexed (line : FieldLine) : Bool :=
  line.items.any (Text.asciiLower · == "index".toList)

/-- What the line makes of its reference: of the texts that it assigns to `ref` the last one counts,
    and it may name no column. -/
def key? (registry : Registry) (line : FieldLine) : Option String :=
  line.reference?.bind (Attribute.readReference? registry)

/-- The line has a link: it declares an association, or its reference names a column. -/
def hasLink (registry : Registry) (line : FieldLine) : Bool :=
  !line.isColumn || (line.key? registry).isSome

/-- The relationship is what the line declares. Its other side is left to the keys. -/
structure Relates (registry : Registry) (line : FieldLine) (r : Relationship) : Prop where
  name : r.name = String.ofList line.name
  target : ∃ table, line.type = table ++ "[]".toList ∧
    r.target = (registry.resolve? (String.ofList table)).getD (String.ofList table)
  cardinality : r.cardinality = .oneToMany
  origin : r.origin = .explicit

/-- The link is that of the line: to the rows of its association, or to the table that its reference
    names. -/
inductive Links (registry : Registry) (line : FieldLine) : ContextLink → Prop where
  | rows {table : List Char} (htype : line.type = table ++ "[]".toList) :
      Links registry line (.toRows (String.ofList table) (String.ofList line.name))
  | table {table column : List Char} (hcolumn : line.isColumn = true)
      (hkey : line.key? registry = some (String.ofList (table ++ '.' :: column)))
      (hdot : '.' ∉ table) :
      Links registry line (.toTable
        ((registry.byTable? (String.ofList table)).getD (String.ofList table))
        (String.ofList line.name))

/-- The field is the column that the line declares. -/
structure Makes (registry : Registry) (line : FieldLine) (f : Field) : Prop
    extends line.Declares registry f where
  type : ∃ size, TypeSpec.ofToken line.type = .column f.type size

end FieldLine

/-! ## Columns -/

/-- Only one word asks for an index. -/
theorem Flag.ofWord?_eq_index_iff {word : List Char} :
    ofWord? word = some .index ↔ word = "index".toList := by
  rw [ofWord?]
  constructor
  · intro h
    -- The words of the other flags come first, and each has one flag only.
    split at h
    · cases h
    split at h
    · cases h
    split at h
    · cases h
    split at h
    · cases h
    split at h
    · assumption
    · cases h
  · rintro rfl
    decide

/-- An assignment is no flag. -/
theorem Attribute.ofAssignment?_ne_flag (registry : Registry) (key value : List Char) (f : Flag) :
    ofAssignment? registry key value ≠ some (flag f) := by
  simp only [ofAssignment?]
  intro h
  -- Each key has an attribute of its own, and the last ones are parts of a size.
  split at h
  · cases h
  split at h
  · cases h
  split at h
  · cases h
  split at h
  · cases h
  · obtain ⟨part, -, h⟩ := Option.map_eq_some_iff.mp h
    cases h

/-- The items that ask for an index. -/
theorem Attribute.ofItem?_eq_index_iff {registry : Registry} {item : List Char} :
    ofItem? registry item = some (flag .index) ↔ Text.asciiLower item = "index".toList := by
  rw [ofItem?]
  cases hcut : Text.cutAt? ':' item with
  | none =>
    rw [← Flag.ofWord?_eq_index_iff]
    simp
  | some parts =>
    obtain ⟨key, value⟩ := parts
    refine iff_of_false (ofAssignment?_ne_flag registry key value .index) fun hword => ?_
    -- The colon of an assignment has no place in the word.
    have hcolon : ':' ∈ Text.asciiLower item := by
      rw [(Text.eq_of_cutAt? hcut).1]
      exact List.mem_map.mpr ⟨':', by simp, by decide⟩
    rw [hword] at hcolon
    exact absurd hcolon (by decide)

namespace ColumnDraft

/-- Only one flag asks for an index. -/
theorem indexed_foldl_apply (attributes : List Attribute) (c : ColumnDraft) :
    (attributes.foldl apply c).indexed = (c.indexed || attributes.contains (.flag .index)) := by
  induction attributes generalizing c with
  | nil => simp
  | cons a rest ih =>
    have happly : (c.apply a).indexed = (c.indexed || .flag .index == a) := by
      cases a with
      | flag f => cases f <;> simp [apply]
      | _ => simp [apply]
    rw [List.foldl_cons, ih, happly, List.contains_cons, Bool.or_assoc]

variable (registry : Registry) (line : FieldLine) {type : FieldType} {size : Size}

/-- The column of a line is what the line makes. -/
theorem makes_ofLine (htype : TypeSpec.ofToken line.type = .column type size) :
    line.Makes registry (ofLine registry line type size).field := by
  refine ⟨declares_ofLine registry line type size, size, ?_⟩
  rw [htype, ofLine, (name_type_foldl_apply _ _).2]

/-- The column of a line asks for an index if the line has the flag. -/
theorem indexed_ofLine (type : FieldType) (size : Size) :
    (ofLine registry line type size).indexed = line.isIndexed := by
  rw [ofLine, indexed_foldl_apply, Bool.false_or, FieldLine.isIndexed, Bool.eq_iff_iff]
  simp [List.mem_filterMap, Attribute.ofItem?_eq_index_iff]

end ColumnDraft

/-! ## Associations -/

namespace Association

/-- An item assigns to the key that it has. -/
theorem isSome_assignment? (key item : List Char) :
    (assignment? key item).isSome = (itemKey? item == some key) := by
  rw [assignment?, itemKey?]
  cases Text.cutAt? ':' item with
  | none => rfl
  | some parts =>
    by_cases hkey : Text.trim parts.1 = key
    · simp [hkey]
    · simp [hkey]

/-- Which associations are declared as relationships. -/
theorem annotated_ofLine (line : FieldLine) (table : List Char) :
    (ofLine line table).annotated = (line.hasKey "relationship" || line.hasKey "back_populates") := by
  have hany : (ofLine line table).annotated = line.items.any fun item =>
      itemKey? item == some backPopulatesKey || itemKey? item == some relationshipKey := by
    simp only [ofLine, isSome_assignment?]
  rw [hany, Bool.eq_iff_iff]
  simp only [FieldLine.hasKey, List.any_eq_true, Bool.or_eq_true]
  constructor
  · rintro ⟨item, hitem, hkey | hkey⟩
    · exact .inr ⟨item, hitem, hkey⟩
    · exact .inl ⟨item, hitem, hkey⟩
  · rintro (⟨item, hitem, hkey⟩ | ⟨item, hitem, hkey⟩)
    · exact ⟨item, hitem, .inr hkey⟩
    · exact ⟨item, hitem, .inl hkey⟩

end Association

/-- The associations that a draft has as relationships are made line by line. -/
theorem TableDraft.forall₂_associations_ofBlock (registry : Registry) (entry : TableEntry)
    (block : TableBlock) :
    List.Forall₂
      (fun line a => ∃ table, line.type = table ++ "[]".toList ∧ a = Association.ofLine line table)
      (block.fields.filter (·.isRelated))
      ((ofBlock registry entry block).associations.filter (·.annotated)) := by
  rw [ofBlock, ofMembers, List.filter_filterMap, List.filterMap_map]
  refine List.forall₂_filter_filterMap (fun line _ hrelated => ?_) (fun line _ hrelated => ?_)
  · rw [FieldLine.isRelated, Bool.and_eq_true, Bool.not_eq_true'] at hrelated
    rcases Member.ofLine_eq registry line with ⟨-, table, htype, hmember⟩ | ⟨hcolumn, -⟩
    · refine ⟨Association.ofLine line table, ?_, table, htype, rfl⟩
      rw [Function.comp_apply, hmember, Member.association?, Option.filter_some,
        Association.annotated_ofLine, if_pos hrelated.2]
    · simp [hcolumn] at hrelated
  · rcases Member.ofLine_eq registry line with ⟨hcolumn, table, -, hmember⟩ | ⟨-, _, _, -, hmember⟩
    · rw [FieldLine.isRelated, hcolumn, Bool.not_false, Bool.true_and] at hrelated
      rw [Function.comp_apply, hmember, Member.association?, Option.filter_some,
        Association.annotated_ofLine, hrelated, if_neg (by decide)]
    · rw [Function.comp_apply, hmember]
      rfl

/-! ## Relationships -/

namespace Board

/-- What keys have brought about on the boards does not pass for declared. -/
def TellDeclared (boards : List Board) : Prop :=
  ∀ b ∈ boards, ∀ r ∈ b.synthesized, r.origin ≠ .explicit

/-- An edge puts nothing that passes for declared on the board of its target. -/
theorem origin_ne_of_mem_synthesized_settle {b : Board}
    (h : ∀ r ∈ b.synthesized, r.origin ≠ .explicit) (ownerId : String) (edge : KeyEdge) :
    ∀ r ∈ (b.settle ownerId edge).1.synthesized, r.origin ≠ .explicit := by
  rw [settle]
  cases b.counterpart? ownerId edge with
  | some found => exact h
  | none =>
    refine List.forall_mem_append.mpr ⟨h, ?_⟩
    simp [inverse]

/-- Nor does it on that of its owner. -/
theorem TellDeclared.settleEdge {boards : List Board} (h : TellDeclared boards) (owner : Nat)
    (edge : KeyEdge) : TellDeclared (Board.settleEdge owner boards edge) := by
  rw [Board.settleEdge]
  split
  · next o t ho ht =>
    have hsettled := origin_ne_of_mem_synthesized_settle (h t (List.mem_of_getElem? ht)) o.id edge
    have hset : TellDeclared (boards.set edge.target (t.settle o.id edge).1) := by
      intro b hb
      rcases List.mem_or_eq_of_mem_set hb with hb | rfl
      · exact h b hb
      · exact hsettled
    intro b hb
    obtain ⟨i, hi⟩ := List.mem_iff_getElem?.mp hb
    rw [List.getElem?_modify] at hi
    obtain ⟨b', hb', rfl⟩ := Option.map_eq_some_iff.mp hi
    have hold := hset b' (List.mem_of_getElem? hb')
    split
    · refine List.forall_mem_append.mpr ⟨hold, ?_⟩
      simp [Relationship.reverse]
    · exact hold
  · exact h

/-- Edges bring about nothing that passes for declared. -/
theorem TellDeclared.settleAll {boards : List Board} (h : TellDeclared boards)
    (keys : List (Nat × KeyEdge)) : TellDeclared (Board.settleAll boards keys) := by
  induction keys generalizing boards with
  | nil => exact h
  | cons key rest ih => exact ih (h.settleEdge key.1 key.2)

/-- What stands behind the declared relationships of a settled board does not pass for one. -/
theorem tellDeclared_settledOf (source : String) : TellDeclared (settledOf source) := by
  rw [settledOf_eq]
  refine TellDeclared.settleAll (fun b hb r hr => ?_) _
  obtain ⟨d, -, rfl⟩ := List.mem_map.mp hb
  cases hr

end Board

/-- The relationship without what keys have a say in. -/
def Relationship.unpaired (r : Relationship) : Relationship :=
  { r with backPopulates := "", foreignKeys := none }

/-- The declared relationships of a settled board are what the lines of its block declare. -/
theorem Board.forall₂_explicit {source : String} {i : Nat} {entry : TableEntry}
    {block : TableBlock} {b : Board}
    (hd : (TableDraft.ofSource source)[i]? = some (.ofBlock (.ofSource source) entry block))
    (hb : (settledOf source)[i]? = some b) :
    List.Forall₂ (FieldLine.Relates (.ofSource source)) (block.fields.filter (·.isRelated))
      (b.explicit.map (·.relationship)) := by
  -- No key changes the part of a relationship that the line declares.
  have hviews := congrArg (·[i]?)
    (map_explicit_settledOf (·.relationship.unpaired) (fun _ _ => rfl) source)
  simp only [List.getElem?_map, hb, declaredOf, hd, Option.map_some, Option.some.injEq] at hviews
  have hdeclared : List.Forall₂ (FieldLine.Relates (.ofSource source))
      (block.fields.filter (·.isRelated)) (b.explicit.map (·.relationship.unpaired)) := by
    rw [hviews, ofDraft, List.map_map, List.forall₂_map_right_iff]
    refine (TableDraft.forall₂_associations_ofBlock _ entry block).imp fun line a ha => ?_
    obtain ⟨table, htype, rfl⟩ := ha
    exact ⟨rfl, ⟨table, htype, rfl⟩, rfl, rfl⟩
  rw [List.forall₂_map_right_iff] at hdeclared ⊢
  exact hdeclared.imp fun line slot h => ⟨h.name, h.target, h.cardinality, h.origin⟩

/-! ## Links -/

/-- A reference is kept with a dot in it. -/
theorem Attribute.dot_mem_of_readReference? {registry : Registry} {value : List Char} {key : String}
    (h : readReference? registry value = some key) : '.' ∈ key.toList := by
  rw [readReference?] at h
  split at h
  · obtain ⟨parts, -, h⟩ := Option.bind_eq_some_iff.mp h
    rw [← Option.some.inj h]
    simp
  · cases h

/-- A column has a link if its reference names a column. -/
theorem ColumnDraft.link?_ofLine (registry : Registry) (line : FieldLine) (type : FieldType)
    (size : Size) :
    (line.key? registry = none ∧ (ofLine registry line type size).link? registry = none) ∨
      ∃ table column, line.key? registry = some (String.ofList (table ++ '.' :: column)) ∧
        '.' ∉ table ∧ (ofLine registry line type size).link? registry = some (.toTable
          ((registry.byTable? (String.ofList table)).getD (String.ofList table))
          (String.ofList line.name)) := by
  have hdeclares := declares_ofLine registry line type size
  rw [link?, Field.foreignKeyParts?, hdeclares.foreignKey, hdeclares.name, ← FieldLine.key?]
  cases hkey : line.key? registry with
  | none => exact .inl ⟨rfl, rfl⟩
  | some key =>
    obtain ⟨value, -, hread⟩ := Option.bind_eq_some_iff.mp hkey
    cases hcut : Text.cutAt? '.' key.toList with
    | none => exact absurd (Attribute.dot_mem_of_readReference? hread) (Text.cutAt?_eq_none_iff.mp hcut)
    | some parts =>
      obtain ⟨table, column⟩ := parts
      obtain ⟨htext, hdot⟩ := Text.eq_of_cutAt? hcut
      refine .inr ⟨table, column, ?_, hdot, ?_⟩
      · rw [← htext, String.ofList_toList]
      · simp [hcut]

/-- The links of a draft are those of the lines of its block. -/
theorem TableDraft.forall₂_links_ofBlock (registry : Registry) (entry : TableEntry)
    (block : TableBlock) :
    List.Forall₂ (FieldLine.Links registry) (block.fields.filter (·.hasLink registry))
      (ofBlock registry entry block).links := by
  have hlinks : (ofBlock registry entry block).links =
      block.fields.filterMap (Member.link? registry ∘ Member.ofLine registry) :=
    List.filterMap_map
  rw [hlinks]
  refine List.forall₂_filter_filterMap (fun line _ hlink => ?_) (fun line _ hlink => ?_)
  · rcases Member.ofLine_eq registry line with ⟨-, table, htype, hmember⟩ |
      ⟨hcolumn, type, size, -, hmember⟩
    · rw [Function.comp_apply, hmember]
      exact ⟨_, rfl, .rows htype⟩
    · rw [Function.comp_apply, hmember]
      rcases ColumnDraft.link?_ofLine registry line type size with ⟨hnone, -⟩ |
        ⟨table, column, hkey, hdot, hlink⟩
      · simp [FieldLine.hasLink, hcolumn, hnone] at hlink
      · exact ⟨_, hlink, .table hcolumn hkey hdot⟩
  · rw [FieldLine.hasLink, Bool.or_eq_false_iff, Bool.not_eq_false'] at hlink
    obtain ⟨hcolumn, hnone⟩ := hlink
    rcases Member.ofLine_eq registry line with ⟨hrows, -⟩ | ⟨-, type, size, -, hmember⟩
    · rw [hcolumn] at hrows
      cases hrows
    · rw [Function.comp_apply, hmember]
      rcases ColumnDraft.link?_ofLine registry line type size with ⟨-, hlink⟩ | ⟨_, _, hkey, -⟩
      · exact hlink
      · simp [hkey] at hnone

/-! ## Indices -/

/-- The indices that a block declares for a model: those of the columns with the flag, and those of
    its index lines. -/
def TableBlock.declaredIndices (id : String) (block : TableBlock) : List Index :=
  ((block.columnLines.filter (·.isIndexed)).map fun line =>
      columnIndex id (String.ofList line.name)) ++
    block.indices.map fun ix =>
      { name := String.ofList ix.name, columns := ix.columns.map String.ofList }

/-- The columns that ask for an index are those of the lines with the flag. -/
theorem filterMap_index?_of_drafts {registry : Registry} {lines : List FieldLine}
    {columns : List ColumnDraft} (h : List.Forall₂ (FieldLine.Drafts registry) lines columns)
    (id : String) :
    columns.filterMap (·.index? id) =
      (lines.filter (·.isIndexed)).map fun line => columnIndex id (String.ofList line.name) := by
  induction h with
  | nil => rfl
  | @cons line c _ _ hc _ ih =>
    obtain ⟨type, size, -, rfl⟩ := hc
    have hindex : (ColumnDraft.ofLine registry line type size).index? id =
        if line.isIndexed then some (columnIndex id (String.ofList line.name)) else none := by
      rw [ColumnDraft.index?, ColumnDraft.indexed_ofLine,
        (ColumnDraft.declares_ofLine registry line type size).name]
    cases hindexed : line.isIndexed with
    | false => simp [hindex, hindexed, ih]
    | true => simp [hindex, hindexed, ih]

/-- The indices of a draft are those that its block declares. -/
theorem TableDraft.indices_ofBlock (registry : Registry) (entry : TableEntry) (block : TableBlock) :
    (ofBlock registry entry block).indices = block.declaredIndices entry.id := by
  rw [ofBlock, ofMembers, filterMap_index?_of_drafts (block.forall₂_columns registry)]
  rfl

/-- Behind the indices of a model those of its keys are put whose names are not in use. -/
theorem Model.indices_deriveIndices (m : Model) :
    m.deriveIndices.indices = m.indices ++
      (m.foreignKeyFields.map fun f => columnIndex m.id f.name).filter fun ix =>
        ix.name ∉ m.indices.map (·.name) := by
  rw [deriveIndices, missingIndices]
  refine congrArg (m.indices ++ ·) (List.filter_congr fun ix _ => ?_)
  rw [Bool.eq_iff_iff]
  simp

/-! ## Models -/

/-- The model has what the block declares, line by line and in order. Behind it stands only what keys
    bring about. -/
structure Model.FollowsBlock (registry : Registry) (block : TableBlock) (m : Model) : Prop where
  fields : List.Forall₂ (FieldLine.Makes registry) block.columnLines m.fields
  relationships : ∃ declared rest, m.relationships = declared ++ rest ∧
    List.Forall₂ (FieldLine.Relates registry) (block.fields.filter (·.isRelated)) declared ∧
    ∀ r ∈ rest, r.origin ≠ .explicit
  links : List.Forall₂ (FieldLine.Links registry) (block.fields.filter (·.hasLink registry))
    m.menus.context
  indices : m.indices = block.declaredIndices m.id ++
    (m.foreignKeyFields.map fun f => columnIndex m.id f.name).filter fun ix =>
      ix.name ∉ (block.declaredIndices m.id).map (·.name)

/-- A model that is made of a draft and its settled board has what the block declares. -/
theorem followsBlock_deriveIndices {source : String} {i : Nat} {entry : TableEntry}
    {block : TableBlock} {b : Board}
    (hd : (TableDraft.ofSource source)[i]? = some (.ofBlock (.ofSource source) entry block))
    (hb : (Board.settledOf source)[i]? = some b) :
    Model.FollowsBlock (.ofSource source) block
      (Model.ofDraft (.ofBlock (.ofSource source) entry block) b).deriveIndices := by
  constructor
  case fields =>
    refine List.forall₂_map_right_iff.mpr ((block.forall₂_columns _).imp fun line c hc => ?_)
    obtain ⟨type, size, htype, rfl⟩ := hc
    exact ColumnDraft.makes_ofLine _ line htype
  case relationships =>
    exact ⟨_, _, rfl, Board.forall₂_explicit hd hb,
      Board.tellDeclared_settledOf source b (List.mem_of_getElem? hb)⟩
  case links => exact TableDraft.forall₂_links_ofBlock _ entry block
  case indices =>
    have hindices : (Model.ofDraft (.ofBlock (.ofSource source) entry block) b).indices =
        block.declaredIndices entry.id :=
      TableDraft.indices_ofBlock _ entry block
    rw [Model.indices_deriveIndices, hindices]
    rfl

/-- A compiled schema follows the blocks of its source: no declaration is lost and none comes up
    twice. -/
theorem forall₂_followsBlock {source : String} {s : Schema} (h : compile source = .ok s) :
    List.Forall₂ (Model.FollowsBlock (.ofSource source)) (TableBlock.ofSource source) s.models :=
  forall₂_blocks_models h fun _ _ _ _ hd hb => followsBlock_deriveIndices hd hb

/-- Hubs that declare columns, associations and indices in no order. The key of the stops is not in
    lower case, so that they are a link only; the last reference of the old hub names no column. -/
def mixedHubs : String :=
  "table Hub \x7b
id Int [pk]
legs Leg[] [back_populates: 'at']
code Int [INDEX]
index by_hub [hub_id]
stops Leg[] [Back_Populates: 'at']
hub_id Int [Ref: > HUB.id, index]
old_id Int [ref: > Hub.id, ref: Hub]
\x7d
table Leg \x7b
hub_id Int [ref: > Hub.id, as: 'at']
\x7d"

theorem forall₂_followsBlock_mixedHubs :
    ∃ s, compile mixedHubs = .ok s ∧
      List.Forall₂ (Model.FollowsBlock (.ofSource mixedHubs)) (TableBlock.ofSource mixedHubs)
        s.models ∧
      s.models.map (fun m => m.fields.map (·.name)) =
        [["id", "code", "hub_id", "old_id"], ["hub_id"]] ∧
      s.models.map (fun m => m.relationships.map fun r => (r.name, r.origin)) =
        [[("legs", .explicit), ("s001_hub_hub", .inverse), ("hub", .foreignKey)],
          [("at", .foreignKey)]] ∧
      s.models.map (·.menus.context) =
        [[.toRows "Leg" "legs", .toRows "Leg" "stops", .toTable "S001_Hub" "hub_id"],
          [.toTable "S001_Hub" "hub_id"]] ∧
      s.models.map (fun m => m.indices.map (·.name)) =
        [["ix_s001_hub_code", "ix_s001_hub_hub_id", "by_hub"], ["ix_s002_leg_hub_id"]] := by
  let s := Schema.ofChecked mixedHubs
  obtain ⟨hchecked, hfields, hrelationships, hlinks, hindices⟩ :
      checkSource mixedHubs = .ok () ∧
      s.models.map (fun m => m.fields.map (·.name)) =
        [["id", "code", "hub_id", "old_id"], ["hub_id"]] ∧
      s.models.map (fun m => m.relationships.map fun r => (r.name, r.origin)) =
        [[("legs", .explicit), ("s001_hub_hub", .inverse), ("hub", .foreignKey)],
          [("at", .foreignKey)]] ∧
      s.models.map (·.menus.context) =
        [[.toRows "Leg" "legs", .toRows "Leg" "stops", .toTable "S001_Hub" "hub_id"],
          [.toTable "S001_Hub" "hub_id"]] ∧
      s.models.map (fun m => m.indices.map (·.name)) =
        [["ix_s001_hub_code", "ix_s001_hub_hub_id", "by_hub"], ["ix_s002_leg_hub_id"]] := by
    decide +kernel
  have hcompile : compile mixedHubs = .ok s := compile_eq_ok_iff.mpr ⟨hchecked, rfl⟩
  exact ⟨s, hcompile, forall₂_followsBlock hcompile, hfields, hrelationships, hlinks, hindices⟩

end SchemaLang
