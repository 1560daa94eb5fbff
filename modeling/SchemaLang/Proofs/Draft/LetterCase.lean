import SchemaLang.Proofs.Draft.AttributeOrder
import SchemaLang.Proofs.Source.Items
import SchemaLang.Proofs.Text.AsciiCase

/-!
# The letter case of attributes

The keys and flags of an attribute block can be written in any case of their letters. A column does
not tell these spellings apart. An association does: it is declared as a relationship by two keys
only in lower case, and in any other spelling it is left a mere link. Beyond that letter case has no
say, so a line is safe from it just if it declares a column, or has neither of the two keys in any
spelling.

## Key results

- `IsCut.of_asciiLower_eq`: letter case moves no separator
- `IsRecasing.forall₂_items`: the items of a block in another case, one by one
- `Attribute.ofItem?_of_isRecased`: an attribute in another case is the same attribute
- `ColumnDraft.ofLine_of_isRecasing`: a column is the same in any case of its attributes
- `draftedAlike_recasing_iff`: which lines may be written in any case
-/

namespace SchemaLang

open Text

/-! ## Separators in any case -/

namespace Nesting

/-- No letter counts. -/
theorem isPlain_of_isAlpha {c : Char} (h : c.isAlpha = true) : isPlain c = true :=
  isPlain_of_pos (by decide) h

/-- The nestings in which the characters of a text stand do not depend on letter case. -/
theorem trace_run_of_asciiLower_eq {n : Nesting} (h : n.IsProper) {s t : List Char}
    (hst : asciiLower s = asciiLower t) :
    (n.trace s).map (fun place => (place.1, place.2.toLower)) =
        (n.trace t).map (fun place => (place.1, place.2.toLower)) ∧ n.run s = n.run t := by
  induction s generalizing n t with
  | nil =>
    obtain rfl : t = [] := by simpa [asciiLower] using hst.symm
    exact ⟨rfl, rfl⟩
  | cons c s ih =>
    cases t with
    | nil => simp [asciiLower] at hst
    | cons d t =>
      obtain ⟨hcd, hst⟩ := List.cons.inj hst
      have hstep : n.step c = n.step d := by
        rcases eq_or_isAlpha_of_toLower_eq hcd with rfl | ⟨hc, hd⟩
        · rfl
        · rw [h.step_of_isPlain (isPlain_of_isAlpha hc), h.step_of_isPlain (isPlain_of_isAlpha hd)]
      obtain ⟨htrace, hrun⟩ := ih (h.step d) hst
      rw [trace, trace, run_cons, run_cons, hstep, hrun, List.map_cons, List.map_cons, htrace, hcd]
      exact ⟨rfl, rfl⟩

end Nesting

section

variable {sep : Char} {n : Nesting} {s t : List Char}

theorem IsUncut.of_asciiLower_eq (hsep : sep.isAlpha = false) (hproper : n.IsProper)
    (hst : asciiLower s = asciiLower t) (h : IsUncut sep n s) : IsUncut sep n t := by
  have hmem : ∀ {s : List Char}, ((Nesting.top, sep) : Nesting × Char) ∈ n.trace s ↔
      (Nesting.top, sep) ∈ (n.trace s).map fun place => (place.1, place.2.toLower) := by
    simp [List.mem_map, toLower_eq_iff hsep]
  rwa [IsUncut, hmem, ← (Nesting.trace_run_of_asciiLower_eq hproper hst).1, ← hmem]

/-- A text is cut where it was, whatever becomes of the letters of its pieces. -/
theorem IsCut.of_asciiLower_eq (hsep : sep.isAlpha = false) (hproper : n.IsProper)
    {pieces others : List (List Char)} (h : IsCut sep n s pieces)
    (hothers : List.Forall₂ (fun piece other => asciiLower piece = asciiLower other) pieces others) :
    IsCut sep n ([sep].intercalate others) others := by
  induction h generalizing others with
  | last hs =>
    obtain ⟨other, rest, hother, hrest, rfl⟩ := List.forall₂_cons_left_iff.mp hothers
    cases hrest
    rw [List.intercalate_singleton]
    exact .last (hs.of_asciiLower_eq hsep hproper hother)
  | @cons n piece rest pieces hpiece htop hrest ih =>
    obtain ⟨other, others, hother, htail, rfl⟩ := List.forall₂_cons_left_iff.mp hothers
    have hcut := ih Nesting.isProper_top htail
    obtain ⟨next, others, rfl⟩ := List.exists_cons_of_ne_nil hcut.ne_nil
    rw [List.intercalate_cons_cons, List.append_assoc, List.singleton_append]
    refine .cons (hpiece.of_asciiLower_eq hsep hproper hother) ?_ hcut
    rw [← (Nesting.trace_run_of_asciiLower_eq hproper hother).2, htop]

end

/-! ## Attribute blocks in any case -/

/-- The second text is the first one with the letters of its key, or of its flag, in another case. -/
inductive IsRecased : List Char → List Char → Prop
  | assignment {key key' value : List Char} (hkey : asciiLower key = asciiLower key')
      (hcolon : ':' ∉ key) : IsRecased (key ++ ':' :: value) (key' ++ ':' :: value)
  | flag {word word' : List Char} (hword : asciiLower word = asciiLower word')
      (hcolon : ':' ∉ word) : IsRecased word word'

/-- The second attribute block is the first one with the letters of its keys and flags in another
    case: of what stands between its separators, piece by piece. -/
def IsRecasing (text text' : List Char) : Prop :=
  ∃ pieces', List.Forall₂ IsRecased (pieces ',' .top text) pieces' ∧
    text' = [','].intercalate pieces'

namespace IsRecased

variable {item item' : List Char}

theorem asciiLower_eq (h : IsRecased item item') : asciiLower item = asciiLower item' := by
  cases h with
  | assignment hkey _ =>
    rw [asciiLower_append, hkey, asciiLower_append]
  | flag hword _ => exact hword

theorem eq_nil_iff (h : IsRecased item item') : item = [] ↔ item' = [] := by
  rw [← asciiLower_eq_nil_iff, h.asciiLower_eq, asciiLower_eq_nil_iff]

end IsRecased

/-- Blanks around an assignment are those in front of its key and those behind its value. -/
theorem Text.trim_assignment (key value : List Char) :
    trim (key ++ ':' :: value) = trimStart key ++ ':' :: trimEnd value := by
  have hstart : trimStart (key ++ ':' :: value) = trimStart key ++ ':' :: value := by
    rw [trimStart, List.dropWhile_append]
    split
    · next hblank => rw [trimStart, List.isEmpty_iff.mp hblank]; rfl
    · rfl
  have hend : ∀ front, trimEnd (front ++ ':' :: value) = front ++ ':' :: trimEnd value := by
    intro front
    rw [trimEnd, dropEndWhile, List.reverse_append, List.reverse_cons, List.append_assoc,
      List.dropWhile_append]
    split
    · next hblank => simp [trimEnd, dropEndWhile, List.isEmpty_iff.mp hblank]; rfl
    · simp [trimEnd, dropEndWhile]
  rw [trim, hstart, hend]

theorem IsRecased.trim {item item' : List Char} (h : IsRecased item item') :
    IsRecased (Text.trim item) (Text.trim item') := by
  cases h with
  | @assignment key key' value hkey hcolon =>
    rw [trim_assignment, trim_assignment]
    refine .assignment ?_ fun hmem => hcolon (mem_of_mem_trimStart hmem)
    rw [← trimStart_asciiLower, hkey, trimStart_asciiLower]
  | flag hword hcolon =>
    refine .flag ?_ fun hmem => hcolon (mem_of_mem_trim hmem)
    rw [← trim_asciiLower, hword, trim_asciiLower]

theorem IsRecasing.forall₂_items {text text' : List Char} (h : IsRecasing text text') :
    List.Forall₂ IsRecased (items ',' text) (items ',' text') := by
  obtain ⟨pieces', hpieces, rfl⟩ := h
  have hcut : pieces ',' .top ([','].intercalate pieces') = pieces' :=
    (pieces_eq_iff rfl).mpr <| (isCut_pieces rfl .top text).of_asciiLower_eq rfl
      Nesting.isProper_top (hpieces.imp fun _ _ hpiece => hpiece.asciiLower_eq)
  rw [items, items, hcut]
  refine List.rel_filter (fun item item' hitem => ?_) ?_
  · simpa using not_congr hitem.eq_nil_iff
  · rw [List.forall₂_map_left_iff, List.forall₂_map_right_iff]
    exact hpieces.imp fun _ _ hpiece => hpiece.trim

/-! ## Columns -/

/-- An attribute in another case is the same attribute. -/
theorem Attribute.ofItem?_of_isRecased (registry : Registry) {item item' : List Char}
    (h : IsRecased item item') : ofItem? registry item = ofItem? registry item' := by
  cases h with
  | @assignment key key' value hkey hcolon =>
    have hcolon' : ':' ∉ key' := by rwa [← mem_iff_of_asciiLower_eq hkey rfl]
    have hword : asciiLower (trim key) = asciiLower (trim key') := by
      rw [← trim_asciiLower, hkey, trim_asciiLower]
    have hpart : SizePart.ofKey? (trim key) = SizePart.ofKey? (trim key') := by
      simp only [SizePart.ofKey?, hword]
    simp only [ofItem?, cutAt?_append hcolon, cutAt?_append hcolon', ofAssignment?, hword, hpart]
  | flag hword hcolon =>
    have hcolon' := hcolon
    rw [mem_iff_of_asciiLower_eq hword rfl] at hcolon'
    rw [ofItem?, ofItem?, cutAt?_eq_none_iff.mpr hcolon, cutAt?_eq_none_iff.mpr hcolon']
    simp only [hword]

/-- A column is the same in any case of its attributes. -/
theorem ColumnDraft.ofLine_of_isRecasing (registry : Registry) (line : FieldLine) (type : FieldType)
    (size : Size) {text text' : List Char} (h : IsRecasing text text') :
    ofLine registry (line.withAttributes text) type size =
      ofLine registry (line.withAttributes text') type size := by
  have hattributes : (items ',' text).filterMap (Attribute.ofItem? registry) =
      (items ',' text').filterMap (Attribute.ofItem? registry) :=
    List.Forall₂.filterMap_eq <| h.forall₂_items.imp fun _ _ hitem =>
      Attribute.ofItem?_of_isRecased registry hitem
  exact congrArg (List.foldl apply _) hattributes

/-! ## Associations -/

namespace Association

/-- The keys that annotate an association. -/
def annotationKeys : List (List Char) :=
  [backPopulatesKey, relationshipKey]

end Association

/-- In some case of its letters the key of the item annotates an association. -/
def Annotates (item : List Char) : Prop :=
  ∃ key ∈ itemKey? item, asciiLower key ∈ Association.annotationKeys

instance : DecidablePred Annotates := fun item =>
  inferInstanceAs (Decidable (∃ key ∈ itemKey? item, asciiLower key ∈ Association.annotationKeys))

/-- The second block has the keys that annotate an association as the first one has them. -/
def KeepsAnnotations (text text' : List Char) : Prop :=
  List.Forall₂ (fun item item' => Annotates item → itemKey? item = itemKey? item')
    (items ',' text) (items ',' text')

theorem itemKey?_assignment {key : List Char} (hcolon : ':' ∉ key) (value : List Char) :
    itemKey? (key ++ ':' :: value) = some (trim key) := by
  rw [itemKey?, cutAt?_append hcolon, Option.map_some]

theorem Association.asciiLower_of_mem_annotationKeys {key : List Char}
    (h : key ∈ annotationKeys) : asciiLower key = key := by
  have hall : ∀ key ∈ annotationKeys, asciiLower key = key := by decide +kernel
  exact hall key h

/-- What is assigned to a key that annotates, if its spelling is kept. -/
theorem Association.assignment?_of_isRecased {key item item' : List Char} (hkey : key ∈ annotationKeys)
    (h : IsRecased item item') (hkept : Annotates item → itemKey? item = itemKey? item') :
    assignment? key item = assignment? key item' := by
  cases h with
  | @assignment k k' value hk hcolon =>
    have hcolon' : ':' ∉ k' := by rwa [← mem_iff_of_asciiLower_eq hk rfl]
    have hword : asciiLower (trim k) = asciiLower (trim k') := by
      rw [← trim_asciiLower, hk, trim_asciiLower]
    rw [Annotates, itemKey?_assignment hcolon, itemKey?_assignment hcolon'] at hkept
    have hsame : trim k = key ↔ trim k' = key := by
      -- Either spelling is an annotation, as the key is in lower case.
      have hannotates : asciiLower (trim k) = key → trim k = trim k' := fun heq =>
        Option.some.inj (hkept ⟨trim k, rfl, heq ▸ hkey⟩)
      have hlower := asciiLower_of_mem_annotationKeys hkey
      constructor
      · rintro rfl
        exact (hannotates hlower).symm
      · rintro rfl
        exact hannotates (hword.trans hlower)
    simp only [assignment?, cutAt?_append hcolon, cutAt?_append hcolon', hsame]
  | flag hword hcolon =>
    have hcolon' := hcolon
    rw [mem_iff_of_asciiLower_eq hword rfl] at hcolon'
    rw [assignment?, assignment?, cutAt?_eq_none_iff.mpr hcolon, cutAt?_eq_none_iff.mpr hcolon']

/-- An association is the same in any case of its attributes but for the keys that annotate it. -/
theorem Association.ofLine_of_isRecasing (line : FieldLine) (table : List Char)
    {text text' : List Char} (h : IsRecasing text text') (hkept : KeepsAnnotations text text') :
    ofLine (line.withAttributes text) table = ofLine (line.withAttributes text') table := by
  have hitems : ∀ key ∈ annotationKeys,
      List.Forall₂ (fun item item' => assignment? key item = assignment? key item')
        (items ',' text) (items ',' text') := fun key hkey =>
    (h.forall₂_items.and hkept).imp fun _ _ hitem => assignment?_of_isRecased hkey hitem.1 hitem.2
  have hback := hitems backPopulatesKey (by decide)
  have hrelated := hitems relationshipKey (by decide)
  have hannotated : (ofLine (line.withAttributes text) table).annotated =
      (ofLine (line.withAttributes text') table).annotated :=
    List.Forall₂.any_eq <| (hback.and hrelated).imp fun _ _ hitem => by rw [hitem.1, hitem.2]
  have hnames : (ofLine (line.withAttributes text) table).backPopulates =
      (ofLine (line.withAttributes text') table).backPopulates := by
    have hvalues := hback.filterMap_eq
    exact congrArg (fun values => (values.map fun value => String.ofList (unquote value)).getLast?)
      hvalues
  rw [ofLine, ofLine, Association.mk.injEq]
  exact ⟨rfl, rfl, hannotated, hnames⟩

/-! ## Recasing -/

/-- The item with another form of the letters of its key, or of its flag. -/
def recaseItem (f : Char → Char) (item : List Char) : List Char :=
  match cutAt? ':' item with
  | some (key, value) => key.map f ++ ':' :: value
  | none => item.map f

/-- The attribute block with another form of the letters of its keys and flags. -/
def recase (f : Char → Char) (text : List Char) : List Char :=
  [','].intercalate ((pieces ',' .top text).map (recaseItem f))

section

variable {f : Char → Char} (hf : ∀ c, (f c).toLower = c.toLower)

include hf

theorem asciiLower_map (s : List Char) : asciiLower s = asciiLower (s.map f) := by
  rw [asciiLower, asciiLower, List.map_map]
  exact List.map_congr_left fun c _ => (hf c).symm

theorem isRecased_recaseItem (item : List Char) : IsRecased item (recaseItem f item) := by
  rw [recaseItem]
  cases hcut : cutAt? ':' item with
  | none => exact .flag (asciiLower_map hf item) (cutAt?_eq_none_iff.mp hcut)
  | some parts =>
    obtain ⟨rfl, hcolon⟩ := eq_of_cutAt? hcut
    exact .assignment (asciiLower_map hf parts.1) hcolon

theorem isRecasing_recase (text : List Char) : IsRecasing text (recase f text) := by
  refine ⟨_, ?_, rfl⟩
  rw [List.forall₂_map_right_iff, List.forall₂_same]
  exact fun item _ => isRecased_recaseItem hf item

theorem isBlank_of_toLower_eq (c : Char) : isBlank (f c) = isBlank c := by
  rw [← isBlank_toLower, hf, isBlank_toLower]

/-- The key of an item is recased with it. -/
theorem itemKey?_recaseItem (item : List Char) :
    itemKey? (recaseItem f item) = (itemKey? item).map (·.map f) := by
  cases hcut : cutAt? ':' item with
  | none =>
    have hcolon := cutAt?_eq_none_iff.mp hcut
    rw [mem_iff_of_asciiLower_eq (asciiLower_map hf item) rfl] at hcolon
    rw [recaseItem, hcut, itemKey?, itemKey?, hcut, cutAt?_eq_none_iff.mpr hcolon]
    rfl
  | some parts =>
    have hcolon := (eq_of_cutAt? hcut).2
    rw [mem_iff_of_asciiLower_eq (asciiLower_map hf parts.1) rfl] at hcolon
    rw [recaseItem, hcut, itemKey?_assignment hcolon, trim_map (isBlank_of_toLower_eq hf),
      itemKey?, hcut]
    rfl

theorem trim_recaseItem (item : List Char) : trim (recaseItem f item) = recaseItem f (trim item) := by
  have hblank := isBlank_of_toLower_eq hf
  cases hcut : cutAt? ':' item with
  | none =>
    have hcolon : ':' ∉ trim item := fun hmem =>
      cutAt?_eq_none_iff.mp hcut (mem_of_mem_trim hmem)
    rw [recaseItem, hcut, recaseItem, cutAt?_eq_none_iff.mpr hcolon]
    exact trim_map hblank item
  | some parts =>
    obtain ⟨hitem, hcolon⟩ := eq_of_cutAt? hcut
    have hcolon : ':' ∉ trimStart parts.1 := fun hmem => hcolon (mem_of_mem_trimStart hmem)
    rw [recaseItem, hcut, hitem, trim_assignment, trim_assignment, recaseItem,
      cutAt?_append hcolon, trimStart_map hblank]

/-- The items of a recased block are its items, recased. -/
theorem items_recase (text : List Char) :
    items ',' (recase f text) = (items ',' text).map (recaseItem f) := by
  have hcut : pieces ',' .top (recase f text) = (pieces ',' .top text).map (recaseItem f) :=
    (pieces_eq_iff rfl).mpr <| (isCut_pieces rfl .top text).of_asciiLower_eq rfl
      Nesting.isProper_top <| List.forall₂_map_right_iff.mpr <| List.forall₂_same.mpr fun piece _ =>
        (isRecased_recaseItem hf piece).asciiLower_eq
  have htrim : trim ∘ recaseItem f = recaseItem f ∘ trim := funext (trim_recaseItem hf)
  rw [items, items, hcut, List.map_map, htrim, ← List.map_map, List.filter_map]
  refine congrArg (List.map _) (List.filter_congr fun item _ => ?_)
  rw [Function.comp_apply, Bool.eq_iff_iff]
  simpa using not_congr (isRecased_recaseItem hf item).eq_nil_iff.symm

end

/-- An association is annotated if some item has a key that annotates, as it is written. -/
theorem Association.annotated_withAttributes_iff {line : FieldLine} {table text : List Char} :
    (ofLine (line.withAttributes text) table).annotated = true ↔
      ∃ item ∈ items ',' text, ∃ key ∈ itemKey? item, key ∈ annotationKeys := by
  have hitems : (line.withAttributes text).items = items ',' text := rfl
  have hkey : ∀ word : String, (line.withAttributes text).hasKey word = true ↔
      ∃ item ∈ items ',' text, itemKey? item = some word.toList := by
    simp [FieldLine.hasKey, hitems]
  rw [annotated_ofLine, Bool.or_eq_true, hkey, hkey]
  simp only [annotationKeys, List.mem_cons, List.not_mem_nil, or_false, Option.mem_def]
  constructor
  · rintro (⟨item, hitem, hkey⟩ | ⟨item, hitem, hkey⟩)
    · exact ⟨item, hitem, _, hkey, .inr rfl⟩
    · exact ⟨item, hitem, _, hkey, .inl rfl⟩
  · rintro ⟨item, hitem, _, hkey, rfl | rfl⟩
    · exact .inr ⟨item, hitem, hkey⟩
    · exact .inl ⟨item, hitem, hkey⟩

/-- In lower case every annotation counts. -/
theorem Association.annotated_recase_toLower (line : FieldLine) (table : List Char)
    {text item : List Char} (hitem : item ∈ items ',' text) (h : Annotates item) :
    (ofLine (line.withAttributes (recase Char.toLower text)) table).annotated = true := by
  obtain ⟨key, hkey, hannotates⟩ := h
  refine annotated_withAttributes_iff.mpr ⟨recaseItem Char.toLower item, ?_, asciiLower key, ?_,
    hannotates⟩
  · rw [items_recase toLower_toLower]
    exact List.mem_map_of_mem hitem
  · rw [itemKey?_recaseItem toLower_toLower, Option.mem_def.mp hkey]
    rfl

/-- In upper case none does. -/
theorem Association.annotated_recase_toUpper (line : FieldLine) (table text : List Char) :
    (ofLine (line.withAttributes (recase Char.toUpper text)) table).annotated = false := by
  rw [Bool.eq_false_iff, ne_eq, annotated_withAttributes_iff, items_recase toLower_toUpper]
  rintro ⟨_, hitem, _, hkey, hannotates⟩
  obtain ⟨item, -, rfl⟩ := List.mem_map.mp hitem
  rw [itemKey?_recaseItem toLower_toUpper, Option.mem_def, Option.map_eq_some_iff] at hkey
  obtain ⟨key, -, rfl⟩ := hkey
  -- The keys that annotate have letters in lower case.
  have hlow : ∀ key ∈ annotationKeys, key.any Char.isLower = true := by decide
  obtain ⟨_, hc, hlower⟩ := List.any_eq_true.mp (hlow _ hannotates)
  obtain ⟨c, -, rfl⟩ := List.mem_map.mp hc
  rw [isLower_toUpper] at hlower
  cases hlower

/-! ## Lines in any case -/

/-- The lines are drafted alike in every table. -/
def FieldLine.DraftedAlike (line line' : FieldLine) : Prop :=
  ∀ (registry : Registry) (entry : TableEntry) (block : TableBlock) (before after : List FieldLine),
    TableDraft.ofBlock registry entry { block with fields := before ++ line :: after } =
      TableDraft.ofBlock registry entry { block with fields := before ++ line' :: after }

/-- The draft without what annotations say of its associations. -/
def TableDraft.unannotated (draft : TableDraft) : TableDraft :=
  { draft with associations := draft.associations.map fun a =>
      { a with annotated := false, backPopulates := none } }

/-- The lines are drafted alike in every table, but for the annotations of associations. -/
def FieldLine.LinkedAlike (line line' : FieldLine) : Prop :=
  ∀ (registry : Registry) (entry : TableEntry) (block : TableBlock) (before after : List FieldLine),
    (TableDraft.ofBlock registry entry
        { block with fields := before ++ line :: after }).unannotated =
      (TableDraft.ofBlock registry entry
        { block with fields := before ++ line' :: after }).unannotated

namespace FieldLine

variable {line line' : FieldLine}

theorem DraftedAlike.of_member_eq
    (h : ∀ registry, Member.ofLine registry line = Member.ofLine registry line') :
    line.DraftedAlike line' := by
  intro registry entry block before after
  simp only [TableDraft.ofBlock, List.map_append, List.map_cons, h]

theorem DraftedAlike.symm (h : line.DraftedAlike line') : line'.DraftedAlike line :=
  fun registry entry block before after => (h registry entry block before after).symm

theorem DraftedAlike.trans {line'' : FieldLine} (h : line.DraftedAlike line')
    (h' : line'.DraftedAlike line'') : line.DraftedAlike line'' :=
  fun registry entry block before after =>
    (h registry entry block before after).trans (h' registry entry block before after)

theorem DraftedAlike.linkedAlike (h : line.DraftedAlike line') : line.LinkedAlike line' :=
  fun registry entry block before after =>
    congrArg TableDraft.unannotated (h registry entry block before after)

/-- Associations differ in what annotations say of them only, if they have one name and one table. -/
theorem LinkedAlike.of_member_eq {a a' : Association}
    (h : ∀ registry, Member.ofLine registry line = .association a)
    (h' : ∀ registry, Member.ofLine registry line' = .association a')
    (hname : a.fieldName = a'.fieldName) (htarget : a.target = a'.target) :
    line.LinkedAlike line' := by
  intro registry entry block before after
  simp [TableDraft.ofBlock, TableDraft.ofMembers, TableDraft.unannotated, h, h', hname, htarget,
    Member.association?, Member.column?, Member.link?, List.filterMap_cons]

/-- Lines that are drafted alike annotate their associations alike. -/
theorem DraftedAlike.annotated_eq {a a' : Association} (h : line.DraftedAlike line')
    (hline : ∀ registry, Member.ofLine registry line = .association a)
    (hline' : ∀ registry, Member.ofLine registry line' = .association a') :
    a.annotated = a'.annotated := by
  -- In a block of its own the line has the only association.
  have hdrafts := congrArg TableDraft.associations
    (h ⟨[]⟩ ⟨0, "", "", 0⟩ ⟨[], 0, [], []⟩ [] [])
  simp only [TableDraft.ofBlock, TableDraft.ofMembers, List.nil_append, List.map_cons, List.map_nil,
    hline, hline'] at hdrafts
  exact congrArg Association.annotated (List.singleton_inj.mp hdrafts)

end FieldLine

/-- The attributes of a line do not decide whether it declares a column or an association. -/
theorem Member.ofLine_withAttributes (line : FieldLine) :
    (line.isColumn = false ∧ ∃ table, ∀ registry text,
      ofLine registry (line.withAttributes text) =
        association (Association.ofLine (line.withAttributes text) table)) ∨
    (line.isColumn = true ∧ ∃ type size, ∀ registry text,
      ofLine registry (line.withAttributes text) =
        column (ColumnDraft.ofLine registry (line.withAttributes text) type size)) := by
  rw [FieldLine.isColumn]
  cases htable : TypeSpec.associationTable? line.type with
  | some table =>
    have htype : TypeSpec.ofToken line.type = .rowsOf table := by rw [TypeSpec.ofToken, htable]
    refine .inl ⟨rfl, table, fun registry text => ?_⟩
    rw [ofLine, show TypeSpec.ofToken (line.withAttributes text).type = _ from htype]
  | none =>
    obtain ⟨type, size, htype⟩ :
        ∃ type size, TypeSpec.ofToken line.type = .column type size := by
      rw [TypeSpec.ofToken, htable]
      exact ⟨_, _, rfl⟩
    refine .inr ⟨rfl, type, size, fun registry text => ?_⟩
    rw [ofLine, show TypeSpec.ofToken (line.withAttributes text).type = _ from htype]

section

variable (line : FieldLine) {text text' : List Char} (h : IsRecasing text text')

include h

/-- A line can be written in another case if it declares a column, or else if the keys that annotate
    its association are kept. -/
theorem draftedAlike_of_isRecasing (hkept : line.isColumn = true ∨ KeepsAnnotations text text') :
    (line.withAttributes text).DraftedAlike (line.withAttributes text') := by
  refine .of_member_eq fun registry => ?_
  rcases Member.ofLine_withAttributes line with ⟨hrows, table, hmember⟩ | ⟨-, type, size, hmember⟩
  · have hkept := hkept.resolve_left (by simp [hrows])
    rw [hmember, hmember, Association.ofLine_of_isRecasing line table h hkept]
  · rw [hmember, hmember, ColumnDraft.ofLine_of_isRecasing registry line type size h]

/-- In any case a line declares the same column, or the same association but for its annotations. -/
theorem linkedAlike_of_isRecasing :
    (line.withAttributes text).LinkedAlike (line.withAttributes text') := by
  rcases Member.ofLine_withAttributes line with ⟨-, table, hmember⟩ | ⟨hcolumn, -⟩
  · exact .of_member_eq (hmember · text) (hmember · text') rfl rfl
  · exact (draftedAlike_of_isRecasing line h (.inl hcolumn)).linkedAlike

end

/-- A block without keys that annotate has none to keep. -/
theorem KeepsAnnotations.of_not_annotates {text text' : List Char} (h : IsRecasing text text')
    (hnone : ∀ item ∈ items ',' text, ¬ Annotates item) : KeepsAnnotations text text' :=
  h.forall₂_items.imp_of_mem_left fun item hitem _ _ hannotates =>
    absurd hannotates (hnone item hitem)

/-- Where a key annotates in some case of its letters, one case and another make two drafts. -/
theorem not_draftedAlike_recase {line : FieldLine} (hrows : line.isColumn = false)
    {text item : List Char} (hitem : item ∈ items ',' text) (hannotates : Annotates item) :
    ¬ (line.withAttributes (recase Char.toLower text)).DraftedAlike
      (line.withAttributes (recase Char.toUpper text)) := by
  intro h
  rcases Member.ofLine_withAttributes line with ⟨-, table, hmember⟩ | ⟨hcolumn, -⟩
  · have hannotated := h.annotated_eq (hmember · _) (hmember · _)
    rw [Association.annotated_recase_toLower line table hitem hannotates,
      Association.annotated_recase_toUpper] at hannotated
    cases hannotated
  · rw [hrows] at hcolumn
    cases hcolumn

/-- Which lines may be written in any case: those of columns, and those without a key that annotates
    in some case of its letters. Any other line may be recased too, as long as such keys are kept, and
    whatever becomes of these, only what they say of the association is lost. -/
theorem draftedAlike_recasing_iff (line : FieldLine) (text : List Char) :
    ((∀ text', IsRecasing text text' →
        (line.withAttributes text).DraftedAlike (line.withAttributes text')) ↔
      line.isColumn = true ∨ ∀ item ∈ items ',' text, ¬ Annotates item) ∧
    ∀ text', IsRecasing text text' →
      (KeepsAnnotations text text' →
        (line.withAttributes text).DraftedAlike (line.withAttributes text')) ∧
      (line.withAttributes text).LinkedAlike (line.withAttributes text') := by
  refine ⟨⟨fun h => ?_, fun h text' hrecasing => ?_⟩, fun text' hrecasing =>
    ⟨fun hkept => draftedAlike_of_isRecasing line hrecasing (.inr hkept),
      linkedAlike_of_isRecasing line hrecasing⟩⟩
  · rw [or_iff_not_imp_left, Bool.not_eq_true]
    intro hrows item hitem hannotates
    have hlower := h _ (isRecasing_recase toLower_toLower text)
    have hupper := h _ (isRecasing_recase toLower_toUpper text)
    exact not_draftedAlike_recase hrows hitem hannotates (hlower.symm.trans hupper)
  · exact draftedAlike_of_isRecasing line hrecasing <|
      h.imp_right (KeepsAnnotations.of_not_annotates hrecasing)

/-- The legs of a port. -/
def portLegs : FieldLine :=
  { line := 3, name := "legs".toList, type := "Leg[]".toList, attributes := none }

/-- Attributes of the legs of a port: a key that no one reads, and one that annotates. -/
def notedAttributes : List Char :=
  "NOTE: a, back_populates: 'port'".toList

/-- The same with another spelling of the key that no one reads. -/
def recasedAttributes : List Char :=
  "note: a, back_populates: 'port'".toList

theorem draftedAlike_recasing_iff_portLegs :
    IsRecasing notedAttributes recasedAttributes ∧
      (portLegs.withAttributes notedAttributes).DraftedAlike
        (portLegs.withAttributes recasedAttributes) ∧
      ¬ ∀ text', IsRecasing notedAttributes text' →
        (portLegs.withAttributes notedAttributes).DraftedAlike (portLegs.withAttributes text') := by
  have hpieces : pieces ',' .top notedAttributes =
      ["NOTE: a".toList, " back_populates: 'port'".toList] := by
    decide +kernel
  have hitems : items ',' notedAttributes = ["NOTE: a".toList, "back_populates: 'port'".toList] ∧
      items ',' recasedAttributes = ["note: a".toList, "back_populates: 'port'".toList] := by
    decide +kernel
  have hannotates : ¬ Annotates "NOTE: a".toList ∧
      Annotates "back_populates: 'port'".toList := by
    decide +kernel
  have hrecasing : IsRecasing notedAttributes recasedAttributes := by
    refine ⟨["note: a".toList, " back_populates: 'port'".toList], ?_, by decide +kernel⟩
    rw [hpieces]
    exact .cons (@IsRecased.assignment "NOTE".toList "note".toList " a".toList (by decide) (by decide))
      (.cons (@IsRecased.assignment " back_populates".toList _ " 'port'".toList rfl (by decide)) .nil)
  have hkept : KeepsAnnotations notedAttributes recasedAttributes := by
    rw [KeepsAnnotations, hitems.1, hitems.2]
    exact .cons (absurd · hannotates.1) (.cons (fun _ => rfl) .nil)
  obtain ⟨halways, hkeeping⟩ := draftedAlike_recasing_iff portLegs notedAttributes
  refine ⟨hrecasing, (hkeeping _ hrecasing).1 hkept, fun h => ?_⟩
  rcases halways.mp h with hcolumn | hnone
  · exact absurd hcolumn (by decide)
  · rw [hitems.1] at hnone
    exact hnone _ (List.mem_cons_of_mem _ List.mem_cons_self) hannotates.2

/-- A source with a port that has legs. -/
def portWithLegs (attributes : String) : String :=
  "table Port \x7b\nid Int [pk]\nlegs Leg[] [" ++ attributes ++ "]\n\x7d"

/-- The key of an association in another case leaves it a mere link. -/
theorem associations_portWithLegs :
    IsRecasing "back_populates: 'port'".toList "Back_Populates: 'port'".toList ∧
      (TableDraft.ofSource (portWithLegs "back_populates: 'port'")).map (·.associations) =
        [[{ fieldName := "legs", target := "Leg", annotated := true, backPopulates := some "port" }]] ∧
      (TableDraft.ofSource (portWithLegs "Back_Populates: 'port'")).map (·.associations) =
        [[{ fieldName := "legs", target := "Leg", annotated := false, backPopulates := none }]] := by
  refine ⟨⟨["Back_Populates: 'port'".toList], ?_, by decide +kernel⟩, by decide +kernel,
    by decide +kernel⟩
  have hpieces : pieces ',' .top "back_populates: 'port'".toList =
      ["back_populates: 'port'".toList] := by
    decide +kernel
  rw [hpieces]
  exact .cons (@IsRecased.assignment "back_populates".toList "Back_Populates".toList
    " 'port'".toList (by decide) (by decide)) .nil

end SchemaLang
