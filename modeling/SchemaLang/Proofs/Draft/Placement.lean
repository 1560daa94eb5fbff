import SchemaLang.Proofs.Draft.Locality
import SchemaLang.Proofs.Source.Names

/-!
# Lines in their places

What a field line makes of its table depends on where it stands: braces, headers and other
declarations decide which table owns it. Here a line is placed in a source, behind the header of its
table and with declarations only in between, and followed from there to the draft and the model of the
table.

## Key results

- `TableBlock.getElem?_ofStatements`: which block a header starts
- `StandsIn.exists_block`: a field line is found in the block of its table
- `StandsIn.yieldsColumn`: the column that it declares is found in the draft and the model
- `StandsIn.yieldsColumn_items`: what the items of its group say is applied to the column in order
-/

namespace SchemaLang

/-! ## Blocks -/

namespace TableBlock

/-- A header starts the block that comes behind those of the headers in front of it. -/
theorem getElem?_ofStatements (front : List Statement) (line : Nat) (name : List Char)
    (rest : List Statement) :
    (ofStatements (front ++ .table line name :: rest))[(front.filterMap Statement.header?).length]? =
      some (ofDeclarations line name rest) := by
  induction front with
  | nil => rfl
  | cons statement front ih =>
    cases statement with
    | table | field | index | close => exact ih

/-- A table owns a field behind declarations, in the place behind their fields. -/
theorem getElem?_fields_ofDeclarations (line : Nat) (name : List Char) {declared : List Statement}
    (h : ∀ statement ∈ declared, statement.isDeclaration = true) (field : FieldLine)
    (rest : List Statement) :
    (ofDeclarations line name (declared ++ .field field :: rest)).fields[
      (declared.filterMap Statement.field?).length]? = some field := by
  rw [ofDeclarations, List.takeWhile_append_of_pos h, List.takeWhile_cons_of_pos rfl]
  simp [Statement.field?]

end TableBlock

/-! ## Places -/

/-- The line stands in table `i` of the source, in front of its field `j`: of the lines before it, the
    last header is that of the table, and what follows the header are declarations, `j` fields among
    them. Tables and fields are counted from zero. -/
def StandsIn (source : String) (i j : Nat) (line : List Char) : Prop :=
  ∃ before after front name declared,
    Text.lines source.toList = before ++ line :: after ∧
      Statement.ofTexts before = front ++ .table 0 name :: declared ∧
      (∀ statement ∈ declared, statement.isDeclaration = true) ∧
      (front.filterMap Statement.header?).length = i ∧
      (declared.filterMap Statement.field?).length = j

/-- Field `j` of table `i` is the column, in the draft of the table and in its model. -/
structure YieldsColumn (source : String) (i j : Nat) (c : ColumnDraft) : Prop where
  member : ∃ entry block,
    (TableDraft.ofSource source)[i]? = some (.ofBlock (.ofSource source) entry block) ∧
      (block.fields.map (Member.ofLine (.ofSource source)))[j]? = some (.column c)
  draft : ∃ d, (TableDraft.ofSource source)[i]? = some d ∧ c.field ∈ d.fields ∧
    ∀ naming ∈ c.naming?, naming ∈ d.namings
  model : ∀ s, compile source = .ok s → ∃ m, s.models[i]? = some m ∧ c.field ∈ m.fields

section

variable {source : String} {i j : Nat} {line : List Char} {declared : FieldLine}

/-- A line stands where the lines in front of it say. -/
theorem StandsIn.of_getElem? (n : Nat) (front : List Statement) (name : List Char)
    (owned : List Statement)
    (h : (Text.lines source.toList)[n]? = some line ∧
      Statement.ofTexts ((Text.lines source.toList).take n) = front ++ .table 0 name :: owned ∧
      (∀ statement ∈ owned, statement.isDeclaration = true) ∧
      (front.filterMap Statement.header?).length = i ∧
      (owned.filterMap Statement.field?).length = j) :
    StandsIn source i j line :=
  ⟨_, _, front, name, owned, List.eq_take_append_cons_drop h.1, h.2⟩

/-- A field line is found in the block of its table. -/
theorem StandsIn.exists_block (h : StandsIn source i j line)
    (hline : Statement.ofTexts [line] = [.field declared]) :
    ∃ block field, (TableBlock.ofSource source)[i]? = some block ∧
      block.fields[j]? = some field ∧ field.unnumbered = declared := by
  obtain ⟨before, after, front, name, owned, hlines, hbefore, howned, rfl, rfl⟩ := h
  have hstatements : (Statement.ofSource source).map (·.unnumbered) =
      front ++ .table 0 name :: (owned ++ .field declared :: Statement.ofTexts after) := by
    rw [Statement.map_unnumbered_ofSource, hlines, Statement.ofTexts_append, ← List.singleton_append,
      Statement.ofTexts_append, hline, hbefore]
    simp
  have hblock := congrArg (·[(front.filterMap Statement.header?).length]?)
    (TableBlock.map_unnumbered_ofStatements (Statement.ofSource source))
  simp only [hstatements, TableBlock.getElem?_ofStatements, List.getElem?_map] at hblock
  obtain ⟨block, hblock, hunnumbered⟩ := Option.map_eq_some_iff.mp hblock
  have hfield := congrArg (·.fields[(owned.filterMap Statement.field?).length]?) hunnumbered
  simp only [TableBlock.getElem?_fields_ofDeclarations _ _ howned, TableBlock.unnumbered,
    List.getElem?_map] at hfield
  obtain ⟨field, hfield, hdeclared⟩ := Option.map_eq_some_iff.mp hfield
  exact ⟨block, field, hblock, hfield, hdeclared⟩

/-- The column that a field line declares is found in the draft and in the model of its table. -/
theorem StandsIn.yieldsColumn (h : StandsIn source i j line)
    (hline : Statement.ofTexts [line] = [.field declared]) {c : ColumnDraft}
    (hmember : Member.ofLine (.ofSource source) declared = .column c) :
    YieldsColumn source i j c := by
  obtain ⟨block, field, hblock, hfield, rfl⟩ := h.exists_block hline
  obtain ⟨entry, hdraft⟩ := TableDraft.exists_of_block hblock
  -- The number of its line makes no difference to a member.
  have hown : Member.ofLine (.ofSource source) field = .column c :=
    (Member.ofLine_unnumbered _ field).symm.trans
      ((Member.ofLine_unnumbered _ field.unnumbered).trans hmember)
  have hmembers : (block.fields.map (Member.ofLine (.ofSource source)))[j]? = some (.column c) := by
    rw [List.getElem?_map, hfield, Option.map_some, hown]
  have hcolumn : c ∈ (block.fields.map (Member.ofLine (.ofSource source))).filterMap
      Member.column? :=
    List.mem_filterMap.mpr ⟨_, List.mem_of_getElem? hmembers, rfl⟩
  have hfields : c.field ∈ (TableDraft.ofBlock (.ofSource source) entry block).fields :=
    List.mem_map_of_mem (f := ColumnDraft.field) hcolumn
  have hnamings : ∀ naming ∈ c.naming?,
      naming ∈ (TableDraft.ofBlock (.ofSource source) entry block).namings := by
    intro naming hnaming
    rw [TableDraft.ofBlock, TableDraft.ofMembers]
    exact List.mem_filterMap.mpr ⟨c, hcolumn, hnaming⟩
  constructor
  case member => exact ⟨entry, block, hdraft, hmembers⟩
  case draft => exact ⟨_, hdraft, hfields, hnamings⟩
  case model =>
    intro s hs
    obtain ⟨m, _, b, hm, hdraft', -, rfl⟩ := exists_model_of_block hs hblock
    rw [← Option.some.inj (hdraft.symm.trans hdraft')] at hm
    exact ⟨_, hm, hfields⟩

/-- So is that of a field that is written to a line by itself, whatever blanks stand in front of it. -/
theorem StandsIn.yieldsColumn_write {indent type : List Char} {name : String}
    {attributes : Option (List Char)} {columnType : FieldType} {size : Size}
    (h : StandsIn source i j
      (indent ++ Token.write (Declaration.field name.toList type attributes).tokens))
    (hindent : indent.all Text.isAsciiBlank = true) (hname : IsFieldName name)
    (htype : (Token.word type).IsPlain) (hspec : TypeSpec.ofToken type = .column columnType size)
    (hattributes : ∀ inner ∈ attributes, (Token.group inner).IsPlain) :
    YieldsColumn source i j (.ofLine (.ofSource source)
      { line := 0, name := name.toList, type, attributes } columnType size) :=
  h.yieldsColumn
    (WrittenTable.ofTexts_write_declaration hindent
      (Declaration.isReadable_field hname htype hattributes))
    (by rw [Member.ofLine, hspec])

/-- Without a group it has its name, its type and its size. -/
theorem StandsIn.yieldsColumn_bare {indent type : List Char} {name : String}
    {columnType : FieldType} {size : Size}
    (h : StandsIn source i j
      (indent ++ Token.write (Declaration.field name.toList type none).tokens))
    (hindent : indent.all Text.isAsciiBlank = true) (hname : IsFieldName name)
    (htype : (Token.word type).IsPlain) (hspec : TypeSpec.ofToken type = .column columnType size) :
    YieldsColumn source i j { field := { name, type := columnType, size } } := by
  have hyields := h.yieldsColumn_write hindent hname htype hspec nofun
  simpa [ColumnDraft.ofLine, FieldLine.items] using hyields

/-- What the items of its group say is applied to it in order. -/
theorem StandsIn.yieldsColumn_items {indent type : List Char} {name : String}
    {texts : List (List Char)} {columnType : FieldType} {size : Size}
    (h : StandsIn source i j (indent ++ Token.write
      (Declaration.field name.toList type (some ([',', ' '].intercalate texts))).tokens))
    (hindent : indent.all Text.isAsciiBlank = true) (hname : IsFieldName name)
    (htype : (Token.word type).IsPlain) (hspec : TypeSpec.ofToken type = .column columnType size)
    (htexts : ∀ s ∈ texts, IsItem ',' s) :
    YieldsColumn source i j
      ((texts.filterMap (Attribute.ofItem? (.ofSource source))).foldl ColumnDraft.apply
        { field := { name, type := columnType, size } }) := by
  have hyields := h.yieldsColumn_write hindent hname htype hspec
    (by simpa using Token.isPlain_group htexts)
  have hitems : items ',' ([',', ' '].intercalate texts) = texts :=
    items_intercalate (by decide) (by decide) htexts
  simpa [ColumnDraft.ofLine, FieldLine.items, hitems] using hyields

end

end SchemaLang
