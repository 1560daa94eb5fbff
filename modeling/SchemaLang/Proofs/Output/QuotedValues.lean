import SchemaLang.Proofs.Draft.Declarations
import SchemaLang.Proofs.Draft.Placement
import SchemaLang.Proofs.Output.References
import SchemaLang.Proofs.Source.Names

/-!
# Quoted values

A value in double quotes passes five scanners on its way out of a source: the line is cut into tokens
and the group at its commas, each item behind its key, the quotes are taken off, and what was between
them is written to a literal of a generated module. Each scanner has a notion of quotes, brackets and
blanks of its own. Here a value is followed from its line to the names that a foreign key asks for,
and to the default of a column in its module.

## Key results

- `Literal.read?_quoteChars`: a literal reads back as the text that it was made of
- `yieldsColumn_namingLine`: the names in the line of a foreign key are those that are asked for
- `yieldsColumn_defaultLine`: the default in a line is that of the column, with its quotes
- `quotedValues_kept`: quoted values reach the output as they are
-/

namespace SchemaLang

/-! ## Reading literals -/

namespace Literal

/-- Reads a literal behind the quote that opens it, up to the first quote without a backslash in front
    of it: the text, in which a backslash stands for the character behind it, and what follows the
    quote. -/
def readBody? : List Char → Option (List Char × List Char)
  | [] => none
  | '\'' :: rest => some ([], rest)
  | '\\' :: c :: rest => (readBody? rest).map fun (body, left) => (c :: body, left)
  | ['\\'] => none
  | c :: rest => (readBody? rest).map fun (body, left) => (c :: body, left)

/-- Reads a literal in single quotes: its text, and what follows it. -/
def read? : List Char → Option (List Char × List Char)
  | '\'' :: rest => readBody? rest
  | _ => none

/-- A character is read as itself, escaped or not. -/
theorem readBody?_escapeChar (c : Char) (rest : List Char) :
    readBody? (escapeChar c ++ rest) =
      (readBody? rest).map fun (body, left) => (c :: body, left) := by
  unfold escapeChar
  split
  · next hbackslash =>
    rw [hbackslash]
    rfl
  · next hbackslash =>
    split
    · next hquote =>
      rw [hquote]
      rfl
    · next hquote =>
      rw [List.singleton_append, readBody?]
      · exact hquote
      · exact fun _ _ h => absurd h hbackslash
      · exact fun h => absurd h hbackslash

/-- A literal reads back as the text that it was made of, with nothing behind it. -/
theorem read?_quoteChars (s : List Char) : read? (quoteChars s) = some (s, []) := by
  show readBody? (s.flatMap escapeChar ++ ['\'']) = some (s, [])
  induction s with
  | nil => rfl
  | cons c s ih =>
    rw [List.flatMap_cons, List.append_assoc, readBody?_escapeChar, ih]
    rfl

/-- A quoted default is the literal of what stands between its quotes. -/
theorem ofDefault_quoted (type : FieldType) (s : String) :
    ofDefault type (String.ofList ('"' :: (s.toList ++ ['"']))) = quote s := by
  simp [ofDefault, Text.trim_quoted, Text.quotedBody?, Text.stripQuotes?_quoted, quote]

end Literal

/-! ## Lines with quoted values -/

/-- A text that may stand between double quotes on a line. -/
def IsQuotable (s : String) : Prop :=
  '"' ∉ s.toList ∧ Text.IsOneLine s.toList

instance (s : String) : Decidable (IsQuotable s) :=
  inferInstanceAs (Decidable (_ ∧ _))

/-- The line of a foreign key that asks for names. -/
def namingLine (field table column relationship backPopulates : String) : String :=
  field ++ " Int [ref: > " ++ table ++ "." ++ column ++ ", as: \"" ++ relationship ++
    "\", back_populates: \"" ++ backPopulates ++ "\"]"

/-- The line of a text column with a default. -/
def defaultLine (field value : String) : String :=
  field ++ " String [default: \"" ++ value ++ "\"]"

/-- A text in double quotes. -/
def quotedText (s : String) : List Char :=
  '"' :: (s.toList ++ ['"'])

/-- A column of a table, as a line references it. -/
def referenceText (table column : String) : List Char :=
  '>' :: ' ' :: (table.toList ++ '.' :: column.toList)

/-- The items of a naming line. -/
def namingItems (table column relationship backPopulates : String) : List (List Char) :=
  [writeAssignment "ref".toList (referenceText table column),
    writeAssignment "as".toList (quotedText relationship),
    writeAssignment "back_populates".toList (quotedText backPopulates)]

/-- The item of a default line. -/
def defaultItems (value : String) : List (List Char) :=
  [writeAssignment "default".toList (quotedText value)]

theorem toList_namingLine (field table column relationship backPopulates : String) :
    (namingLine field table column relationship backPopulates).toList =
      Token.write (Declaration.field field.toList "Int".toList
        (some ([',', ' '].intercalate
          (namingItems table column relationship backPopulates)))).tokens := by
  simp only [namingLine, Token.write, Declaration.tokens, Token.text, namingItems, writeAssignment,
    referenceText, quotedText, List.intercalate_cons_cons, List.intercalate_singleton,
    String.toList_append, List.append_assoc, List.cons_append, List.nil_append, String.reduceToList]

theorem toList_defaultLine (field value : String) :
    (defaultLine field value).toList =
      Token.write (Declaration.field field.toList "String".toList
        (some ([',', ' '].intercalate (defaultItems value)))).tokens := by
  simp only [defaultLine, Token.write, Declaration.tokens, Token.text, defaultItems, writeAssignment,
    quotedText, List.intercalate_singleton, String.toList_append, List.append_assoc,
    List.cons_append, List.nil_append, String.reduceToList]

/-! ## References and values -/

section

variable {table column : String}

theorem isItem_target (htable : Text.IsName table.toList) (hcolumn : Text.IsName column.toList) :
    IsItem ',' (table.toList ++ '.' :: column.toList) := by
  have hname := IsItem.of_isName htable
  have htarget : IsItem ',' (table.toList ++ ['.'] ++ column.toList) :=
    .append (hname.level.append (.of_all rfl)) (Text.isBlank_head_of_isName htable _)
      (Text.isOneLine_append.mpr ⟨hname.oneLine, by decide⟩) (.of_isName hcolumn)
  rwa [List.append_assoc] at htarget

theorem isItem_referenceText (htable : Text.IsName table.toList)
    (hcolumn : Text.IsName column.toList) : IsItem ',' (referenceText table column) := by
  have hreference : IsItem ',' (['>', ' '] ++ (table.toList ++ '.' :: column.toList)) :=
    .append (.of_all rfl) (by rintro _ ⟨⟩; rfl) (by decide) (isItem_target htable hcolumn)
  exact hreference

/-- A reference to a column of a table is read as one, be the table declared or not. -/
theorem Attribute.exists_readReference? (registry : Registry) (htable : Text.IsName table.toList)
    (hcolumn : Text.IsName column.toList) :
    ∃ key, readReference? registry (' ' :: referenceText table column) = some key := by
  have htrimmed : Text.trim (' ' :: (table.toList ++ '.' :: column.toList)) =
      table.toList ++ '.' :: column.toList :=
    (Text.trim_blank_cons rfl _).trans (isItem_target htable hcolumn).trimmed
  have hcut : Text.cutAt? '.' (table.toList ++ '.' :: column.toList) =
      some (table.toList, column.toList) :=
    Text.cutAt?_append (fun hc => absurd (htable.2 _ hc) (by decide)) _
  rw [readReference?, Text.trim_blank_cons rfl, (isItem_referenceText htable hcolumn).trimmed,
    referenceText]
  simp only [htrimmed, hcut]
  exact ⟨_, rfl⟩

/-- The item with a key assigns to it. -/
theorem Attribute.ofItem?_writeAssignment (registry : Registry) {key : List Char}
    (h : Text.IsName key) (value : List Char) :
    ofItem? registry (writeAssignment key value) = ofAssignment? registry key (' ' :: value) := by
  rw [ofItem?, cutAt?_writeAssignment h]

/-- A quoted value is what stands between its quotes. -/
theorem unquote_quotedText (s : String) : Text.unquote (' ' :: quotedText s) = s.toList := by
  rw [Text.unquote_blank_cons rfl, quotedText, Text.unquote_quoted]

end

/-! ## Columns with quoted values -/

section

variable {f table column s t : String} {indent : List Char} {source : String} {i j : Nat}

/-- The items of a naming line can stand in brackets. -/
theorem isItem_of_mem_namingItems (htable : Text.IsName table.toList)
    (hcolumn : Text.IsName column.toList) (hs : IsQuotable s) (ht : IsQuotable t) :
    ∀ text ∈ namingItems table column s t, IsItem ',' text := by
  simp only [namingItems, List.forall_mem_cons]
  exact ⟨.assignment (by decide +kernel) (isItem_referenceText htable hcolumn),
    .assignment (by decide +kernel) (.of_quoted hs.1 hs.2),
    .assignment (by decide +kernel) (.of_quoted ht.1 ht.2), nofun⟩

/-- The names in the line of a foreign key are those that it asks for. -/
theorem yieldsColumn_namingLine (hf : IsFieldName f) (htable : Text.IsName table.toList)
    (hcolumn : Text.IsName column.toList) (hs : IsQuotable s) (ht : IsQuotable t)
    (hindent : indent.all Text.isAsciiBlank = true)
    (h : StandsIn source i j (indent ++ (namingLine f table column s t).toList)) :
    ∃ key, YieldsColumn source i j
      { field := { name := f, type := .integer, foreignKey := some key }
        relationshipName := some s
        backPopulates := some t } ∧ '.' ∈ key.toList := by
  obtain ⟨key, hkey⟩ := Attribute.exists_readReference? (.ofSource source) htable hcolumn
  refine ⟨key, ?_, Attribute.dot_mem_of_readReference? hkey⟩
  have href : Attribute.ofItem? (.ofSource source)
      (writeAssignment "ref".toList (referenceText table column)) = some (.reference (some key)) := by
    rw [Attribute.ofItem?_writeAssignment _ (by decide +kernel), ← hkey]
    rfl
  have has : Attribute.ofItem? (.ofSource source)
      (writeAssignment "as".toList (quotedText s)) = some (.relationshipName s) := by
    rw [Attribute.ofItem?_writeAssignment _ (by decide +kernel)]
    show some (Attribute.relationshipName (String.ofList (Text.unquote (' ' :: quotedText s)))) = _
    rw [unquote_quotedText, String.ofList_toList]
  have hback : Attribute.ofItem? (.ofSource source)
      (writeAssignment "back_populates".toList (quotedText t)) = some (.backPopulates t) := by
    rw [Attribute.ofItem?_writeAssignment _ (by decide +kernel)]
    show some (Attribute.backPopulates (String.ofList (Text.unquote (' ' :: quotedText t)))) = _
    rw [unquote_quotedText, String.ofList_toList]
  rw [toList_namingLine] at h
  have hyields := h.yieldsColumn_items hindent hf (by decide +kernel)
    (show TypeSpec.ofToken "Int".toList = .column .integer {} by decide +kernel)
    (isItem_of_mem_namingItems htable hcolumn hs ht)
  rwa [namingItems, List.filterMap_cons_some href, List.filterMap_cons_some has,
    List.filterMap_cons_some hback] at hyields

/-- The default in a line is that of the column, with its quotes. -/
theorem yieldsColumn_defaultLine (hf : IsFieldName f) (hs : IsQuotable s)
    (hindent : indent.all Text.isAsciiBlank = true)
    (h : StandsIn source i j (indent ++ (defaultLine f s).toList)) :
    YieldsColumn source i j { field :=
      { name := f, type := .string, defaultLiteral := some (String.ofList (quotedText s)) } } := by
  have hdefault : Attribute.ofItem? (.ofSource source)
      (writeAssignment "default".toList (quotedText s)) =
        some (.default (String.ofList (quotedText s))) := by
    rw [Attribute.ofItem?_writeAssignment _ (by decide +kernel)]
    show some (Attribute.default (String.ofList (Text.trim (' ' :: quotedText s)))) = _
    rw [Text.trim_blank_cons rfl, quotedText, Text.trim_quoted]
  rw [toList_defaultLine] at h
  have hyields := h.yieldsColumn_items hindent hf (by decide +kernel)
    (show TypeSpec.ofToken "String".toList = .column .string {} by decide +kernel)
    (fun text htext => by
      rw [List.mem_singleton.mp htext]
      exact .assignment (by decide +kernel) (.of_quoted hs.1 hs.2))
  rwa [defaultItems, List.filterMap_cons_some hdefault] at hyields

/-- The line of such a column in a module. -/
theorem ofField_quotedDefault (schema : Schema) (naming : TableNaming) (f s : String) :
    ColumnLine.ofField schema naming
        { name := f, type := .string, defaultLiteral := some (String.ofList (quotedText s)) } =
      .ok { name := f, type := "db.String(255)", options := [.default (Literal.quote s)] } := by
  have htype : "db.String(" ++ Text.decimal (255 : UInt32).toNat ++ ")" = "db.String(255)" := by
    decide +kernel
  rw [← Literal.ofDefault_quoted .string s, ← htype]
  rfl

/-- A column with a literal for its default, as it is written. -/
theorem render_default (f literal : String) :
    ColumnLine.render { name := f, type := "db.String(255)", options := [.default literal] } =
      "    " ++ f ++ " = db.Column(db.String(255), default=" ++ literal ++ ")" := by
  rw [← String.toList_inj]
  simp only [ColumnLine.render, ColumnOption.render, List.map_cons, List.map_nil,
    String.intercalate_cons_cons, String.intercalate_singleton, String.toList_append,
    List.append_assoc]
  simp only [String.reduceToList, List.cons_append, List.nil_append]

/-- Quoted values reach the output as they are, whatever they hold. The names that a foreign key asks
    for are what stands between the quotes, and the default of a column is a literal that reads back
    as it. -/
theorem quotedValues_kept (hf : IsFieldName f) (htable : Text.IsName table.toList)
    (hcolumn : Text.IsName column.toList) (hs : IsQuotable s) (ht : IsQuotable t)
    (hindent : indent.all Text.isAsciiBlank = true) :
    (∀ source i j, StandsIn source i j (indent ++ (namingLine f table column s t).toList) →
      ∃ c, YieldsColumn source i j c ∧
        c.naming? = some { field := f, relationship := some s, backPopulates := some t }) ∧
    Literal.read? (Literal.quote s).toList = some (s.toList, []) ∧
    ∀ source i j, StandsIn source i j (indent ++ (defaultLine f s).toList) →
      ∃ c, YieldsColumn source i j c ∧ ∀ schema naming,
        ColumnLine.ofField schema naming c.field =
            .ok { name := f, type := "db.String(255)", options := [.default (Literal.quote s)] } ∧
          (compile source = .ok schema → ∃ m, schema.models[i]? = some m ∧
            ∀ made, ModelModule.ofModel schema naming m = .ok made → made.file.HasLine
              ("    " ++ f ++ " = db.Column(db.String(255), default=" ++ Literal.quote s ++ ")")) := by
  refine ⟨?_, ?_, ?_⟩
  · intro source i j hstands
    obtain ⟨key, hyields, hdot⟩ :=
      yieldsColumn_namingLine hf htable hcolumn hs ht hindent hstands
    refine ⟨_, hyields, ?_⟩
    have hparts : Text.cutAt? '.' key.toList ≠ none :=
      fun hnone => Text.cutAt?_eq_none_iff.mp hnone hdot
    obtain ⟨parts, hparts⟩ := Option.ne_none_iff_exists'.mp hparts
    simp [ColumnDraft.naming?, Field.foreignKeyParts?, hparts]
  · rw [Literal.quote, String.toList_ofList, Literal.read?_quoteChars]
  · intro source i j hstands
    have hyields := yieldsColumn_defaultLine hf hs hindent hstands
    refine ⟨_, hyields, fun schema naming =>
      ⟨ofField_quotedDefault schema naming f s, fun hcompile => ?_⟩⟩
    obtain ⟨m, hm, hfield⟩ := hyields.model schema hcompile
    refine ⟨m, hm, fun made hmade => ?_⟩
    obtain ⟨-, -, -, hcolumns, -⟩ := ModelModule.of_ofModel_eq_ok hmade
    obtain ⟨line, hline, hof⟩ := hcolumns.exists_mem hfield
    rw [ofField_quotedDefault, Except.ok.injEq] at hof
    rw [← render_default, hof]
    exact ModelModule.hasLine_column hline

end

/-- Ships with a name that holds a comma, brackets, a brace, blanks and what must be escaped, and
    with a port that they ask for under such a name. -/
def quotedShips : String :=
  "table Port \x7b
id Int [pk]
\x7d
table Ship \x7b
index by_home [home]
  name String [default: \" it's, [a] \\: \x7b) \"]
  home Int [ref: > Port.id, as: \" it's, [a] \\: \x7b) \", back_populates: \"\"]
\x7d"

/-- The name of the ships. -/
def shipName : String := " it's, [a] \\: \x7b) "

theorem quotedValues_kept_quotedShips :
    ∃ c c' m, YieldsColumn quotedShips 1 1 c ∧
      c.naming? = some { field := "home", relationship := some shipName, backPopulates := some "" } ∧
      YieldsColumn quotedShips 1 0 c' ∧
      compile quotedShips = .ok (.ofChecked quotedShips) ∧
      (Schema.ofChecked quotedShips).models[1]? = some m ∧
      Literal.read? "' it\\'s, [a] \\\\: \x7b) '".toList = some (shipName.toList, []) ∧
      ∀ naming made, ModelModule.ofModel (.ofChecked quotedShips) naming m = .ok made →
        made.file.HasLine
          "    name = db.Column(db.String(255), default=' it\\'s, [a] \\\\: \x7b) ')" := by
  have hnaming : StandsIn quotedShips 1 1
      ("  ".toList ++ (namingLine "home" "Port" "id" shipName "").toList) :=
    .of_getElem? 6 (Statement.ofTexts ((Text.lines quotedShips.toList).take 3)) "Ship".toList
      (Statement.ofTexts (((Text.lines quotedShips.toList).take 6).drop 4)) (by decide +kernel)
  have hdefault : StandsIn quotedShips 1 0 ("  ".toList ++ (defaultLine "name" shipName).toList) :=
    .of_getElem? 5 (Statement.ofTexts ((Text.lines quotedShips.toList).take 3)) "Ship".toList
      (Statement.ofTexts (((Text.lines quotedShips.toList).take 5).drop 4)) (by decide +kernel)
  have hlines {f : String} (hf : IsFieldName f) :=
    quotedValues_kept (f := f) (s := shipName) (t := "") hf
      (show Text.IsName "Port".toList by decide +kernel)
      (show Text.IsName "id".toList by decide +kernel)
      (by decide +kernel) (by decide +kernel)
      (show "  ".toList.all Text.isAsciiBlank = true by decide)
  obtain ⟨c, hyields, hnamed⟩ := (hlines (by decide +kernel)).1 _ _ _ hnaming
  obtain ⟨-, hread, hdefaults⟩ := hlines (f := "name") (by decide +kernel)
  obtain ⟨c', hyields', hcolumn⟩ := hdefaults _ _ _ hdefault
  have hcompile : compile quotedShips = .ok (.ofChecked quotedShips) :=
    compile_eq_ok_iff.mpr ⟨by decide +kernel, rfl⟩
  have hliteral : Literal.quote shipName = "' it\\'s, [a] \\\\: \x7b) '" := by decide +kernel
  obtain ⟨m, hm, hfield⟩ := hyields'.model _ hcompile
  rw [hliteral] at hread hcolumn
  refine ⟨c, c', m, hyields, hnamed, hyields', hcompile, hm, hread, fun naming made hmade => ?_⟩
  obtain ⟨m', hm', hwritten⟩ := (hcolumn _ naming).2 hcompile
  rw [Option.some.inj (hm.symm.trans hm')] at hmade
  exact hwritten made hmade

end SchemaLang
