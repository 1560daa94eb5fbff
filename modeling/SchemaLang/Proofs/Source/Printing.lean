import SchemaLang.Proofs.Source.Sections
import SchemaLang.Proofs.Source.Tokens

/-!
# Tables that are written and read again

Declarations have no ends: a line is read in pairs of words, each with the group behind it if there
is one. A pair that is off by one word shifts all that follow. Here a table is written, a declaration
to a line or all of them on one, and is found again as it was.

## Key results

- `Token.ofLine_write`: closed tokens are found again on the line that they are written to
- `Text.lines_flatMap`: so are lines in the text that they make
- `Declaration.ofTokens_append`: a declaration takes its own tokens and no others
- `map_unnumbered_ofSource_write`: tables are found again in the source that they are written to
-/

namespace SchemaLang

/-! ## Lines of a text -/

namespace Text

/-- The text has no line end in it, nor a part of one. -/
def IsOneLine (s : List Char) : Prop :=
  '\n' ∉ s ∧ '\r' ∉ s

instance (s : List Char) : Decidable (IsOneLine s) :=
  inferInstanceAs (Decidable (_ ∧ _))

theorem isOneLine_append {s t : List Char} :
    IsOneLine (s ++ t) ↔ IsOneLine s ∧ IsOneLine t := by
  simp only [IsOneLine, List.mem_append, not_or]
  exact and_and_and_comm

theorem isOneLine_cons {c : Char} {s : List Char} :
    IsOneLine (c :: s) ↔ (c ≠ '\n' ∧ c ≠ '\r') ∧ IsOneLine s := by
  simp only [IsOneLine, List.mem_cons, not_or, ne_eq, eq_comm (a := c)]
  exact and_and_and_comm

theorem isOneLine_intercalate {s : List Char} (hs : IsOneLine s) {texts : List (List Char)}
    (h : ∀ t ∈ texts, IsOneLine t) : IsOneLine (s.intercalate texts) := by
  induction texts with
  | nil => exact ⟨nofun, nofun⟩
  | cons first rest ih =>
    obtain ⟨hfirst, hrest⟩ := List.forall_mem_cons.mp h
    cases rest with
    | nil => rwa [List.intercalate_singleton]
    | cons next rest =>
      rw [List.intercalate_cons_cons, isOneLine_append, isOneLine_append]
      exact ⟨⟨hfirst, hs⟩, ih hrest⟩

theorem lines_append {line : List Char} (h : IsOneLine line) (rest : List Char) :
    lines (line ++ '\n' :: rest) = line :: lines rest := by
  induction line with
  | nil => rw [List.nil_append, lines]
  | cons c line ih =>
    obtain ⟨⟨hnewline, hline⟩, hreturn, hline'⟩ :
        (c ≠ '\n' ∧ '\n' ∉ line) ∧ c ≠ '\r' ∧ '\r' ∉ line := by
      simpa [IsOneLine, eq_comm] using h
    rw [List.cons_append, lines, ih ⟨hline, hline'⟩]
    · exact hnewline
    · exact fun _ hc => absurd hc hreturn

/-- Lines are found again in the text that they make. -/
theorem lines_flatMap {texts : List (List Char)} (h : ∀ line ∈ texts, IsOneLine line) :
    lines (texts.flatMap (· ++ ['\n'])) = texts := by
  induction texts with
  | nil => exact lines_nil
  | cons line texts ih =>
    obtain ⟨hline, htexts⟩ := List.forall_mem_cons.mp h
    rw [List.flatMap_cons, List.append_assoc, List.singleton_append, lines_append hline, ih htexts]

end Text

/-- A line that starts like one that counts does so too. -/
theorem isSkipped_append {s : List Char} (h : isSkipped s = false) (rest : List Char) :
    isSkipped (s ++ rest) = false := by
  rw [isSkipped, Text.trimStart] at h ⊢
  rw [List.dropWhile_append]
  cases hstart : s.dropWhile Text.isBlank with
  | nil => simp [hstart] at h
  | cons c tail => simpa [hstart] using h

/-- Blanks in front of a line are trimmed. -/
theorem isSkipped_blanks_append {indent : List Char}
    (h : indent.all Text.isAsciiBlank = true) (line : List Char) :
    isSkipped (indent ++ line) = isSkipped line := by
  rw [isSkipped, isSkipped, Text.trimStart, Text.trimStart,
    List.dropWhile_append_of_pos fun c hc =>
      Text.isBlank_of_isAsciiBlank (List.all_eq_true.mp h c hc)]

/-- A line that counts says what its tokens do. -/
theorem Statement.ofTexts_singleton {line : List Char} (h : isSkipped line = false) :
    ofTexts [line] = ofLine { number := 0, text := line } := by
  simp [ofTexts, h]

/-! ## Tokens on a line -/

namespace Token

/-- Tokens with a blank between any two of them. -/
def write : List Token → List Char
  | [] => []
  | [token] => token.text
  | token :: next :: rest => token.text ++ ' ' :: write (next :: rest)

/-- The token is closed and does not break its line. -/
def IsPlain (token : Token) : Prop :=
  token.IsClosed ∧ Text.IsOneLine token.text

instance (token : Token) : Decidable token.IsPlain :=
  inferInstanceAs (Decidable (_ ∧ _))

theorem isOneLine_write {tokens : List Token} (h : ∀ token ∈ tokens, token.IsPlain) :
    Text.IsOneLine (write tokens) := by
  fun_induction write tokens with
  | case1 => decide
  | case2 token => exact (h token List.mem_cons_self).2
  | case3 token next rest ih =>
    obtain ⟨⟨-, htoken⟩, hrest⟩ := List.forall_mem_cons.mp h
    have := ih hrest
    simp_all [Text.IsOneLine]

/-- Closed tokens are found again on the line that they are written to. -/
theorem ofLine_write {tokens : List Token} (h : ∀ token ∈ tokens, token.IsPlain) :
    ofLine (write tokens) = tokens := by
  fun_induction write tokens with
  | case1 => rw [ofLine]
  | case2 token =>
    have hend : ofLine (token.text ++ []) = token :: ofLine [] :=
      ofLine_text_append (h token List.mem_cons_self).1 isGap_nil
    rwa [List.append_nil, ofLine] at hend
  | case3 token next rest ih =>
    obtain ⟨htoken, hrest⟩ := List.forall_mem_cons.mp h
    rw [ofLine_text_append htoken.1 (isGap_cons.mpr rfl), ofLine_blank rfl, ih hrest]

end Token

/-! ## Declarations -/

/-- A declaration as it is written. -/
inductive Declaration where
  | field (name type : List Char) (attributes : Option (List Char))
  | index (name columns : List Char)
  deriving DecidableEq, Repr

namespace Declaration

/-- The tokens of the declaration: `name type`, `name type [attributes]` or
    `index name [columns]`. -/
def tokens : Declaration → List Token
  | field name type none => [.word name, .word type]
  | field name type (some attributes) => [.word name, .word type, .group attributes]
  | index name columns => [.word Statement.indexKeyword, .word name, .group columns]

/-- The declaration can be read: its tokens are closed, and a field has a name that makes its line
    neither the header of a table nor an index nor a comment. -/
def IsReadable : Declaration → Prop
  | field name type attributes =>
    (Token.word name).IsPlain ∧ (Token.word type).IsPlain ∧
      (∀ inner ∈ attributes, (Token.group inner).IsPlain) ∧
      name ≠ Token.tableKeyword ∧ name ≠ Statement.indexKeyword ∧ isSkipped name = false
  | index name columns => (Token.word name).IsPlain ∧ (Token.group columns).IsPlain

instance : DecidablePred IsReadable
  | field .. => inferInstanceAs (Decidable (_ ∧ _))
  | index .. => inferInstanceAs (Decidable (_ ∧ _))

/-- The field that is declared. -/
def field? : Declaration → Option FieldLine
  | field name type attributes => some { line := 0, name, type, attributes }
  | index .. => none

/-- The index that is declared. -/
def index? : Declaration → Option IndexLine
  | field .. => none
  | index name columns => some { line := 0, name, columns := items ',' columns }

/-- What the declaration says. -/
def statement : Declaration → Statement
  | field name type attributes => .field { line := 0, name, type, attributes }
  | index name columns => .index { line := 0, name, columns := items ',' columns }

theorem field?_statement (d : Declaration) : d.statement.field? = d.field? := by
  cases d <;> rfl

theorem index?_statement (d : Declaration) : d.statement.index? = d.index? := by
  cases d <;> rfl

theorem isDeclaration_statement (d : Declaration) : d.statement.isDeclaration = true := by
  cases d <;> rfl

theorem header?_statement (d : Declaration) : d.statement.header? = none := by
  cases d <;> rfl

/-- The tokens of a declaration that can be read are closed. -/
theorem isPlain_of_mem_tokens {d : Declaration} (h : d.IsReadable) :
    ∀ token ∈ d.tokens, token.IsPlain := by
  cases d with
  | field name type attributes =>
    obtain ⟨hname, htype, hattributes, -⟩ := h
    cases attributes <;> simp_all [tokens]
  | index name columns =>
    obtain ⟨hname, hcolumns⟩ := h
    have hkeyword : (Token.word Statement.indexKeyword).IsPlain := by decide +kernel
    simp_all [tokens]

/-- A declaration begins with a word that starts no table. -/
theorem exists_tokens_eq_cons {d : Declaration} (h : d.IsReadable) :
    ∃ name rest, d.tokens = .word name :: rest ∧ name ≠ Token.tableKeyword ∧
      isSkipped name = false := by
  cases d with
  | field name type attributes =>
    obtain ⟨-, -, -, htable, -, hskipped⟩ := h
    cases attributes
    · exact ⟨name, _, rfl, htable, hskipped⟩
    · exact ⟨name, _, rfl, htable, hskipped⟩
  | index name columns => exact ⟨Statement.indexKeyword, _, rfl, by decide, by decide⟩

/-- A declaration takes its own tokens and no others, unless a group follows that belongs to
    nothing. -/
theorem ofTokens_append {d : Declaration} (h : d.IsReadable) {rest : List Token}
    (hrest : ∀ inner tail, rest ≠ .group inner :: tail) :
    Statement.ofTokens 0 (d.tokens ++ rest) = d.statement :: Statement.ofTokens 0 rest := by
  cases d with
  | field name type attributes =>
    obtain ⟨-, -, -, -, hindex, -⟩ := h
    cases attributes with
    | none =>
      simp only [tokens, List.cons_append, List.nil_append]
      rw [Statement.ofTokens, Statement.declare, if_neg hindex]
      · rfl
      · exact fun inner tail htail => hrest inner tail htail
    | some attributes =>
      simp only [tokens, List.cons_append, List.nil_append]
      rw [Statement.ofTokens, Statement.declare, if_neg hindex]
      rfl
  | index name columns =>
    simp only [tokens, List.cons_append, List.nil_append]
    rw [Statement.ofTokens, Statement.declare, if_pos rfl]
    rfl

/-- Declarations in a row are read one after the other, up to the brace that ends them. -/
theorem ofTokens_flatMap {declarations : List Declaration}
    (h : ∀ d ∈ declarations, d.IsReadable) :
    Statement.ofTokens 0 (declarations.flatMap (·.tokens) ++ [.closing]) =
      declarations.map (·.statement) ++ [.close] := by
  induction declarations with
  | nil => rfl
  | cons d rest ih =>
    obtain ⟨hd, hrest⟩ := List.forall_mem_cons.mp h
    have hnext : ∀ inner tail,
        rest.flatMap (·.tokens) ++ [.closing] ≠ Token.group inner :: tail := by
      intro inner tail
      cases rest with
      | nil => simp
      | cons next rest =>
        -- The next declaration begins with a word.
        obtain ⟨name, others, htokens, -⟩ :=
          exists_tokens_eq_cons (List.forall_mem_cons.mp hrest).1
        simp [htokens]
    rw [List.flatMap_cons, List.append_assoc, ofTokens_append hd hnext, ih hrest]
    rfl

end Declaration

/-! ## Tables -/

/-- Where the declarations of a table are written. -/
inductive Layout where
  /-- A declaration to a line, between the header and the closing brace. -/
  | spread
  /-- All on the line of the header. -/
  | packed
  deriving DecidableEq, Repr

/-- A table as it is written. -/
structure WrittenTable where
  name : List Char
  declarations : List Declaration
  deriving DecidableEq, Repr

namespace WrittenTable

/-- The tokens up to the brace that opens. -/
def header (t : WrittenTable) : List Token :=
  [.word Token.tableKeyword, .word t.name, .opening]

/-- The lines that the table is written to. -/
def lines (t : WrittenTable) : Layout → List (List Char)
  | .spread =>
    Token.write t.header ::
      (t.declarations.map fun d => "  ".toList ++ Token.write d.tokens) ++ [Token.write [.closing]]
  | .packed => [Token.write (t.header ++ (t.declarations.flatMap (·.tokens) ++ [.closing]))]

/-- The table can be read. -/
def IsReadable (t : WrittenTable) : Prop :=
  (Token.word t.name).IsPlain ∧ ∀ d ∈ t.declarations, d.IsReadable

instance (t : WrittenTable) : Decidable t.IsReadable :=
  inferInstanceAs (Decidable (_ ∧ _))

/-- The table and what it declares, in order. -/
def block (t : WrittenTable) : TableBlock where
  name := t.name
  line := 0
  fields := t.declarations.filterMap Declaration.field?
  indices := t.declarations.filterMap Declaration.index?

variable {t : WrittenTable}

theorem isPlain_of_mem_header (h : t.IsReadable) : ∀ token ∈ t.header, token.IsPlain := by
  have hkeyword : (Token.word Token.tableKeyword).IsPlain := by decide +kernel
  have hopening : Token.opening.IsPlain := by decide +kernel
  simp [header, hkeyword, hopening, h.1]

theorem isPlain_closing : ∀ token ∈ [Token.closing], token.IsPlain := by
  decide +kernel

theorem isPlain_of_mem_packed (h : t.IsReadable) :
    ∀ token ∈ t.header ++ (t.declarations.flatMap (·.tokens) ++ [.closing]), token.IsPlain := by
  simp only [List.forall_mem_append]
  refine ⟨isPlain_of_mem_header h, fun token htoken => ?_, isPlain_closing⟩
  obtain ⟨d, hd, htoken⟩ := List.mem_flatMap.mp htoken
  exact Declaration.isPlain_of_mem_tokens (h.2 d hd) token htoken

/-- No line of the table breaks in two. -/
theorem isOneLine_of_mem_lines (h : t.IsReadable) (layout : Layout) :
    ∀ line ∈ t.lines layout, Text.IsOneLine line := by
  cases layout with
  | spread =>
    simp only [lines, List.cons_append, List.forall_mem_cons, List.forall_mem_append,
      List.forall_mem_map]
    refine ⟨Token.isOneLine_write (isPlain_of_mem_header h), fun d hd => ?_,
      Token.isOneLine_write isPlain_closing, nofun⟩
    have := Token.isOneLine_write (Declaration.isPlain_of_mem_tokens (h.2 d hd))
    simpa [Text.IsOneLine] using this
  | packed =>
    simpa [lines] using Token.isOneLine_write (isPlain_of_mem_packed h)

/-- A line that begins with the keyword starts a table. -/
theorem ofTexts_write_header {tokens : List Token}
    (h : ∀ token ∈ t.header ++ tokens, token.IsPlain) :
    Statement.ofTexts [Token.write (t.header ++ tokens)] =
      .table 0 t.name :: Statement.ofTokens 0 tokens := by
  have hcounts : isSkipped (Token.write (t.header ++ tokens)) = false :=
    isSkipped_append (s := Token.tableKeyword) (by decide) _
  have htokens : SourceLine.tokens { number := 0, text := Token.write (t.header ++ tokens) } =
      t.header ++ tokens := Token.ofLine_write h
  rw [Statement.ofTexts_singleton hcounts, Statement.ofLine, htokens]
  rfl

/-- A declaration says the same on a line by itself, whatever blanks stand in front of it. -/
theorem ofTexts_write_declaration {indent : List Char}
    (hindent : indent.all Text.isAsciiBlank = true) {d : Declaration} (h : d.IsReadable) :
    Statement.ofTexts [indent ++ Token.write d.tokens] = [d.statement] := by
  obtain ⟨name, rest, hcons, htable, hskipped⟩ := Declaration.exists_tokens_eq_cons h
  have hwritten : ∃ tail, Token.write d.tokens = name ++ tail := by
    rw [hcons]
    cases rest with
    | nil => exact ⟨[], (List.append_nil _).symm⟩
    | cons next rest => exact ⟨_, rfl⟩
  obtain ⟨tail, htail⟩ := hwritten
  have hcounts : isSkipped (indent ++ Token.write d.tokens) = false := by
    rw [isSkipped_blanks_append hindent, htail]
    exact isSkipped_append hskipped tail
  have htokens : SourceLine.tokens { number := 0, text := indent ++ Token.write d.tokens } =
      d.tokens :=
    (Token.ofLine_blanks_append hindent _).trans
      (Token.ofLine_write (Declaration.isPlain_of_mem_tokens h))
  have hstarts : Token.startsTable d.tokens = false := by
    simpa [hcons, Token.startsTable] using htable
  have hstatements : Statement.ofTokens 0 (d.tokens ++ []) = [d.statement] :=
    Declaration.ofTokens_append h (by simp)
  rw [List.append_nil] at hstatements
  rw [Statement.ofTexts_singleton hcounts, Statement.ofLine, htokens, hstarts, hstatements]
  rfl

/-- In both layouts a table says the same. -/
theorem ofTexts_lines (h : t.IsReadable) (layout : Layout) :
    Statement.ofTexts (t.lines layout) =
      .table 0 t.name :: t.declarations.map (·.statement) ++ [.close] := by
  cases layout with
  | spread =>
    have hheader : Statement.ofTexts [Token.write (t.header ++ [])] = [.table 0 t.name] :=
      ofTexts_write_header (by simpa using isPlain_of_mem_header h)
    have hbody : ∀ declarations : List Declaration, (∀ d ∈ declarations, d.IsReadable) →
        Statement.ofTexts (declarations.map fun d => "  ".toList ++ Token.write d.tokens) =
          declarations.map (·.statement) := by
      intro declarations hall
      induction declarations with
      | nil => rfl
      | cons d rest ih =>
        obtain ⟨hd, hrest⟩ := List.forall_mem_cons.mp hall
        rw [List.map_cons, ← List.singleton_append, Statement.ofTexts_append,
          ofTexts_write_declaration (by decide) hd, ih hrest]
        rfl
    have hclose : Statement.ofTexts [Token.write [.closing]] = [.close] := by decide +kernel
    rw [List.append_nil] at hheader
    rw [lines, List.cons_append, ← List.singleton_append, Statement.ofTexts_append,
      Statement.ofTexts_append, hheader, hbody _ h.2, hclose]
    rfl
  | packed =>
    rw [lines, ofTexts_write_header (isPlain_of_mem_packed h), Declaration.ofTokens_flatMap h.2]
    rfl

/-- A table owns what it says up to its closing brace. -/
theorem ofDeclarations_statements (t : WrittenTable) (rest : List Statement) :
    TableBlock.ofDeclarations 0 t.name
      (t.declarations.map (·.statement) ++ .close :: rest) = t.block := by
  have howned : (t.declarations.map (·.statement) ++ .close :: rest).takeWhile
      Statement.isDeclaration = t.declarations.map (·.statement) := by
    rw [List.takeWhile_append_of_pos]
    · simp [Statement.isDeclaration]
    · intro statement hstatement
      obtain ⟨d, -, rfl⟩ := List.mem_map.mp hstatement
      exact d.isDeclaration_statement
  simp only [TableBlock.ofDeclarations, howned, block, List.filterMap_map, Function.comp_def,
    Declaration.field?_statement, Declaration.index?_statement]

/-- The text of some tables, each in its layout. -/
def write (tables : List (Layout × WrittenTable)) : String :=
  String.ofList ((tables.flatMap fun (layout, t) => t.lines layout).flatMap (· ++ ['\n']))

/-- The blocks of tables that stand one after the other. -/
theorem ofStatements_flatMap {tables : List (Layout × WrittenTable)}
    (h : ∀ table ∈ tables, table.2.IsReadable) :
    TableBlock.ofStatements (Statement.ofTexts (tables.flatMap fun (layout, t) => t.lines layout)) =
      tables.map (·.2.block) := by
  induction tables with
  | nil => rfl
  | cons table rest ih =>
    obtain ⟨layout, t⟩ := table
    obtain ⟨ht, hrest⟩ := List.forall_mem_cons.mp h
    have hdeclares : (t.declarations.map Declaration.statement ++ [Statement.close]).filterMap
        Statement.header? = [] := by
      simp only [List.filterMap_append, List.filterMap_map, List.append_eq_nil_iff,
        List.filterMap_eq_nil_iff]
      exact ⟨fun d _ => d.header?_statement, by simp [Statement.header?]⟩
    rw [List.flatMap_cons, Statement.ofTexts_append, ofTexts_lines ht, List.cons_append,
      List.cons_append, TableBlock.ofStatements, TableBlock.ofStatements_append hdeclares,
      ih hrest, List.append_assoc, List.singleton_append, ofDeclarations_statements]
    rfl

end WrittenTable

open WrittenTable in
/-- Tables that can be read are found again in the source that they are written to, whatever their
    layout, with all that they declare in order. -/
theorem map_unnumbered_ofSource_write {tables : List (Layout × WrittenTable)}
    (h : ∀ table ∈ tables, table.2.IsReadable) :
    (TableBlock.ofSource (write tables)).map (·.unnumbered) = tables.map (·.2.block) := by
  have hlines : ∀ line ∈ tables.flatMap fun (layout, t) => t.lines layout,
      Text.IsOneLine line := by
    intro line hline
    obtain ⟨table, htable, hline⟩ := List.mem_flatMap.mp hline
    exact isOneLine_of_mem_lines (h table htable) table.1 line hline
  rw [TableBlock.ofSource, TableBlock.map_unnumbered_ofStatements,
    Statement.map_unnumbered_ofSource, write, String.toList_ofList, Text.lines_flatMap hlines,
    ofStatements_flatMap h]

/-- Ports and legs, with attributes behind some fields only. What they are made of holds brackets,
    quotes, blanks and braces. -/
def writtenPorts : List (Layout × WrittenTable) :=
  [(.packed,
    { name := "table".toList
      declarations :=
        [.field "a#".toList "Int".toList none,
          .index "ix".toList "id, (a, b), 'c, d'".toList,
          .field "rate".toList "Decimal(10, 2)".toList (some "default: \"\x7b ] \x7d\"".toList),
          .field "legs".toList "index".toList none] }),
    (.spread,
      { name := "Порт['\x7d']".toList
        declarations :=
          [.field "id".toList "table".toList (some "".toList),
            .field "x".toList "Leg[]".toList none] })]

theorem map_unnumbered_ofSource_writtenPorts :
    WrittenTable.write writtenPorts =
        "table table \x7b a# Int index ix [id, (a, b), 'c, d'] " ++
          "rate Decimal(10, 2) [default: \"\x7b ] \x7d\"] legs index \x7d\n" ++
          "table Порт['\x7d'] \x7b\n  id table []\n  x Leg[]\n\x7d\n" ∧
      (∀ table ∈ writtenPorts, table.2.IsReadable) ∧
      (TableBlock.ofSource (WrittenTable.write writtenPorts)).map (·.unnumbered) =
        writtenPorts.map (·.2.block) ∧
      (writtenPorts.map fun table => table.2.block.fields.length) = [3, 2] ∧
      (writtenPorts.map fun table => table.2.block.indices.map (·.columns.length)) =
        [[3], []] := by
  obtain ⟨hwritten, hreadable, hcounts⟩ :
      WrittenTable.write writtenPorts =
          "table table \x7b a# Int index ix [id, (a, b), 'c, d'] " ++
            "rate Decimal(10, 2) [default: \"\x7b ] \x7d\"] legs index \x7d\n" ++
            "table Порт['\x7d'] \x7b\n  id table []\n  x Leg[]\n\x7d\n" ∧
        (∀ table ∈ writtenPorts, table.2.IsReadable) ∧
        (writtenPorts.map fun table => table.2.block.fields.length) = [3, 2] ∧
        (writtenPorts.map fun table => table.2.block.indices.map (·.columns.length)) =
          [[3], []] := by
    decide +kernel
  exact ⟨hwritten, hreadable, map_unnumbered_ofSource_write hreadable, hcounts⟩

end SchemaLang
