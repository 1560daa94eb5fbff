import Mathlib.Data.List.Chain
import SchemaLang.Proofs.Source.Headers

/-!
# Sections of a source

A source falls into what stands before its first header and one section for each table: the text
from its header up to the next one. The blocks of a source are read line by line, with braces that
may stand anywhere; here it is shown that each is read from its own section, apart from the numbers
of its lines.

## Key results

- `endedLines_flatten`: a row of lines is found again in the text that it makes
- `leadingText_append_tableTexts`: the sections are what follows the leading text
- `map_unnumbered_ofSource`: the blocks of a source are those of its sections
- `exists_of_tableText`: a block is determined by the text of its table
-/

namespace SchemaLang

/-! ## Lines and their ends -/

namespace Text

/-- The lines of a text, with their ends. -/
def endedLines : List Char → List (List Char)
  | [] => []
  | c :: rest =>
    if c = '\n' then [c] :: endedLines rest
    else
      match endedLines rest with
      | [] => [[c]]
      | line :: others => (c :: line) :: others

/-- A line without its end. -/
def dropLineEnd : List Char → List Char
  | [] => []
  | ['\n'] => []
  | ['\r', '\n'] => []
  | c :: rest => c :: dropLineEnd rest

/-- Only the last of some lines may lack its line feed, as in a text. -/
structure AreEnded (lines : List (List Char)) : Prop where
  ne_nil : ∀ line ∈ lines, line ≠ []
  newline : ∀ line ∈ lines, '\n' ∉ line.dropLast
  ended : lines.IsChain fun line _ => line.getLast? = some '\n'

theorem flatten_endedLines (s : List Char) : (endedLines s).flatten = s := by
  fun_induction endedLines s with
  | case1 => rfl
  | case2 rest ih => rw [List.flatten_cons, ih]; rfl
  | case3 c rest hc hrest ih => simpa [hrest] using ih
  | case4 c rest hc line others hrest ih => simpa [hrest] using ih

theorem areEnded_endedLines (s : List Char) : AreEnded (endedLines s) := by
  fun_induction endedLines s with
  | case1 => exact ⟨by simp, by simp, .nil⟩
  | case2 rest ih =>
    refine ⟨?_, ?_, List.isChain_cons.mpr ⟨fun _ _ => rfl, ih.ended⟩⟩
    · simpa using ih.ne_nil
    · simpa using ih.newline
  | case3 c rest hc hrest ih => exact ⟨by simp, by simp, .singleton _⟩
  | case4 c rest hc line others hrest ih =>
    rw [hrest] at ih
    obtain ⟨hne, hnes⟩ := List.forall_mem_cons.mp ih.ne_nil
    obtain ⟨hnewline, hnewlines⟩ := List.forall_mem_cons.mp ih.newline
    obtain ⟨hended, hothers⟩ := List.isChain_cons.mp ih.ended
    refine ⟨?_, ?_, ?_⟩
    · simpa using hnes
    · rw [List.forall_mem_cons, List.dropLast_cons_of_ne_nil hne, List.mem_cons, not_or]
      exact ⟨⟨fun h => hc h.symm, hnewline⟩, hnewlines⟩
    · refine List.isChain_cons.mpr ⟨fun next hnext => ?_, hothers⟩
      rw [List.getLast?_cons_of_ne_nil hne]
      exact hended next hnext

/-- Neighbours among the lines of a text are lines of a text. -/
theorem AreEnded.of_isInfix {lines part : List (List Char)} (h : AreEnded lines)
    (hpart : part <:+: lines) : AreEnded part where
  ne_nil line hline := h.ne_nil line (hpart.subset hline)
  newline line hline := h.newline line (hpart.subset hline)
  ended := List.IsChain.infix h.ended hpart

/-- A line feed ends the first line. -/
theorem endedLines_append {front : List Char} (h : '\n' ∉ front) (rest : List Char) :
    endedLines (front ++ '\n' :: rest) = (front ++ ['\n']) :: endedLines rest := by
  induction front with
  | nil => simp [endedLines]
  | cons c front ih =>
    obtain ⟨hc, hfront⟩ := not_or.mp (List.mem_cons.not.mp h)
    rw [List.cons_append, endedLines, if_neg (Ne.symm hc), ih hfront]
    rfl

/-- A text without a line feed is one line. -/
theorem endedLines_of_not_mem {line : List Char} (hne : line ≠ []) (h : '\n' ∉ line) :
    endedLines line = [line] := by
  induction line with
  | nil => exact absurd rfl hne
  | cons c rest ih =>
    obtain ⟨hc, hrest⟩ := not_or.mp (List.mem_cons.not.mp h)
    rw [endedLines, if_neg (Ne.symm hc)]
    by_cases hnil : rest = []
    · rw [hnil]
      rfl
    · rw [ih hnil hrest]

/-- Lines are found again in the text that they make. -/
theorem endedLines_flatten {lines : List (List Char)} (h : AreEnded lines) :
    endedLines lines.flatten = lines := by
  induction lines with
  | nil => rfl
  | cons line rest ih =>
    have hrest : endedLines rest.flatten = rest :=
      ih (h.of_isInfix (List.suffix_cons line rest).isInfix)
    have hnewline : '\n' ∉ line.dropLast := h.newline line List.mem_cons_self
    by_cases hended : line.getLast? = some '\n'
    · have hline : line.dropLast ++ ['\n'] = line := List.dropLast_append_getLast? _ hended
      calc endedLines (line :: rest).flatten
          = endedLines (line.dropLast ++ '\n' :: rest.flatten) := by
            rw [List.flatten_cons, List.append_cons, hline]
        _ = line :: rest := by rw [endedLines_append hnewline, hline, hrest]
    · -- The line lacks its line feed, so no other one follows.
      obtain rfl : rest = [] := by
        cases rest with
        | nil => rfl
        | cons next rest => exact absurd h.ended.rel hended
      have hne : line ≠ [] := h.ne_nil line List.mem_cons_self
      have hline : '\n' ∉ line := by
        rw [← List.dropLast_append_getLast hne, List.mem_append, not_or, List.mem_singleton]
        refine ⟨hnewline, fun heq => hended ?_⟩
        rw [List.getLast?_eq_some_getLast hne, ← heq]
      rw [List.flatten_singleton, endedLines_of_not_mem hne hline]

/-- A character in front of a line belongs to it, unless both are a line end. -/
theorem dropLineEnd_cons {c : Char} {line : List Char} (hc : c ≠ '\n')
    (hend : c = '\r' → line ≠ ['\n']) : dropLineEnd (c :: line) = c :: dropLineEnd line := by
  rw [dropLineEnd]
  · exact fun h _ => hc h
  · exact fun h hline => hend h hline

/-- The lines of a text are those that have ends, without them. -/
theorem lines_eq (s : List Char) : lines s = (endedLines s).map dropLineEnd := by
  fun_induction lines s with
  | case1 => rfl
  | case2 rest ih => simp [endedLines, dropLineEnd, ih]
  | case3 rest ih => simp [endedLines, dropLineEnd, ih]
  | case4 c rest hc hcr hrest ih =>
    have hnone : endedLines rest = [] := List.map_eq_nil_iff.mp (ih.symm.trans hrest)
    rw [endedLines, if_neg hc, hnone, List.map_singleton, dropLineEnd_cons hc (by simp)]
    rfl
  | case5 c rest hc hcr line others hrest ih =>
    obtain ⟨ended, others', hended, rfl, rfl⟩ := List.map_eq_cons_iff.mp (ih.symm.trans hrest)
    -- A carriage return in front of a line feed is part of the line end.
    have hend : c = '\r' → ended ≠ ['\n'] := by
      rintro rfl rfl
      have hflat := flatten_endedLines rest
      rw [hended] at hflat
      exact hcr others'.flatten rfl hflat.symm
    rw [endedLines, if_neg hc, hended, List.map_cons, dropLineEnd_cons hc hend]

end Text

/-! ## Sections -/

/-- The stretches of a list that begin with an element that fits, each up to the next one. -/
def sections {α : Type} (p : α → Bool) : List α → List (List α)
  | [] => []
  | x :: rest =>
    if p x then (x :: rest.takeWhile (!p ·)) :: sections p rest else sections p rest

/-- What stands in front of the first section and the sections are the list. -/
theorem takeWhile_append_flatten_sections {α : Type} (p : α → Bool) (l : List α) :
    l.takeWhile (!p ·) ++ (sections p l).flatten = l := by
  induction l with
  | nil => rfl
  | cons x rest ih =>
    cases hx : p x with
    | true => simpa [sections, hx] using ih
    | false => simpa [sections, hx] using ih

/-- A section is a stretch of the list. -/
theorem isInfix_of_mem_sections {α : Type} {p : α → Bool} {l part : List α}
    (h : part ∈ sections p l) : part <:+: l := by
  induction l with
  | nil => cases h
  | cons x rest ih =>
    have hrest : part ∈ sections p rest → part <:+: x :: rest :=
      fun h => (ih h).trans (List.suffix_cons x rest).isInfix
    rw [sections] at h
    split at h
    · rcases List.mem_cons.mp h with rfl | h
      · exact ((List.prefix_cons_inj x).mpr (List.takeWhile_prefix _)).isInfix
      · exact hrest h
    · exact hrest h

theorem sections_map {α β : Type} (p : β → Bool) (f : α → β) (l : List α) :
    sections p (l.map f) = (sections (p ∘ f) l).map (List.map f) := by
  induction l with
  | nil => rfl
  | cons x rest ih =>
    cases hx : p (f x) with
    | true => simp [sections, hx, ih, List.takeWhile_map, Function.comp_def]
    | false => simp [sections, hx, ih]

/-- The line is the header of a table. -/
def isHeader (line : List Char) : Bool :=
  !isSkipped line && (Token.tableName? (Token.ofLine line)).isSome

/-- The text in front of the first header. -/
def leadingText (source : String) : String :=
  let lines := (Text.endedLines source.toList).takeWhile fun line =>
    !isHeader (Text.dropLineEnd line)
  String.ofList lines.flatten

/-- The texts of the tables: each from its header up to the next one. -/
def tableTexts (source : String) : List String :=
  (sections (isHeader ∘ Text.dropLineEnd) (Text.endedLines source.toList)).map fun lines =>
    String.ofList lines.flatten

/-- The texts of the tables are the source, but for what stands in front of them. -/
theorem leadingText_append_tableTexts (source : String) :
    leadingText source ++ String.join (tableTexts source) = source := by
  rw [← String.toList_inj, String.toList_append, String.toList_join, leadingText, tableTexts]
  have hlines := congrArg List.flatten (takeWhile_append_flatten_sections
    (isHeader ∘ Text.dropLineEnd) (Text.endedLines source.toList))
  rw [Text.flatten_endedLines, List.flatten_append, List.flatten_flatten] at hlines
  simpa [List.flatMap_def, Function.comp_def] using hlines

/-- The lines of the text of a table are those of its section. -/
theorem lines_of_mem_sections {source : String} {part : List (List Char)}
    (h : part ∈ sections (isHeader ∘ Text.dropLineEnd) (Text.endedLines source.toList)) :
    Text.lines part.flatten = part.map Text.dropLineEnd := by
  rw [Text.lines_eq, Text.endedLines_flatten
    ((Text.areEnded_endedLines source.toList).of_isInfix (isInfix_of_mem_sections h))]

/-! ## Statements without numbers -/

/-- The declaration, whatever line it stands on. -/
def FieldLine.unnumbered (line : FieldLine) : FieldLine := { line with line := 0 }

/-- The declaration, whatever line it stands on. -/
def IndexLine.unnumbered (line : IndexLine) : IndexLine := { line with line := 0 }

/-- The table, whatever lines it stands on. -/
def TableBlock.unnumbered (block : TableBlock) : TableBlock where
  name := block.name
  line := 0
  fields := block.fields.map (·.unnumbered)
  indices := block.indices.map (·.unnumbered)

namespace Statement

/-- The statement, whatever line it stands on. -/
def unnumbered : Statement → Statement
  | table _ name => table 0 name
  | field declaration => field declaration.unnumbered
  | index declaration => index declaration.unnumbered
  | close => close

/-- The statements of some lines, whatever numbers they have. -/
def ofTexts (lines : List (List Char)) : List Statement :=
  (lines.filter (!isSkipped ·)).flatMap fun text => ofLine { number := 0, text }

theorem map_unnumbered_declare (line : Nat) (name type : List Char) (group : Option (List Char)) :
    (declare line name type group).map unnumbered = declare 0 name type group := by
  unfold declare
  split
  · cases group <;> rfl
  · rfl

theorem map_unnumbered_ofTokens (line : Nat) (tokens : List Token) :
    (ofTokens line tokens).map unnumbered = ofTokens 0 tokens := by
  fun_induction ofTokens line tokens with
  | case1 => rfl
  | case2 rest ih => rw [List.map_cons, ih]; rfl
  | case3 name type inner rest ih =>
    rw [List.map_append, map_unnumbered_declare, ih, ofTokens]
  | case4 name type rest hgroup ih =>
    rw [List.map_append, map_unnumbered_declare, ih, ofTokens]
    exact hgroup
  | case5 token rest _ _ _ ih =>
    rw [ih, ofTokens] <;> assumption

theorem map_unnumbered_ofLine (line : SourceLine) :
    (ofLine line).map unnumbered = ofLine { line with number := 0 } := by
  have htokens : ({ line with number := 0 } : SourceLine).tokens = line.tokens := rfl
  rw [ofLine, ofLine, htokens]
  cases hstarts : Token.startsTable line.tokens with
  | false =>
    rw [if_neg Bool.false_ne_true, if_neg Bool.false_ne_true]
    exact map_unnumbered_ofTokens _ _
  | true =>
    rw [if_pos rfl, if_pos rfl]
    cases Token.tableName? line.tokens with
    | none => rfl
    | some name => rw [List.map_cons, map_unnumbered_ofTokens]; rfl

/-- The numbers of lines apart, the statements of a source are those of its lines. -/
theorem map_unnumbered_ofSource (source : String) :
    (ofSource source).map unnumbered = ofTexts (Text.lines source.toList) := by
  have hnumbered : (numberedLines source).map (·.text) = Text.lines source.toList := by
    rw [numberedLines, List.map_map]
    exact List.zipIdx_map_fst 1 _
  have htexts : (significantLines source).map (·.text) =
      (Text.lines source.toList).filter (!isSkipped ·) := by
    rw [← hnumbered, List.filter_map]
    rfl
  rw [ofSource, List.map_flatMap, ofTexts, ← htexts, List.flatMap_map]
  exact List.flatMap_congr fun line _ => map_unnumbered_ofLine line

theorem ofTexts_append (lines lines' : List (List Char)) :
    ofTexts (lines ++ lines') = ofTexts lines ++ ofTexts lines' := by
  rw [ofTexts, List.filter_append, List.flatMap_append]
  rfl

/-- A line that is no header starts no table. -/
theorem filterMap_header?_ofTexts {line : List Char} (h : isHeader line = false) :
    (ofTexts [line]).filterMap header? = [] := by
  rw [isHeader] at h
  cases hskipped : isSkipped line with
  | true => simp [ofTexts, hskipped]
  | false =>
    have hname : Token.tableName? (Token.ofLine line) = none := by simpa [hskipped] using h
    have hline := filterMap_header?_ofLine { number := 0, text := line }
    rw [SourceLine.tableName?, SourceLine.tokens, hname] at hline
    simpa [ofTexts, hskipped] using hline

/-- A header starts a table, and no other one. -/
theorem exists_ofTexts_of_isHeader {line : List Char} (h : isHeader line = true) :
    ∃ name declared, ofTexts [line] = table 0 name :: declared ∧
      declared.filterMap header? = [] := by
  obtain ⟨hskipped, hname⟩ : isSkipped line = false ∧
      (Token.tableName? (Token.ofLine line)).isSome = true := by
    simpa [isHeader] using h
  obtain ⟨name, hname⟩ := Option.isSome_iff_exists.mp hname
  have htokens : ({ number := 0, text := line } : SourceLine).tokens = Token.ofLine line := rfl
  have hline : ofLine { number := 0, text := line } =
      table 0 name :: ofTokens 0 ((Token.ofLine line).drop 2) := by
    rw [ofLine, htokens, if_pos (startsTable_of_tableName? hname), hname]
  exact ⟨name, ofTokens 0 ((Token.ofLine line).drop 2), by simp [ofTexts, hskipped, hline],
    filterMap_header?_ofTokens _ _⟩

end Statement

/-! ## Blocks of sections -/

namespace TableBlock

theorem unnumbered_ofDeclarations (line : Nat) (name : List Char) (statements : List Statement) :
    (ofDeclarations line name statements).unnumbered =
      ofDeclarations 0 name (statements.map Statement.unnumbered) := by
  have hdeclares : Statement.isDeclaration ∘ Statement.unnumbered = Statement.isDeclaration := by
    funext statement
    cases statement <;> rfl
  have hfield : Statement.field? ∘ Statement.unnumbered =
      fun statement => statement.field?.map (·.unnumbered) := by
    funext statement
    cases statement <;> rfl
  have hindex : Statement.index? ∘ Statement.unnumbered =
      fun statement => statement.index?.map (·.unnumbered) := by
    funext statement
    cases statement <;> rfl
  simp only [ofDeclarations, unnumbered, List.takeWhile_map, hdeclares, List.filterMap_map, hfield,
    hindex, List.map_filterMap]

theorem map_unnumbered_ofStatements (statements : List Statement) :
    (ofStatements statements).map (·.unnumbered) =
      ofStatements (statements.map Statement.unnumbered) := by
  induction statements with
  | nil => rfl
  | cons statement rest ih =>
    cases statement with
    | table line name =>
      rw [ofStatements, List.map_cons, unnumbered_ofDeclarations, ih]
      rfl
    | field _ | index _ | close => exact ih

/-- Statements that start no table have no block. -/
theorem ofStatements_append {statements : List Statement}
    (h : statements.filterMap Statement.header? = []) (rest : List Statement) :
    ofStatements (statements ++ rest) = ofStatements rest := by
  induction statements with
  | nil => rfl
  | cons statement statements ih =>
    cases statement with
    | table line name => cases h
    | field _ | index _ | close => exact ih h

/-- A table owns what is declared up to the next header. -/
theorem ofDeclarations_ofTexts (name : List Char) (declared : List Statement)
    (lines : List (List Char)) :
    ofDeclarations 0 name (declared ++ Statement.ofTexts lines) =
      ofDeclarations 0 name
        (declared ++ Statement.ofTexts (lines.takeWhile (!isHeader ·))) := by
  -- The lines that are left begin with a header, and its statement is none that a table owns.
  have hnext : ∀ statement ∈ (Statement.ofTexts (lines.dropWhile (!isHeader ·))).head?,
      statement.isDeclaration = false := by
    cases hrest : lines.dropWhile (!isHeader ·) with
    | nil => nofun
    | cons header rest =>
      have hheader : isHeader header = true := by
        simpa [hrest] using List.head?_dropWhile_not (!isHeader ·) lines
      obtain ⟨name, declared, hstatements, -⟩ := Statement.exists_ofTexts_of_isHeader hheader
      rw [← List.singleton_append, Statement.ofTexts_append, hstatements]
      rintro _ ⟨⟩
      rfl
  have howned : (declared ++ Statement.ofTexts lines).takeWhile Statement.isDeclaration =
      (declared ++ Statement.ofTexts (lines.takeWhile (!isHeader ·))).takeWhile
        Statement.isDeclaration := by
    conv_lhs => rw [← List.takeWhile_append_dropWhile (p := (!isHeader ·)) (l := lines),
      Statement.ofTexts_append, ← List.append_assoc]
    exact List.takeWhile_append_of_head? _ hnext
  simp only [ofDeclarations, howned]

/-- Each section has its block, which is the first one of the section by itself. -/
theorem map_ofStatements_ofTexts (lines : List (List Char)) :
    (ofStatements (Statement.ofTexts lines)).map some =
      (sections isHeader lines).map fun part =>
        (ofStatements (Statement.ofTexts part)).head? := by
  -- Only headers start a block or a section, so both lists grow at the same lines.
  induction lines with
  | nil => rfl
  | cons line rest ih =>
    have hcons : ∀ others, Statement.ofTexts (line :: others) =
        Statement.ofTexts [line] ++ Statement.ofTexts others :=
      fun others => Statement.ofTexts_append [line] others
    rw [sections]
    cases hheader : isHeader line with
    | false =>
      rw [if_neg Bool.false_ne_true, ← ih, hcons,
        ofStatements_append (Statement.filterMap_header?_ofTexts hheader)]
    | true =>
      obtain ⟨name, declared, hstatements, hdeclared⟩ :=
        Statement.exists_ofTexts_of_isHeader hheader
      have hblock : ∀ others, ofStatements (Statement.ofTexts (line :: others)) =
          ofDeclarations 0 name (declared ++ Statement.ofTexts others) ::
            ofStatements (Statement.ofTexts others) := by
        intro others
        rw [hcons, hstatements, List.cons_append, ofStatements, ofStatements_append hdeclared]
      -- The block of the whole text and that of the section differ in what they are followed by.
      rw [if_pos rfl, List.map_cons, ← ih, hblock, hblock, List.map_cons, List.head?_cons,
        ofDeclarations_ofTexts]

/-- The numbers of lines apart, the blocks of a source are those of the texts of its tables, each
    read by itself. -/
theorem map_unnumbered_ofSource (source : String) :
    (ofSource source).map (fun block => some block.unnumbered) =
      (tableTexts source).map fun text => (ofSource text).head?.map (·.unnumbered) := by
  have hread : ∀ source, (ofSource source).map (·.unnumbered) =
      ofStatements (Statement.ofTexts (Text.lines source.toList)) := by
    intro source
    rw [ofSource, map_unnumbered_ofStatements, Statement.map_unnumbered_ofSource]
  calc (ofSource source).map (fun block => some block.unnumbered)
      = ((ofSource source).map (·.unnumbered)).map some := List.map_map.symm
    _ = (sections isHeader (Text.lines source.toList)).map fun part =>
          (ofStatements (Statement.ofTexts part)).head? := by
        rw [hread, map_ofStatements_ofTexts]
    _ = (sections (isHeader ∘ Text.dropLineEnd) (Text.endedLines source.toList)).map fun part =>
          (ofStatements (Statement.ofTexts (part.map Text.dropLineEnd))).head? := by
        rw [Text.lines_eq, sections_map, List.map_map]
        rfl
    _ = (tableTexts source).map fun text => (ofSource text).head?.map (·.unnumbered) := by
        rw [tableTexts, List.map_map]
        refine List.map_congr_left fun part hpart => ?_
        rw [Function.comp_apply, ← List.head?_map, hread, String.toList_ofList,
          lines_of_mem_sections hpart]

/-- A block is that of the text of its table, wherever it stands. -/
theorem exists_of_tableText {source text : String} {i : Nat}
    (h : (tableTexts source)[i]? = some text) :
    ∃ block, (ofSource source)[i]? = some block ∧
      (ofSource text).head?.map (·.unnumbered) = some block.unnumbered := by
  have hblocks := congrArg (·[i]?) (map_unnumbered_ofSource source)
  simp only [List.getElem?_map, h, Option.map_some, Option.map_eq_some_iff] at hblocks
  obtain ⟨block, hblock, heq⟩ := hblocks
  exact ⟨block, hblock, heq.symm⟩

end TableBlock

end SchemaLang
