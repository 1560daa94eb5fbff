import SchemaLang.Proofs.Pairing.Compiled

/-!
# Tables and their headers

The tables of a source are listed twice. The registry looks at the headers alone, and numbers them;
the blocks are cut out of the row of all statements, where braces and stray declarations stand
between the headers. Both lists name the same tables in the same order, so that a block is read under
the identifier of its own table.

## Key results

- `filterMap_header?_ofSource`: the statements that start a table are the headers
- `map_header_ofSource`: each header has its block
- `followsHeaders_of_compile`: a model is identified by the place and the name of its table
- `forall₂_blocks_models`: each block has its model
- `tables_follow_headers`: the registry, the blocks and the compiled schema list the same tables
-/

namespace SchemaLang

namespace Statement

/-- The name and the line of the table that starts. -/
def header? : Statement → Option (String × Nat)
  | table line name => some (String.ofList name, line)
  | field _ | index _ | close => none

/-- A declaration starts no table. -/
theorem filterMap_header?_declare (line : Nat) (name type : List Char)
    (group : Option (List Char)) : (declare line name type group).filterMap header? = [] := by
  unfold declare
  split
  · cases group <;> rfl
  · rfl

/-- Tokens behind a header start no other table. -/
theorem filterMap_header?_ofTokens (line : Nat) (tokens : List Token) :
    (ofTokens line tokens).filterMap header? = [] := by
  fun_induction ofTokens line tokens with
  | case1 => rfl
  | case2 rest ih => simpa [header?] using ih
  | case3 name type inner rest ih =>
    rw [List.filterMap_append, filterMap_header?_declare, ih, List.append_nil]
  | case4 name type rest _ ih =>
    rw [List.filterMap_append, filterMap_header?_declare, ih, List.append_nil]
  | case5 _ rest _ _ _ ih => exact ih

/-- A line with a name starts a table. -/
theorem startsTable_of_tableName? {tokens : List Token} {name : List Char}
    (h : Token.tableName? tokens = some name) : Token.startsTable tokens = true := by
  unfold Token.tableName? at h
  split at h
  · split at h
    · next hkeyword => simp [Token.startsTable, hkeyword]
    · exact nomatch h
  · exact nomatch h

/-- A line starts the table of its header, if it has one. -/
theorem filterMap_header?_ofLine (line : SourceLine) :
    (ofLine line).filterMap header? = (line.tableName?.map (·, line.number)).toList := by
  rw [ofLine, SourceLine.tableName?]
  cases hname : Token.tableName? line.tokens with
  | none =>
    split
    · rfl
    · exact filterMap_header?_ofTokens _ _
  | some name =>
    rw [if_pos (startsTable_of_tableName? hname), List.filterMap_cons,
      filterMap_header?_ofTokens]
    rfl

/-- The statements that start a table are the headers. -/
theorem filterMap_header?_ofSource (source : String) :
    (ofSource source).filterMap header? = tableHeaders source := by
  rw [ofSource, List.filterMap_flatMap, tableHeaders, List.filterMap_eq_flatMap_toList]
  exact List.flatMap_congr fun line _ => filterMap_header?_ofLine line

end Statement

/-! ## Both lists -/

/-- The name and the line of the table. -/
def TableBlock.header (block : TableBlock) : String × Nat :=
  (String.ofList block.name, block.line)

/-- The name and the line of the table. -/
def TableEntry.header (entry : TableEntry) : String × Nat :=
  (entry.name, entry.line)

/-- Each statement that starts a table has its block, whatever stands between them. -/
theorem TableBlock.map_header_ofStatements (statements : List Statement) :
    (ofStatements statements).map (·.header) = statements.filterMap Statement.header? := by
  induction statements with
  | nil => rfl
  | cons statement rest ih =>
    cases statement with
    | table line name =>
      rw [ofStatements, List.map_cons, ih]
      rfl
    | field _ | index _ | close => exact ih

/-- Each header has its block. -/
theorem TableBlock.map_header_ofSource (source : String) :
    (ofSource source).map (·.header) = tableHeaders source := by
  rw [ofSource, map_header_ofStatements, Statement.filterMap_header?_ofSource]

namespace Registry

/-- Each header has its entry. -/
theorem map_header_entries (source : String) :
    (ofSource source).entries.map (·.header) = tableHeaders source := by
  simp only [ofSource, List.map_map]
  exact List.zipIdx_map_fst 1 _

/-- An entry has its own number, and the identifier that the number and its name make. -/
theorem of_getElem?_entries {source : String} {i : Nat} {entry : TableEntry}
    (h : (ofSource source).entries[i]? = some entry) :
    entry.seq = i + 1 ∧ entry.id = canonicalId entry.seq entry.name := by
  simp only [ofSource, List.getElem?_map, Option.map_eq_some_iff, List.getElem?_zipIdx] at h
  obtain ⟨_, ⟨header, -, rfl⟩, rfl⟩ := h
  exact ⟨Nat.add_comm 1 i, rfl⟩

end Registry

/-! ## Models -/

/-- What a draft takes over from the entry of its table. No entry is without a block. -/
theorem TableDraft.map_ofSource {α : Type} (source : String) {view : TableDraft → α}
    {listed : TableEntry → α}
    (hview : ∀ registry entry block, view (ofBlock registry entry block) = listed entry) :
    (ofSource source).map view = (Registry.ofSource source).entries.map listed := by
  have hlength : (Registry.ofSource source).entries.length = (TableBlock.ofSource source).length := by
    simpa using congrArg List.length
      ((Registry.map_header_entries source).trans (TableBlock.map_header_ofSource source).symm)
  rw [ofSource, List.map_zipWith]
  simp only [hview]
  exact List.zipWith_const_right listed (Nat.le_of_eq hlength)

/-- Each block has its draft. -/
theorem TableDraft.exists_of_block {source : String} {i : Nat} {block : TableBlock}
    (hblock : (TableBlock.ofSource source)[i]? = some block) :
    ∃ entry, (ofSource source)[i]? = some (.ofBlock (.ofSource source) entry block) := by
  have hheaders := congrArg (·[i]?)
    ((Registry.map_header_entries source).trans (TableBlock.map_header_ofSource source).symm)
  simp only [List.getElem?_map, hblock, Option.map_some] at hheaders
  obtain ⟨entry, hentry, -⟩ := Option.map_eq_some_iff.mp hheaders
  exact ⟨entry, List.getElem?_zipWith_eq_some.mpr ⟨entry, block, hentry, hblock, rfl⟩⟩

/-- Each header has its draft, under its own name. -/
theorem TableDraft.map_name_ofSource (source : String) :
    (ofSource source).map (·.name) = (tableHeaders source).map (·.1) := by
  rw [← Registry.map_header_entries, List.map_map]
  exact map_ofSource source fun _ _ _ => rfl

/-- The schema has one model for each header. It is identified by the place and the name of its
    table, and found under its identifier. -/
structure Schema.FollowsHeaders (s : Schema) (headers : List (String × Nat)) : Prop where
  models : s.models.length = headers.length
  mainEntries : s.menus.main.length = headers.length
  identified : ∀ (i : Nat) (m : Model), s.models[i]? = some m → ∃ name line,
    headers[i]? = some (name, line) ∧ m.name = name ∧ m.id = canonicalId (i + 1) name ∧
      declaredName m.id = name ∧ s.menus.main[i]? = some (.ofTable name)
  distinct : s.models.Pairwise fun m m' => Text.sameAsciiLetters m.id m'.id = false
  model? : ∀ m ∈ s.models, s.model? m.id = some m
  modelByTable? : ∀ m ∈ s.models, ∀ table, Text.sameAsciiLetters m.id table = true →
    s.modelByTable? table = some m

section Compiled

variable {source : String} {s : Schema}

/-- Each block has its model, which is made of its draft and a settled board. -/
theorem exists_model_of_block (h : compile source = .ok s) {i : Nat} {block : TableBlock}
    (hblock : (TableBlock.ofSource source)[i]? = some block) :
    ∃ m entry b, s.models[i]? = some m ∧
      (TableDraft.ofSource source)[i]? = some (.ofBlock (.ofSource source) entry block) ∧
      (Board.settledOf source)[i]? = some b ∧
      m = (Model.ofDraft (.ofBlock (.ofSource source) entry block) b).deriveIndices := by
  obtain ⟨entry, hdraft⟩ := TableDraft.exists_of_block hblock
  -- Models are as many as drafts, and made of them.
  have hids := congrArg (·[i]?) (map_id_drafts h)
  simp only [List.getElem?_map, hdraft, Option.map_some] at hids
  obtain ⟨m, hm, -⟩ := Option.map_eq_some_iff.mp hids.symm
  obtain ⟨d, b, hd, hb, -, hmodel⟩ := exists_of_getElem?_models h hm
  obtain rfl := Option.some.inj (hdraft.symm.trans hd)
  exact ⟨m, entry, b, hm, hdraft, hb, hmodel⟩

/-- Each header has its model, under its own name. -/
theorem map_name_models (h : compile source = .ok s) :
    s.models.map (·.name) = (tableHeaders source).map (·.1) := by
  rw [← TableDraft.map_name_ofSource]
  exact map_models_of_compile h fun _ _ => rfl

/-- The main menu of a compiled schema lists its models. -/
theorem main_of_compile (h : compile source = .ok s) :
    s.menus.main = s.models.map fun m => .ofTable m.name := by
  rw [(compile_eq_ok_iff.mp h).2]
  rfl

/-- What holds of each block and the model that is made of it. -/
theorem forall₂_blocks_models {r : TableBlock → Model → Prop} (h : compile source = .ok s)
    (hr : ∀ (i : Nat) (entry : TableEntry) (block : TableBlock) (b : Board),
      (TableDraft.ofSource source)[i]? = some (.ofBlock (.ofSource source) entry block) →
      (Board.settledOf source)[i]? = some b →
      r block (Model.ofDraft (.ofBlock (.ofSource source) entry block) b).deriveIndices) :
    List.Forall₂ r (TableBlock.ofSource source) s.models := by
  have hlength : (TableBlock.ofSource source).length = s.models.length := by
    have hnames := congrArg List.length (map_name_models h)
    rw [← TableBlock.map_header_ofSource] at hnames
    simpa using hnames.symm
  refine List.forall₂_iff_get.mpr ⟨hlength, fun i hblock hmodel => ?_⟩
  obtain ⟨m, entry, b, hm, hd, hb, rfl⟩ :=
    exists_model_of_block h (List.getElem?_eq_getElem hblock)
  have hown := Option.some.inj ((List.getElem?_eq_getElem hmodel).symm.trans hm)
  rw [List.get_eq_getElem, List.get_eq_getElem, hown]
  exact hr i entry _ b hd hb

/-- A compiled schema follows the headers of its source. -/
theorem followsHeaders_of_compile (h : compile source = .ok s) :
    s.FollowsHeaders (tableHeaders source) := by
  have hnames := map_name_models h
  have hlength : s.models.length = (tableHeaders source).length := by
    simpa using congrArg List.length hnames
  constructor
  case models => exact hlength
  case mainEntries => rw [main_of_compile h, List.length_map, hlength]
  case identified =>
    intro i m hm
    have hname := congrArg (·[i]?) hnames
    simp only [List.getElem?_map, hm, Option.map_some] at hname
    obtain ⟨⟨name, line⟩, hheader, hname⟩ := Option.map_eq_some_iff.mp hname.symm
    have hid : m.id = canonicalId (i + 1) m.name := by
      obtain ⟨d, b, hd, -, -, rfl⟩ := exists_of_getElem?_models h hm
      rw [Nat.add_comm]
      exact TableDraft.id_of_getElem?_ofSource hd
    subst hname
    refine ⟨m.name, line, hheader, rfl, hid, ?_, ?_⟩
    · rw [hid, declaredName_canonicalId]
    · rw [main_of_compile h, List.getElem?_map, hm, Option.map_some]
  case distinct =>
    rw [List.pairwise_iff_getElem]
    intro i j hi hj hlt
    rw [Bool.eq_false_iff]
    intro hsame
    have hplace := place_unique_of_sameAsciiLetters h (List.getElem?_eq_getElem hi)
      (List.getElem?_eq_getElem hj) hsame
    omega
  case model? => exact fun m hm => model?_of_compile h hm
  case modelByTable? => exact fun m hm _ htable => modelByTable?_of_compile h hm htable

end Compiled

/-- The registry and the blocks of a source list the same tables, which the registry numbers from
    one; and what the source compiles to follows them. -/
theorem tables_follow_headers (source : String) :
    (Registry.ofSource source).entries.map (·.header) =
        (TableBlock.ofSource source).map (·.header) ∧
      (∀ i entry, (Registry.ofSource source).entries[i]? = some entry → entry.seq = i + 1) ∧
      ∀ s, compile source = .ok s →
        s.models.length = (TableBlock.ofSource source).length ∧
          s.FollowsHeaders (tableHeaders source) := by
  have hentries := Registry.map_header_entries source
  have hblocks := TableBlock.map_header_ofSource source
  refine ⟨hentries.trans hblocks.symm, fun i entry h => (Registry.of_getElem?_entries h).1,
    fun s h => ⟨?_, followsHeaders_of_compile h⟩⟩
  rw [(followsHeaders_of_compile h).models, ← hblocks, List.length_map]

/-- Three tables, two of one name. Between them stand a table without a name, a declaration that no
    table owns, and a comment. -/
def strayHeaders : String :=
  "table Way_Port \x7b
id Int [pk]
table
\x7d stray Int
  table\tWay_Port \x7b id Int [pk] \x7d
# table Gone
table S001_x"

theorem tables_follow_strayHeaders :
    compile strayHeaders = .ok (.ofChecked strayHeaders) ∧
      (Schema.ofChecked strayHeaders).FollowsHeaders
        [("Way_Port", 1), ("Way_Port", 5), ("S001_x", 7)] := by
  have hcompile : compile strayHeaders = .ok (.ofChecked strayHeaders) :=
    compile_eq_ok_iff.mpr ⟨by decide +kernel, rfl⟩
  have hheaders : tableHeaders strayHeaders =
      [("Way_Port", 1), ("Way_Port", 5), ("S001_x", 7)] := by
    decide +kernel
  obtain ⟨-, -, hfollows⟩ := tables_follow_headers strayHeaders
  rw [← hheaders]
  exact ⟨hcompile, (hfollows _ hcompile).2⟩

end SchemaLang
