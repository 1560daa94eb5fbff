import SchemaLang.Proofs.Source.Sections

/-!
# Tables and the text of other tables

A table is drafted from its own block and from the registry, which knows the other tables by name
alone. So what the text of a table makes of it, but for its relationships, is the same in every
source that declares tables of the same names.

## Key results

- `TableDraft.ofBlock_unnumbered`: a draft does not depend on the numbers of lines
- `Registry.unnumbered_eq_of_names`: a registry depends on the names of the tables
- `TableDraft.draft_eq_of_tableText`: a draft depends on the names and the text of its own table
- `model_eq_of_tableText`: so does a model, but for its relationships
-/

namespace SchemaLang

/-! ## Registries without numbers -/

/-- The table, whatever line it stands on. -/
def TableEntry.unnumbered (entry : TableEntry) : TableEntry := { entry with line := 0 }

namespace Registry

/-- The registry, whatever lines its tables stand on. -/
def unnumbered (r : Registry) : Registry where
  entries := r.entries.map (·.unnumbered)

theorem resolve?_unnumbered (r : Registry) (name : String) :
    r.unnumbered.resolve? name = r.resolve? name := by
  have hfind : ∀ p : TableEntry → Bool, (∀ entry, p entry.unnumbered = p entry) →
      r.unnumbered.entries.find? p = (r.entries.find? p).map (·.unnumbered) := by
    intro p hp
    rw [unnumbered, List.find?_map, show p ∘ TableEntry.unnumbered = p from funext hp]
  rw [resolve?, hfind _ fun _ => rfl, hfind _ fun _ => rfl, ← Option.map_or, Option.map_map]
  rfl

theorem byTable?_unnumbered (r : Registry) (table : String) :
    r.unnumbered.byTable? table = r.byTable? table := by
  rw [byTable?, unnumbered, List.find?_map, Option.map_map]
  rfl

/-- But for the numbers of lines, the registry is made of the names of the tables. -/
theorem unnumbered_ofSource (source : String) :
    (ofSource source).unnumbered.entries =
      (((tableHeaders source).map (·.1)).zipIdx 1).map fun (name, seq) =>
        { seq, name, id := canonicalId seq name, line := 0 } := by
  rw [unnumbered, ofSource, List.map_map, List.zipIdx_map, List.map_map]
  rfl

theorem unnumbered_eq_of_names {source source' : String}
    (h : (tableHeaders source).map (·.1) = (tableHeaders source').map (·.1)) :
    (ofSource source).unnumbered = (ofSource source').unnumbered := by
  have hentries : (ofSource source).unnumbered.entries = (ofSource source').unnumbered.entries := by
    rw [unnumbered_ofSource, unnumbered_ofSource, h]
  exact congrArg Registry.mk hentries

end Registry

/-! ## Drafts without numbers -/

/-- Attributes look tables up by name. -/
theorem Attribute.ofItem?_unnumbered (registry : Registry) (item : List Char) :
    ofItem? registry.unnumbered item = ofItem? registry item := by
  simp only [ofItem?, ofAssignment?, readReference?, Registry.resolve?_unnumbered]

theorem ColumnDraft.ofLine_unnumbered (registry : Registry) (line : FieldLine) (type : FieldType)
    (size : Size) :
    ofLine registry.unnumbered line.unnumbered type size = ofLine registry line type size := by
  have hitems : Attribute.ofItem? registry.unnumbered = Attribute.ofItem? registry :=
    funext (Attribute.ofItem?_unnumbered registry)
  rw [ofLine, hitems]
  rfl

namespace Member

theorem ofLine_unnumbered (registry : Registry) (line : FieldLine) :
    ofLine registry.unnumbered line.unnumbered = ofLine registry line := by
  simp only [ofLine, ColumnDraft.ofLine_unnumbered]
  rfl

theorem link?_unnumbered (registry : Registry) (member : Member) :
    member.link? registry.unnumbered = member.link? registry := by
  cases member with
  | association a => rfl
  | column c => simp only [link?, ColumnDraft.link?, Registry.byTable?_unnumbered]

end Member

namespace TableDraft

/-- A draft does not depend on the numbers of lines. -/
theorem ofBlock_unnumbered (registry : Registry) (entry : TableEntry) (block : TableBlock) :
    ofBlock registry.unnumbered entry.unnumbered block.unnumbered =
      ofBlock registry entry block := by
  have hmembers : block.unnumbered.fields.map (Member.ofLine registry.unnumbered) =
      block.fields.map (Member.ofLine registry) := by
    rw [TableBlock.unnumbered, List.map_map]
    exact List.map_congr_left fun line _ => Member.ofLine_unnumbered registry line
  have hlinks : Member.link? registry.unnumbered = Member.link? registry :=
    funext (Member.link?_unnumbered registry)
  rw [ofBlock, hmembers, ofMembers, hlinks, TableBlock.unnumbered, List.map_map]
  rfl

/-- The drafts of a source are made without the numbers of its lines. -/
theorem ofSource_unnumbered (source : String) :
    ofSource source = List.zipWith (ofBlock (Registry.ofSource source).unnumbered)
      (Registry.ofSource source).unnumbered.entries
      ((TableBlock.ofSource source).map (·.unnumbered)) := by
  rw [Registry.unnumbered, List.zipWith_map]
  exact congrArg (List.zipWith · _ _) (funext₂ fun entry block =>
    (ofBlock_unnumbered (Registry.ofSource source) entry block).symm)

/-- A draft depends on the names of all tables and the text of its own. -/
theorem draft_eq_of_tableText {source source' text : String} {i : Nat}
    (hnames : (tableHeaders source).map (·.1) = (tableHeaders source').map (·.1))
    (htext : (tableTexts source)[i]? = some text) (htext' : (tableTexts source')[i]? = some text) :
    (ofSource source)[i]? = (ofSource source')[i]? := by
  -- Both blocks are the first one of the same text.
  have hblocks : ((TableBlock.ofSource source).map (·.unnumbered))[i]? =
      ((TableBlock.ofSource source').map (·.unnumbered))[i]? := by
    obtain ⟨block, hblock, hread⟩ := TableBlock.exists_of_tableText htext
    obtain ⟨block', hblock', hread'⟩ := TableBlock.exists_of_tableText htext'
    rw [List.getElem?_map, List.getElem?_map, hblock, hblock', Option.map_some, Option.map_some,
      ← hread, ← hread']
  rw [ofSource_unnumbered source, ofSource_unnumbered source', List.getElem?_zipWith',
    List.getElem?_zipWith', hblocks, Registry.unnumbered_eq_of_names hnames]

end TableDraft

/-! ## Models -/

/-- Each table has its model. -/
theorem exists_model_of_tableText {source text : String} {s : Schema} {i : Nat}
    (h : compile source = .ok s) (htext : (tableTexts source)[i]? = some text) :
    ∃ m, s.models[i]? = some m := by
  obtain ⟨block, hblock, -⟩ := TableBlock.exists_of_tableText htext
  obtain ⟨m, _, _, hm, -⟩ := exists_model_of_block h hblock
  exact ⟨m, hm⟩

/-- In two sources that declare tables of the same names in the same order, a table with the same
    text in both has the same model, but for its relationships. -/
theorem model_eq_of_tableText {source source' text : String} {s s' : Schema} {i : Nat}
    (h : compile source = .ok s) (h' : compile source' = .ok s')
    (hnames : (tableHeaders source).map (·.1) = (tableHeaders source').map (·.1))
    (htext : (tableTexts source)[i]? = some text) (htext' : (tableTexts source')[i]? = some text) :
    ∃ m m', s.models[i]? = some m ∧ s'.models[i]? = some m' ∧
      m' = { m with relationships := m'.relationships } := by
  obtain ⟨m, hm⟩ := exists_model_of_tableText h htext
  obtain ⟨m', hm'⟩ := exists_model_of_tableText h' htext'
  obtain ⟨d, b, hd, -, -, hmodel⟩ := exists_of_getElem?_models h hm
  obtain ⟨d', b', hd', -, -, hmodel'⟩ := exists_of_getElem?_models h' hm'
  have hdrafts := TableDraft.draft_eq_of_tableText hnames htext htext'
  obtain rfl : d = d' := Option.some.inj (hd.symm.trans (hdrafts.trans hd'))
  -- Of a model, only the relationships are made with the other drafts in view.
  exact ⟨m, m', hm, hm', by rw [hmodel', hmodel]; rfl⟩

/-- Legs between ports that declare nothing but their key. -/
def plainPorts : String :=
  "# ports
table Port \x7b
id Int [pk]
\x7d
table Leg \x7b
id Int [pk]
port_id Int [ref: > Port.ID, index]
\x7d"

/-- The same legs, behind ports that name what leads to them. Between them stand a table without a
    name, declarations that no table owns, and a comment. -/
def namedPorts : String :=
  "table
  table Port \x7b id Int [pk] legs Leg[] [back_populates: 'home'] \x7d stray Int
\x7b
# table Gone \x7b
\x7d
table Leg \x7b
id Int [pk]
port_id Int [ref: > Port.ID, index]
\x7d"

/-- The text of the legs. -/
def legText : String :=
  "table Leg \x7b
id Int [pk]
port_id Int [ref: > Port.ID, index]
\x7d"

theorem model_eq_of_legText :
    ∃ s s' m m', compile plainPorts = .ok s ∧ compile namedPorts = .ok s' ∧
      s.models[1]? = some m ∧ s'.models[1]? = some m' ∧
      m' = { m with relationships := m'.relationships } ∧
      m.relationships.map (·.name) = ["port"] ∧ m'.relationships.map (·.name) = ["home"] := by
  obtain ⟨hchecked, hchecked', hheaders, htext, htext'⟩ :
      checkSource plainPorts = .ok () ∧ checkSource namedPorts = .ok () ∧
        (tableHeaders plainPorts).map (·.1) = (tableHeaders namedPorts).map (·.1) ∧
        (tableTexts plainPorts)[1]? = some legText ∧
        (tableTexts namedPorts)[1]? = some legText := by
    decide +kernel
  obtain ⟨hnames, hnames'⟩ :
      (Schema.ofChecked plainPorts).models[1]?.map (·.relationships.map (·.name)) =
          some ["port"] ∧
        (Schema.ofChecked namedPorts).models[1]?.map (·.relationships.map (·.name)) =
          some ["home"] := by
    decide +kernel
  have hcompile := compile_eq_ok_iff.mpr ⟨hchecked, rfl⟩
  have hcompile' := compile_eq_ok_iff.mpr ⟨hchecked', rfl⟩
  obtain ⟨m, m', hm, hm', hmodel⟩ :=
    model_eq_of_tableText hcompile hcompile' hheaders htext htext'
  rw [hm, Option.map_some, Option.some.injEq] at hnames
  rw [hm', Option.map_some, Option.some.injEq] at hnames'
  exact ⟨_, _, m, m', hcompile, hcompile', hm, hm', hmodel, hnames, hnames'⟩

end SchemaLang
