import SchemaLang.Proofs.Source.Braces
import SchemaLang.Proofs.Source.Headers
import SchemaLang.Review.Report

/-!
# The table that opens a source

The check of a source and the registry of its tables decide each by itself what starts a table. To
the check it is the keyword in front of a line; the registry asks for a name behind it as well. So the
table that a checked source opens with is the first one of the registry if it has a name, and a source
in which the keyword never has a name behind it passes the check without declaring a table.

## Key results

- `Token.tableName?_eq_some_iff`: the lines that start a table
- `Registry.head?_map_header_entries`: the first table of a registry is that of the first such line
- `models_eq_nil_iff`: the sources that declare no table
- `exists_opening_of_checkSource`: what a checked source opens with
- `models_eq_nil_namelessTable`: a checked source that declares no table
-/

namespace SchemaLang

/-! ## Lines that start a table -/

/-- A line starts a table if a name follows the keyword. -/
theorem Token.tableName?_eq_some_iff {tokens : List Token} {name : List Char} :
    tableName? tokens = some name ↔ ∃ tail, tokens = .word tableKeyword :: .word name :: tail := by
  constructor
  · intro h
    unfold tableName? at h
    split at h
    · next keyword name' tail =>
      split at h
      · next hkeyword =>
        obtain rfl := Option.some.inj h
        exact ⟨tail, by rw [hkeyword]⟩
      · cases h
    · cases h
  · rintro ⟨tail, rfl⟩
    rfl

/-- The first token of a line is the keyword. -/
theorem Token.exists_cons_of_startsTable {tokens : List Token} (h : startsTable tokens = true) :
    ∃ tail, tokens = .word tableKeyword :: tail := by
  unfold startsTable at h
  split at h
  · next keyword tail => exact ⟨tail, by rw [eq_of_beq h]⟩
  · cases h

/-- The header of a line, if it starts a table. -/
def SourceLine.header? (line : SourceLine) : Option (String × Nat) :=
  line.tableName?.map (·, line.number)

theorem SourceLine.header?_eq_none_iff {line : SourceLine} :
    line.header? = none ↔
      ∀ name tail, line.tokens ≠ .word Token.tableKeyword :: .word name :: tail := by
  rw [header?, tableName?, Option.map_eq_none_iff, Option.map_eq_none_iff,
    Option.eq_none_iff_forall_ne_some]
  simp only [ne_eq, Token.tableName?_eq_some_iff, not_exists]

/-- Significant lines keep the order of their numbers. -/
theorem pairwise_number_significantLines (source : String) :
    (significantLines source).Pairwise (·.number < ·.number) := by
  have hnumbers : (numberedLines source).map (·.number) =
      List.range' 1 (Text.lines source.toList).length := by
    rw [numberedLines, List.map_map]
    exact List.zipIdx_map_snd 1 _
  have hall : (numberedLines source).Pairwise (·.number < ·.number) := by
    rw [← List.pairwise_map, hnumbers]
    exact List.pairwise_lt_range'
  exact hall.filter _

/-! ## The first table -/

namespace Registry

/-- The first table of a registry is that of the first line that starts one. -/
theorem head?_map_header_entries (source : String) :
    (ofSource source).entries.head?.map (·.header) =
      (significantLines source).findSome? (·.header?) := by
  rw [← List.head?_map, map_header_entries, tableHeaders, List.head?_filterMap]
  rfl

/-- A registry is empty if no line starts a table. -/
theorem entries_eq_nil_iff {source : String} :
    (ofSource source).entries = [] ↔ ∀ line ∈ significantLines source, line.header? = none := by
  rw [← List.map_eq_nil_iff (f := (·.header)), map_header_entries, tableHeaders,
    List.filterMap_eq_nil_iff]
  rfl

/-- The first table of a registry stands on the first significant line if that line starts one. -/
theorem line_head?_entries_iff {source : String} {first : SourceLine} {rest : List SourceLine}
    (hlines : significantLines source = first :: rest) :
    (ofSource source).entries.head?.map (·.line) = some first.number ↔
      first.header? ≠ none := by
  have hline : (ofSource source).entries.head?.map (·.line) =
      ((significantLines source).findSome? (·.header?)).map (·.2) := by
    rw [← head?_map_header_entries, Option.map_map]
    rfl
  rw [hline, hlines, List.findSome?_cons]
  cases hheader : first.header? with
  | some header =>
    obtain ⟨name, -, rfl⟩ := Option.map_eq_some_iff.mp hheader
    simp
  | none =>
    -- Any other line has a greater number.
    have hbehind := pairwise_number_significantLines source
    rw [hlines, List.pairwise_cons] at hbehind
    simp only [ne_eq, not_true_eq_false, iff_false]
    intro hfound
    obtain ⟨header, hheader', hnumber⟩ := Option.map_eq_some_iff.mp hfound
    obtain ⟨line, hline, hof⟩ := List.exists_of_findSome?_eq_some hheader'
    obtain ⟨name, -, rfl⟩ := Option.map_eq_some_iff.mp hof
    exact absurd hnumber (Nat.ne_of_gt (hbehind.1 line hline))

end Registry

/-- A source compiles to no models if none of its lines starts a table. -/
theorem models_eq_nil_iff {source : String} {s : Schema} (h : compile source = .ok s) :
    s.models = [] ↔ ∀ line ∈ significantLines source, line.header? = none := by
  have hlength : s.models.length = (Registry.ofSource source).entries.length := by
    rw [(followsHeaders_of_compile h).models, ← Registry.map_header_entries, List.length_map]
  rw [← Registry.entries_eq_nil_iff, ← List.length_eq_zero_iff, hlength, List.length_eq_zero_iff]

/-! ## Checked sources -/

/-- A checked source has a significant line, and the first one begins with the keyword. -/
theorem exists_startsTable_of_checkSource {source : String} (h : checkSource source = .ok ()) :
    ∃ first rest, significantLines source = first :: rest ∧
      Token.startsTable first.tokens = true := by
  have hverdict := verdict_checkSource source
  rw [h] at hverdict
  cases hverdict with
  | ok hfirst htable =>
    obtain ⟨rest, hlines⟩ := List.head?_eq_some_iff.mp hfirst
    exact ⟨_, rest, hlines, htable⟩

/-- The first significant line of a checked source begins with the keyword. If a name stands behind it,
    and only then, its table is the first one of the registry. A schema without models comes of the
    sources in which no keyword in front of a line has a name behind it. -/
theorem exists_opening_of_checkSource {source : String} (h : checkSource source = .ok ()) :
    ∃ first rest tail, significantLines source = first :: rest ∧
      first.tokens = .word Token.tableKeyword :: tail ∧
      ((Registry.ofSource source).entries.head?.map (·.line) = some first.number ↔
        ∃ name others, tail = .word name :: others) ∧
      ∃ s, compile source = .ok s ∧
        (s.models = [] ↔ ∀ line ∈ significantLines source, ∀ name others,
          line.tokens ≠ .word Token.tableKeyword :: .word name :: others) := by
  obtain ⟨first, rest, hlines, hstarts⟩ := exists_startsTable_of_checkSource h
  obtain ⟨tail, htokens⟩ := Token.exists_cons_of_startsTable hstarts
  have hcompile : compile source = .ok (.ofChecked source) := compile_eq_ok_iff.mpr ⟨h, rfl⟩
  refine ⟨first, rest, tail, hlines, htokens, ?_, _, hcompile, ?_⟩
  · rw [Registry.line_head?_entries_iff hlines, ne_eq, SourceLine.header?_eq_none_iff, htokens]
    simp
  · rw [models_eq_nil_iff hcompile]
    simp only [SourceLine.header?_eq_none_iff]

/-- The first table has no name, and the second one has its name in brackets. -/
def namelessHubs : String :=
  "# hubs
table
table [Hub] \x7b
id Int [pk]
\x7d
table Port"

theorem exists_opening_namelessHubs :
    checkSource namelessHubs = .ok () ∧
      ∃ first rest tail s, significantLines namelessHubs = first :: rest ∧ first.number = 2 ∧
        first.tokens = .word Token.tableKeyword :: tail ∧
        (¬ ∃ name others, tail = .word name :: others) ∧
        (Registry.ofSource namelessHubs).entries.head?.map (·.line) = some 6 ∧
        compile namelessHubs = .ok s ∧ s.models.length = 1 ∧
        ¬ ∀ line ∈ significantLines namelessHubs, ∀ name others,
          line.tokens ≠ .word Token.tableKeyword :: .word name :: others := by
  obtain ⟨hchecked, hnumber, hline, hlength⟩ : checkSource namelessHubs = .ok () ∧
      (significantLines namelessHubs).head?.map (·.number) = some 2 ∧
      (Registry.ofSource namelessHubs).entries.head?.map (·.line) = some 6 ∧
      (Schema.ofChecked namelessHubs).models.length = 1 := by
    decide +kernel
  obtain ⟨first, rest, tail, hlines, htokens, hname, s, hcompile, hmodels⟩ :=
    exists_opening_of_checkSource hchecked
  rw [hlines, List.head?_cons, Option.map_some, Option.some.injEq] at hnumber
  obtain rfl := (compile_eq_ok_iff.mp hcompile).2
  refine ⟨hchecked, first, rest, tail, _, hlines, hnumber, htokens, ?_, hline, hcompile, hlength,
    fun hnone => ?_⟩
  · rw [← hname, hline, hnumber]
    decide
  · rw [hmodels.mpr hnone] at hlength
    cases hlength

/-- The keyword by itself. -/
def namelessTable : String := "table"

/-- It passes the check, declares no table, and compiles to a schema without models, which passes the
    review. -/
theorem models_eq_nil_namelessTable :
    checkSource namelessTable = .ok () ∧ (Registry.ofSource namelessTable).entries = [] ∧
      ∃ s, compile namelessTable = .ok s ∧ s.models = [] ∧ s.isValid = true := by
  obtain ⟨hchecked, hentries, hmodels, hvalid⟩ : checkSource namelessTable = .ok () ∧
      (Registry.ofSource namelessTable).entries = [] ∧
      (Schema.ofChecked namelessTable).models = [] ∧
      (Schema.ofChecked namelessTable).isValid = true := by
    decide +kernel
  exact ⟨hchecked, hentries, _, compile_eq_ok_iff.mpr ⟨hchecked, rfl⟩, hmodels, hvalid⟩

end SchemaLang
