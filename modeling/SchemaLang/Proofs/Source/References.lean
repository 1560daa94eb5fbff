import SchemaLang.Proofs.Draft.Columns
import SchemaLang.Proofs.Output.Naming
import SchemaLang.Proofs.Pairing.Fields
import SchemaLang.Proofs.Source.Headers
import SchemaLang.Proofs.Text.AsciiCase

/-!
# References to declared tables

A reference to a declared table is kept with the identifier of the table and the name of the column,
both in lower case by the full mapping. They are looked up later on, up to the case of ASCII letters.
So the table is found again only if lowering its identifier changes no letters but those of ASCII,
and the column only if some column is compared equal to its lower case form. Whatever is found is the
table that was meant, and a column of the same name up to letter case.

## Key results

- `foreignKeyParts?_of_references`: what a reference is kept as
- `model_unique_of_lower`: identifiers with one lower case form stand for one model
- `keyModel?_of_parts`, `resolveForeignKey?_of_parts`: when the table is found, and its column
- `exists_followsReference`: what becomes of a reference to a declared table
-/

namespace SchemaLang

/-! ## What a reference is kept as -/

/-- The text behind the arrow of a reference. -/
def referenceTarget? (value : List Char) : Option (List Char) :=
  match Text.trim value with
  | '>' :: target => some (Text.trim target)
  | _ => none

/-- The text stands behind an arrow. -/
theorem trim_of_referenceTarget? {value text : List Char} (h : referenceTarget? value = some text) :
    ∃ target, Text.trim value = '>' :: target ∧ Text.trim target = text := by
  rw [referenceTarget?] at h
  split at h
  · next target htrim => exact ⟨target, htrim, Option.some.inj h⟩
  · cases h

/-- The reference of the line is to the column of the table: it reads `> table.column`. -/
def FieldLine.References (line : FieldLine) (table column : String) : Prop :=
  '.' ∉ table.toList ∧
    line.reference?.bind referenceTarget? = some (table.toList ++ '.' :: column.toList)

instance (line : FieldLine) (table column : String) : Decidable (line.References table column) :=
  inferInstanceAs (Decidable (_ ∧ _))

section Line

variable {registry : Registry} {line : FieldLine} {f : Field} {table column id : String}

/-- A reference is kept with the identifier of its table. -/
theorem foreignKey_of_references (hdeclares : line.Declares registry f)
    (href : line.References table column) (hid : registry.resolve? table = some id) :
    f.foreignKey = some (Text.lower id ++ "." ++ Text.lower column) := by
  obtain ⟨hdot, htarget⟩ := href
  obtain ⟨value, hvalue, htarget⟩ := Option.bind_eq_some_iff.mp htarget
  obtain ⟨target, htrim, htext⟩ := trim_of_referenceTarget? htarget
  rw [hdeclares.foreignKey, hvalue, Option.bind_some, Attribute.readReference?, htrim]
  simp only [htext, Text.cutAt?_append hdot, Option.bind_eq_bind, Option.bind_some,
    String.ofList_toList, hid, Option.getD_some]

/-- What a reference is kept as is cut at its dot. -/
theorem foreignKeyParts?_of_references (hdeclares : line.Declares registry f)
    (href : line.References table column) (hid : registry.resolve? table = some id)
    (hdot : '.' ∉ id.toList) : f.foreignKeyParts? = some (Text.lower id, Text.lower column) := by
  have hlist : (Text.lower id ++ "." ++ Text.lower column).toList =
      (Text.lower id).toList ++ '.' :: (Text.lower column).toList := by
    simp
  have hlower : '.' ∉ (Text.lower id).toList := by
    rw [Text.lower, String.toList_ofList]
    exact Text.dot_not_mem_lowerChars hdot
  rw [Field.foreignKeyParts?, foreignKey_of_references hdeclares href hid]
  simp only [Option.bind_eq_bind, Option.bind_some, hlist, Text.cutAt?_append hlower,
    String.ofList_toList]

end Line

/-! ## Declared tables -/

namespace Registry

variable {source table id : String}

/-- A declared name is resolved. -/
theorem exists_resolve? {registry : Registry} {entry : TableEntry} (h : entry ∈ registry.entries)
    (hname : Text.sameAsciiLetters entry.name table = true) :
    ∃ id, registry.resolve? table = some id := by
  rw [resolve?, ← Option.isSome_iff_exists, Option.isSome_map, Option.isSome_or,
    Bool.or_eq_true, List.find?_isSome, List.find?_isSome]
  exact .inr ⟨entry, h, hname⟩

/-- A name is resolved to a table of that name. -/
theorem exists_entry_of_resolve? {registry : Registry} (h : registry.resolve? table = some id) :
    ∃ entry ∈ registry.entries, entry.id = id ∧
      Text.sameAsciiLetters entry.name table = true := by
  obtain ⟨entry, hentry, rfl⟩ := Option.map_eq_some_iff.mp h
  rcases Option.or_eq_some_iff.mp hentry with hexact | ⟨-, hsame⟩
  · have hname : entry.name = table := by simpa using List.find?_some hexact
    refine ⟨entry, List.mem_of_find?_eq_some hexact, rfl, ?_⟩
    rw [hname, Text.sameAsciiLetters_self]
  · have hname : Text.sameAsciiLetters entry.name table = true := by
      simpa using List.find?_some hsame
    exact ⟨entry, List.mem_of_find?_eq_some hsame, rfl, hname⟩

/-- The identifier of a table has no dot if its name has none. -/
theorem dot_not_mem_id (h : (ofSource source).resolve? table = some id)
    (hdot : '.' ∉ table.toList) : '.' ∉ id.toList := by
  obtain ⟨entry, hentry, rfl, hname⟩ := exists_entry_of_resolve? h
  obtain ⟨i, hi⟩ := List.mem_iff_getElem?.mp hentry
  have hlist : entry.id.toList =
      'S' :: (Text.paddedDecimal 3 entry.seq).toList ++ '_' :: entry.name.toList := by
    rw [(of_getElem?_entries hi).2]
    simp [canonicalId]
  have hmark : '.' ∉ (Text.paddedDecimal 3 entry.seq).toList :=
    fun hmem => absurd (isDigit_of_mem_paddedDecimal hmem) (by decide)
  have hown : '.' ∉ entry.name.toList := by
    rw [Text.mem_iff_of_asciiLower_eq (Text.sameAsciiLetters_iff.mp hname) rfl]
    exact hdot
  simp [hlist, hmark, hown]

end Registry

section Compiled

variable {source : String} {s : Schema} {m t : Model} {f : Field} {table column : String}

/-- Models carry the identifiers of the registry. -/
theorem map_id_models_eq_entries (h : compile source = .ok s) :
    s.models.map (·.id) = (Registry.ofSource source).entries.map (·.id) := by
  rw [← map_id_drafts h]
  exact TableDraft.map_ofSource source fun _ _ _ => rfl

/-- What a name is resolved to is a model. -/
theorem exists_model_of_resolve? (h : compile source = .ok s) {id : String}
    (hid : (Registry.ofSource source).resolve? table = some id) : ∃ t ∈ s.models, t.id = id := by
  obtain ⟨entry, hentry, rfl, -⟩ := Registry.exists_entry_of_resolve? hid
  have hmem : entry.id ∈ s.models.map (·.id) := by
    rw [map_id_models_eq_entries h]
    exact List.mem_map_of_mem hentry
  exact List.mem_map.mp hmem

/-- The fields of a model follow the lines of its block. -/
theorem exists_forall₂_fields (h : compile source = .ok s) {i : Nat} {block : TableBlock}
    (hblock : (TableBlock.ofSource source)[i]? = some block) :
    ∃ m, s.models[i]? = some m ∧
      List.Forall₂ (FieldLine.Declares (.ofSource source)) block.columnLines m.fields := by
  obtain ⟨m, entry, b, hm, -, -, rfl⟩ := exists_model_of_block h hblock
  exact ⟨_, hm, TableDraft.forall₂_fields_ofBlock _ entry block⟩

/-! ## Looking a reference up -/

/-- Models whose identifiers have one lower case form are one model. -/
theorem model_unique_of_lower (h : compile source = .ok s) (hm : m ∈ s.models) (ht : t ∈ s.models)
    (hlower : Text.lower m.id = Text.lower t.id) : m = t := by
  obtain ⟨i, hi⟩ := List.mem_iff_getElem?.mp hm
  obtain ⟨j, hj⟩ := List.mem_iff_getElem?.mp ht
  obtain ⟨name, hid⟩ := exists_id_of_getElem?_models h hi
  obtain ⟨name', hid'⟩ := exists_id_of_getElem?_models h hj
  have htable : TableNaming.tableOf {} (canonicalId (1 + i) name) ++ "" =
      TableNaming.tableOf {} (canonicalId (1 + j) name') ++ "" := by
    rw [← hid, ← hid']
    simp only [TableNaming.tableOf, LetterCase.apply, hlower]
  obtain rfl : i = j := Nat.add_left_cancel (TableNaming.seq_eq_of_tableOf_append {} htable)
  exact Option.some.inj (hi.symm.trans hj)

/-- The table of a reference is found if lowering its identifier changes no letters but those of
    ASCII, and else none is. -/
theorem keyModel?_of_parts (h : compile source = .ok s) (ht : t ∈ s.models)
    (hparts : f.foreignKeyParts? = some (Text.lower t.id, Text.lower column)) :
    s.keyModel? f = if Text.LowersAsAscii t.id then some t else none := by
  have hkey : s.keyModel? f = s.modelByTable? (Text.lower t.id) := by
    rw [Schema.keyModel?, hparts]
    rfl
  rw [hkey]
  split
  · next hascii => exact modelByTable?_of_compile h ht (Text.sameAsciiLetters_lower_iff.mpr hascii)
  · next hascii =>
    refine List.find?_eq_none.mpr fun m hm hsame => hascii ?_
    -- Another table would have the same lower case form.
    obtain rfl := model_unique_of_lower h hm ht (Text.lower_eq_of_sameAsciiLetters hsame)
    exact Text.sameAsciiLetters_lower_iff.mp hsame

/-- The column of a reference is looked up in the table, if that is found. -/
theorem resolveForeignKey?_of_parts (h : compile source = .ok s) (ht : t ∈ s.models)
    (hparts : f.foreignKeyParts? = some (Text.lower t.id, Text.lower column)) :
    s.resolveForeignKey? f =
      if Text.LowersAsAscii t.id then
        (t.fields.find? fun g => Text.sameAsciiLetters g.name (Text.lower column)).map (t, ·)
      else none := by
  have hresolve : s.resolveForeignKey? f = (s.keyModel? f).bind fun t =>
      (t.fields.find? fun g => Text.sameAsciiLetters g.name (Text.lower column)).map (t, ·) := by
    rw [Schema.resolveForeignKey?, Schema.keyModel?, hparts]
    simp only [Option.bind_eq_bind, Option.bind_some, Option.map_eq_bind]
    rfl
  rw [hresolve, keyModel?_of_parts h ht hparts]
  split
  · rfl
  · rfl

/-- What is found is the table, and a column of the same name up to letter case. -/
theorem eq_of_resolveForeignKey?_of_parts (h : compile source = .ok s) (ht : t ∈ s.models)
    (hparts : f.foreignKeyParts? = some (Text.lower t.id, Text.lower column)) {found : Model}
    {key : Field} (hfound : s.resolveForeignKey? f = some (found, key)) :
    found = t ∧ key ∈ t.fields ∧ Text.lower key.name = Text.lower column := by
  rw [resolveForeignKey?_of_parts h ht hparts] at hfound
  split at hfound
  · obtain ⟨key, hcolumn, heq⟩ := Option.map_eq_some_iff.mp hfound
    cases heq
    have hsame : Text.sameAsciiLetters key.name (Text.lower column) = true := by
      simpa using List.find?_some hcolumn
    exact ⟨rfl, List.mem_of_find?_eq_some hcolumn, Text.lower_eq_of_sameAsciiLetters hsame⟩
  · cases hfound

/-- Something is found if both the table and a column are compared equal to their lower case
    forms. -/
theorem isSome_resolveForeignKey?_iff (h : compile source = .ok s) (ht : t ∈ s.models)
    (hparts : f.foreignKeyParts? = some (Text.lower t.id, Text.lower column)) :
    (s.resolveForeignKey? f).isSome = true ↔ Text.LowersAsAscii t.id ∧
      ∃ key ∈ t.fields, Text.sameAsciiLetters key.name (Text.lower column) = true := by
  rw [resolveForeignKey?_of_parts h ht hparts]
  split
  · next hascii =>
    rw [Option.isSome_map, List.find?_isSome]
    exact ⟨fun hcolumn => ⟨hascii, hcolumn⟩, And.right⟩
  · next hascii => exact ⟨nofun, fun hboth => absurd hboth.1 hascii⟩

/-! ## What becomes of a reference -/

/-- What becomes of the field `f`, in the place `k` of the fields of `m`, which references a column
    of `t`. -/
structure Schema.FollowsReference (s : Schema) (m : Model) (k : Nat) (f : Field) (t : Model)
    (column : String) : Prop where
  /-- Nothing is found but the table that is meant, and a column of the same name up to letter
      case. -/
  sound : ∀ found key, s.resolveForeignKey? f = some (found, key) →
    found = t ∧ key ∈ t.fields ∧ Text.lower key.name = Text.lower column
  /-- It is found exactly if the lower case forms are compared equal to the names. -/
  resolves_iff : (s.resolveForeignKey? f).isSome = true ↔
    Text.LowersAsAscii t.id ∧
      ∃ key ∈ t.fields, Text.sameAsciiLetters key.name (Text.lower column) = true
  /-- So it is if lowering the names changes no letters but those of ASCII. -/
  resolves : Text.LowersAsAscii t.id → Text.LowersAsAscii column →
    (∃ key ∈ t.fields, key.name = column) →
      ∃ key, s.resolveForeignKey? f = some (t, key) ∧ Text.lower key.name = Text.lower column
  /-- The field has its many-to-one relationship exactly if the table is found. -/
  keyed_iff : f ∈ s.keyFields m ↔ Text.LowersAsAscii t.id
  /-- The relationship stands behind those of earlier fields. -/
  keyed : Text.LowersAsAscii t.id → ∃ r, (m.relationships.filter (·.isKeyed))[
    (m.fields.take k).countP fun g => (s.keyModel? g).isSome]? = some r ∧
      s.IsKeySide f r ∧ r.target = t.id

/-- What becomes of a field that is kept with the identifier of `t` and the name of a column. -/
theorem followsReference_of_parts (h : compile source = .ok s) {i k : Nat}
    (hm : s.models[i]? = some m) (hf : m.fields[k]? = some f) (ht : t ∈ s.models)
    (hparts : f.foreignKeyParts? = some (Text.lower t.id, Text.lower column)) :
    s.FollowsReference m k f t column := by
  have hkey := keyModel?_of_parts h ht hparts
  constructor
  case sound => exact fun found key => eq_of_resolveForeignKey?_of_parts h ht hparts
  case resolves_iff => exact isSome_resolveForeignKey?_iff h ht hparts
  case resolves =>
    rintro hascii hcolumn ⟨own, hown, rfl⟩
    -- The column itself is compared equal, so that it is found or an earlier one is.
    have hsame := Text.sameAsciiLetters_lower_iff.mpr hcolumn
    obtain ⟨⟨found, key⟩, hfound⟩ := Option.isSome_iff_exists.mp
      ((isSome_resolveForeignKey?_iff h ht hparts).mpr ⟨hascii, own, hown, hsame⟩)
    obtain ⟨rfl, -, hlower⟩ := eq_of_resolveForeignKey?_of_parts h ht hparts hfound
    exact ⟨key, hfound, hlower⟩
  case keyed_iff =>
    rw [Schema.keyFields, List.mem_filter, hkey]
    split
    · next hascii => exact ⟨fun _ => hascii, fun _ => ⟨List.mem_of_getElem? hf, rfl⟩⟩
    · next hascii => exact ⟨nofun, fun hlowers => absurd hlowers hascii⟩
  case keyed =>
    intro hascii
    rw [if_pos hascii] at hkey
    have hplace := List.getElem?_filter_countP_take (p := fun g => (s.keyModel? g).isSome) hf
      (by rw [hkey]; rfl)
    obtain ⟨r, hr, hside⟩ := (forall₂_keyFields_keyed h hm).exists_getElem? hplace
    obtain ⟨found, hfound, htarget⟩ := hside.leads
    rw [hkey, Option.some.injEq] at hfound
    exact ⟨r, hr, hside, htarget.trans (congrArg (·.id) hfound.symm)⟩

end Compiled

/-- A reference to a declared table is followed, and brings about a relationship, exactly if lowering
    the names changes nothing by which they are compared. What it finds is what it names. -/
theorem exists_followsReference {source : String} {s : Schema} (h : compile source = .ok s)
    {i k : Nat} {block : TableBlock} {line : FieldLine} {table column : String}
    (hblock : (TableBlock.ofSource source)[i]? = some block)
    (hline : block.columnLines[k]? = some line) (href : line.References table column)
    (htable : ∃ entry ∈ (Registry.ofSource source).entries,
      Text.sameAsciiLetters entry.name table = true) :
    ∃ m f t, s.models[i]? = some m ∧ m.fields[k]? = some f ∧ f.name = String.ofList line.name ∧
      t ∈ s.models ∧ (Registry.ofSource source).resolve? table = some t.id ∧
      List.Forall₂ s.IsKeySide (s.keyFields m) (m.relationships.filter (·.isKeyed)) ∧
      s.FollowsReference m k f t column := by
  obtain ⟨entry, hentry, hname⟩ := htable
  obtain ⟨id, hid⟩ := Registry.exists_resolve? hentry hname
  obtain ⟨t, ht, rfl⟩ := exists_model_of_resolve? h hid
  obtain ⟨m, hm, hfields⟩ := exists_forall₂_fields h hblock
  obtain ⟨f, hf, hdeclares⟩ := hfields.exists_getElem? hline
  have hparts := foreignKeyParts?_of_references hdeclares href hid
    (Registry.dot_not_mem_id hid href.1)
  exact ⟨m, f, t, hm, hf, hdeclares.name, ht, hid, forall₂_keyFields_keyed h hm,
    followsReference_of_parts h hm hf ht hparts⟩

/-- Two tables whose names differ by case, and a key whose last reference is to the second one. -/
def casedPorts : String :=
  "table Port \x7b
id Int [pk]
\x7d
table PORT \x7b
Code Int [pk]
port_id Int [ref: > Port.id, REF: > PORT.Code]
\x7d"

theorem exists_followsReference_casedPorts :
    ∃ block line, compile casedPorts = .ok (.ofChecked casedPorts) ∧
      (TableBlock.ofSource casedPorts)[1]? = some block ∧ block.columnLines[1]? = some line ∧
      line.References "PORT" "Code" ∧
      (∃ entry ∈ (Registry.ofSource casedPorts).entries,
        Text.sameAsciiLetters entry.name "PORT" = true) ∧
      ∃ m f t, (Schema.ofChecked casedPorts).models[1]? = some m ∧ m.fields[1]? = some f ∧
        t.id = "S002_PORT" ∧ (Schema.ofChecked casedPorts).FollowsReference m 1 f t "Code" := by
  have hcompile : compile casedPorts = .ok (.ofChecked casedPorts) :=
    compile_eq_ok_iff.mpr ⟨by decide +kernel, rfl⟩
  have hreference : ((TableBlock.ofSource casedPorts)[1]?.bind (·.columnLines[1]?)).any
      (·.References "PORT" "Code") = true := by
    decide +kernel
  have htable : ∃ entry ∈ (Registry.ofSource casedPorts).entries,
      Text.sameAsciiLetters entry.name "PORT" = true := by
    decide +kernel
  have hid : (Registry.ofSource casedPorts).resolve? "PORT" = some "S002_PORT" := by
    decide +kernel
  obtain ⟨line, hfound, href⟩ := (Option.any_eq_true _ _).mp hreference
  obtain ⟨block, hblock, hline⟩ := Option.bind_eq_some_iff.mp hfound
  have href := of_decide_eq_true href
  obtain ⟨m, f, t, hm, hf, -, -, ht, -, hfollows⟩ :=
    exists_followsReference hcompile hblock hline href htable
  rw [hid, Option.some.injEq] at ht
  exact ⟨block, line, hcompile, hblock, hline, href, htable, m, f, t, hm, hf, ht.symm, hfollows⟩

/-- Ports whose name is not in ASCII, and legs that reference them under that very name. -/
def cyrillicPorts : String :=
  "table Порт \x7b
id Int [pk]
\x7d
table Leg \x7b
id Int [pk]
port_id Int [ref: > Порт.id]
\x7d"

/-- A reference that names its table and its column exactly may not be followed. -/
theorem resolveForeignKey?_cyrillicPorts :
    compile cyrillicPorts = .ok (.ofChecked cyrillicPorts) ∧
      ((TableBlock.ofSource cyrillicPorts)[1]?.bind (·.columnLines[1]?)).any
        (·.References "Порт" "id") = true ∧
      (Registry.ofSource cyrillicPorts).resolve? "Порт" = some "S001_Порт" ∧
      ((Schema.ofChecked cyrillicPorts).models.map fun m => (m.id, m.fields.map (·.name))) =
        [("S001_Порт", ["id"]), ("S002_Leg", ["id", "port_id"])] ∧
      ∀ m ∈ (Schema.ofChecked cyrillicPorts).models, m.relationships = [] ∧
        ∀ f ∈ m.fields, (Schema.ofChecked cyrillicPorts).resolveForeignKey? f = none :=
  ⟨compile_eq_ok_iff.mpr ⟨by decide +kernel, rfl⟩, by decide +kernel⟩

end SchemaLang
