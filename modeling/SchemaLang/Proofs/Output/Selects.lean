import SchemaLang.Proofs.Output.Forms

/-!
# What a select posts

A form offers the rows that a foreign key can reference. What it posts for a row, and compares with
the key to mark the chosen one, is the primary key of that row. The review also admits keys that
reference another unique column. For them the form posts a value of the wrong column: a select posts
the referenced column exactly if that is a primary key.

## Key results

- `FormPage.postsKeys_of_relatedInputs`: the selects of a form and what they post
- `exists_postsKeys`: so post the forms of a valid schema
- `postsId_portsByCode`: a form that does not post the column which its key references
-/

namespace SchemaLang

variable {s : Schema} {naming : TableNaming} {m : Model} {f : Field}

namespace FormPage

/-- How the lines begin that open a select and that offer a row. -/
def optionOpenings : List String :=
  ["            <select ", "                <option value=\"\x7b\x7b "]

/-- The line of a select that offers a row: it posts the column `value` of the row, marks the row
    whose column that is the value of the field, and shows the column `display`. -/
def optionLine (name value display : String) : String :=
  "                <option value=\"\x7b\x7b related." ++ value ++
    " \x7d\x7d\" \x7b\x7b 'selected' if edit and item." ++ name ++ " == related." ++ value ++
    " else '' \x7d\x7d>\x7b\x7b related." ++ display ++ " \x7d\x7d</option>"

/-- An option is written in pieces. -/
theorem optionLine_eq (name value display : String) :
    "                <option value=\"" ++ braced ("related." ++ value) ++ "\" " ++
      braced ("'selected' if edit and item." ++ name ++ " == related." ++ value ++ " else ''") ++
      ">" ++ braced ("related." ++ display) ++ "</option>" = optionLine name value display := by
  have hposted : "                <option value=\"\x7b\x7b related." =
      "                <option value=\"" ++ "\x7b\x7b " ++ "related." := by
    decide +kernel
  have hcompared : " \x7d\x7d\" \x7b\x7b 'selected' if edit and item." =
      " \x7d\x7d" ++ "\" " ++ "\x7b\x7b " ++ "'selected' if edit and item." := by
    decide +kernel
  have hshown : " else '' \x7d\x7d>\x7b\x7b related." =
      " else ''" ++ " \x7d\x7d" ++ ">" ++ "\x7b\x7b " ++ "related." := by
    decide +kernel
  have hend : " \x7d\x7d</option>" = " \x7d\x7d" ++ "</option>" := by decide +kernel
  unfold braced optionLine
  rw [hposted, hcompared, hshown, hend]
  simp only [String.append_assoc]

/-- The lines open the select of a foreign key and offer its rows. They post the primary key of the
    model that the key leads to, which is the referenced column only if that one is a primary key.
    Other fields have no such lines. -/
inductive PostsKey (s : Schema) (f : Field) : List String → Prop where
  | select {target : Model} {column key : Field} {line display : String}
      (isKey : f.isForeignKey = true) (resolve : s.resolveForeignKey? f = some (target, column))
      (primary : target.primaryKey? = some key)
      (agrees_iff : key.name = column.name ↔ column.primaryKey = true)
      (control : IsSelect f.name line) : PostsKey s f [line, optionLine f.name key.name display]
  | plain (isPlain : f.isForeignKey = false) : PostsKey s f []

/-- The selects of a form and the rows that they offer are those of its foreign keys, one after the
    other. -/
def PostsKeys (form : FormPage) (s : Schema) (fields : List Field) : Prop :=
  ∃ selects, form.lines.filter (opensWithAny optionOpenings) = selects.flatten ∧
    List.Forall₂ (PostsKey s) fields selects

end FormPage

namespace FormInput

open FormPage

/-- An input opens a select or offers rows only in its control. -/
theorem filter_lines_options (i : FormInput) :
    i.lines.filter (opensWithAny optionOpenings) =
      i.controlLines.filter (opensWithAny optionOpenings) := by
  have hdiv : opensWithAny optionOpenings "        <div class=\"mb-4\">" = false := by
    decide +kernel
  have hend : opensWithAny optionOpenings "        </div>" = false := by decide +kernel
  have hlabel x : opensWithAny optionOpenings ("            <label for=\"" ++ x) = false :=
    opensWithAny_append (by decide +kernel) x
  unfold lines
  simp only [List.filter_append, List.filter_cons, List.filter_nil, String.append_assoc, hdiv, hend,
    hlabel, Bool.false_eq_true, if_false, List.nil_append, List.append_nil]

/-- A select is opened once, and its rows post and compare one column. -/
theorem filter_controlLines_options {i : FormInput} {rows value display : String}
    (h : i.control = .select rows value display) :
    ∃ line, IsSelect i.name line ∧
      i.controlLines.filter (opensWithAny optionOpenings) =
        [line, optionLine i.name value display] := by
  have hselect x : opensWithAny optionOpenings ("            <select " ++ x) = true :=
    opensWithAny_append (by decide +kernel) x
  have hfirst : opensWithAny optionOpenings
      "                <option value=\"\">Select...</option>" = false := by
    decide +kernel
  have hloop : opensWithAny optionOpenings (loopLine rows) = false := by
    unfold loopLine
    simp only [String.append_assoc]
    exact opensWithAny_append (by decide +kernel) _
  have hoption : opensWithAny optionOpenings (optionLine i.name value display) = true := by
    unfold optionLine
    simp only [String.append_assoc]
    exact opensWithAny_append (by decide +kernel) _
  have hdone : opensWithAny optionOpenings ("                " ++ tag "endfor") = false := by
    decide +kernel
  have hclose : opensWithAny optionOpenings "            </select>" = false := by decide +kernel
  refine ⟨_, .select (" class=\"" ++ inputClass ++ "\"" ++ i.requiredMark ++ ">"), ?_⟩
  unfold controlLines
  simp only [h, indented_tag, optionLine_eq, naming, attributesOf]
  simp only [String.append_assoc, List.filter_cons, List.filter_nil, hselect, hfirst, hloop,
    hoption, hdone, hclose, if_true, Bool.false_eq_true, if_false]

/-- Another control opens no select. -/
theorem filter_controlLines_plain {i : FormInput} {f : Field} (h : i.control = plainControl f) :
    i.controlLines.filter (opensWithAny optionOpenings) = [] := by
  have harea x : opensWithAny optionOpenings ("            <textarea " ++ x) = false :=
    opensWithAny_append (by decide +kernel) x
  have hcheckbox x :
      opensWithAny optionOpenings ("            <input type=\"checkbox\" " ++ x) = false :=
    opensWithAny_append (by decide +kernel) x
  have hentry x : opensWithAny optionOpenings ("            <input type=\"" ++ x) = false :=
    opensWithAny_append (by decide +kernel) x
  unfold controlLines
  cases hcontrol : i.control with
  | select rows value display =>
    rw [hcontrol, plainControl] at h
    split at h <;> cases h
  | textArea | checkbox | line =>
    simp only [String.append_assoc, List.filter_cons, List.filter_nil, harea, hcheckbox, hentry,
      Bool.false_eq_true, if_false]

end FormInput

/-- The form of a model of a valid schema posts the primary keys of the rows that its foreign keys
    lead to. -/
theorem FormPage.postsKeys_of_relatedInputs (hvalid : s.isValid = true) (hm : m ∈ s.models)
    {inputs : List RelatedInput} (h : m.relatedInputs s = .ok inputs) :
    (FormPage.ofModel naming m inputs).PostsKeys s m.inputFields := by
  have hnames := m.nodup_fieldNames hvalid hm
  refine ⟨m.inputFields.map fun f =>
    (FormInput.ofField inputs f).lines.filter (opensWithAny optionOpenings), ?_, ?_⟩
  · rw [filter_lines_of_frame _ (by decide +kernel) (by decide +kernel), ← List.flatMap_def]
    exact List.flatMap_map _ _ _
  · rw [List.forall₂_map_right_iff, List.forall₂_same]
    intro f hf
    have hfield : f ∈ m.fields := List.mem_of_mem_filter hf
    rw [FormInput.filter_lines_options]
    cases hkey : f.isForeignKey with
    | false =>
      have hcontrol : (FormInput.ofField inputs f).control = FormInput.plainControl f := by
        rw [FormInput.ofField, Model.inputFor?_eq_none h hnames hfield hkey]
      rw [FormInput.filter_controlLines_plain hcontrol]
      exact .plain hkey
    | true =>
      obtain ⟨input, -, hfound, hmade⟩ := Model.exists_inputFor? h hnames hfield hkey
      obtain ⟨-, -, column, hresolve⟩ := Model.of_relatedInput_eq_ok hmade
      have htarget := Schema.mem_models_of_resolveForeignKey? hresolve
      obtain ⟨key, hprimary⟩ := Schema.exists_primaryKey_of_isValid hvalid htarget
      -- The control is made from the target alone, whichever of its columns the key references.
      have hcontrol : (FormInput.ofField inputs f).control =
          .select input.choices key.name input.display.name := by
        rw [FormInput.ofField, hfound]
        show FormInput.selectControl input = _
        rw [FormInput.selectControl, hprimary]
        rfl
      obtain ⟨line, hline, hfilter⟩ := FormInput.filter_controlLines_options hcontrol
      rw [hfilter]
      exact .select hkey hresolve hprimary
        (Schema.name_primaryKey_eq_iff hvalid htarget hprimary
          (Schema.mem_fields_of_resolveForeignKey? hresolve)) hline

/-- The forms of a valid schema post primary keys, whatever its tables are called: the select of a
    foreign key posts the column that the key references, and compares it with the key, if and only
    if that column is a primary key. -/
theorem exists_postsKeys (hvalid : s.isValid = true) (naming : TableNaming) :
    ∃ a, Application.ofSchema s naming = .ok a ∧ ∀ m ∈ s.models, ∃ form : FormPage,
      form.file ∈ a.templates ∧ form.table = naming.tableOf m.id ∧
        form.PostsKeys s m.inputFields := by
  obtain ⟨a, ha⟩ := Application.exists_ofSchema hvalid naming
  obtain ⟨parts, hparts⟩ := Application.exists_isMadeOf ha
  refine ⟨a, ha, fun m hm => ?_⟩
  obtain ⟨pages, hpages, hfiles⟩ := hparts.exists_pages hm
  obtain ⟨inputs, hinputs, rfl⟩ := ModelPages.of_ofModel_eq_ok hpages
  exact ⟨.ofModel naming m inputs, hfiles (by simp [ModelPages.files]), rfl,
    FormPage.postsKeys_of_relatedInputs hvalid hm hinputs⟩

theorem exists_postsKeys_portsAndLegs :
    portsAndLegs.isValid = true ∧
      ∃ a, Application.ofSchema portsAndLegs { letterCase := .upper } = .ok a ∧
        ∀ m ∈ portsAndLegs.models, ∃ form : FormPage, form.file ∈ a.templates ∧
          form.table = TableNaming.tableOf { letterCase := .upper } m.id ∧
            form.PostsKeys portsAndLegs m.inputFields :=
  have hvalid : portsAndLegs.isValid = true := by decide +kernel
  ⟨hvalid, exists_postsKeys hvalid { letterCase := .upper }⟩

/-- Ports that are known by a code besides their number, and legs that reference them by it. -/
def portsByCode : String :=
  "table Port \x7b
id Int [pk]
code String(5) [unique]
\x7d
table Leg \x7b
id Int [pk]
port_code String(5) [ref: > Port.code]
\x7d"

/-- The form of a leg posts the number of a port where the key references the code. -/
theorem postsId_portsByCode :
    compile portsByCode = .ok (.ofChecked portsByCode) ∧
      (Schema.ofChecked portsByCode).isValid = true ∧
      ((Schema.ofChecked portsByCode).models.flatMap fun m => m.foreignKeyFields.map fun f =>
        (m.id, f.name, f.primaryKey, ((Schema.ofChecked portsByCode).resolveForeignKey? f).map
          fun (target, column) => (target.id, column.name))) =
        [("S002_Leg", "port_code", false, some ("S001_Port", "code"))] ∧
      ((Schema.ofChecked portsByCode).pages {}).toOption.map (·.map fun made =>
        (made.form.file.path, made.form.lines.filter
          (opensWith "                <option value=\"\x7b\x7b related."))) =
        some [("s001_port/form.html", []),
          ("s002_leg/form.html", [FormPage.optionLine "port_code" "id" "code"])] :=
  ⟨compile_eq_ok_iff.mpr ⟨by decide +kernel, rfl⟩, by decide +kernel⟩

end SchemaLang
