import SchemaLang.Output.RouteModule

/-!
# Page templates

Three templates for every model: the list of its rows, one row of that list, and the form that
creates and edits a row. A page is put together as a value, with its links and inputs, and then
written.
-/

namespace SchemaLang

/-- A link to an action of a table. -/
structure PageLink where
  action : RouteAction
  table : String
  /-- The key that is handed over, for actions on one row. -/
  key : Option String := none
  deriving DecidableEq, Repr

/-- An expression of a template. -/
def braced (expression : String) : String := "\x7b\x7b " ++ expression ++ " \x7d\x7d"

/-- A statement of a template. -/
def tag (statement : String) : String := "\x7b% " ++ statement ++ " %\x7d"

/-- The address of a link. -/
def PageLink.url (l : PageLink) : String :=
  let argument := match l.key with
    | some key => ", " ++ key ++ "=item." ++ key
    | none => ""
  braced ("url_for('" ++ l.action.endpoint l.table ++ "'" ++ argument ++ ")")

/-! ## The list -/

/-- The page that lists the rows of a model. -/
structure ListPage where
  table : String
  title : String
  headings : List String
  addLink : PageLink
  /-- The template that is included for each row. -/
  rowTemplate : String
  deriving DecidableEq, Repr

namespace ListPage

/-- The page of a model. -/
def ofModel (naming : TableNaming) (m : Model) : ListPage :=
  let table := naming.tableOf m.id
  { table, title := m.name, headings := m.fields.map fun f => label f.name
    addLink := { action := .create, table }
    rowTemplate := Page.row.path table }

/-- A heading of the table. -/
def headingLine (text : String) : String :=
  "                    <th class=\"px-6 py-3 border-b-2 border-gray-200 text-left text-xs " ++
    "font-semibold text-gray-600 uppercase tracking-wider\">" ++ text ++ "</th>"

/-- The lines of the template. -/
def lines (p : ListPage) : List String :=
  [tag "extends \"base.html\"", "", tag "block content",
    "<div class=\"container mx-auto px-4 py-8\">",
    "    <div class=\"flex justify-between items-center mb-6\">",
    "        <h1 class=\"text-2xl font-bold\">" ++ p.title ++ " List</h1>",
    "        <a href=\"" ++ p.addLink.url ++
      "\" class=\"bg-blue-500 hover:bg-blue-700 text-white font-bold py-2 px-4 rounded\">" ++
      "Add New</a>",
    "    </div>", "",
    "    <div class=\"overflow-x-auto\">",
    "        <table class=\"min-w-full bg-white\">",
    "            <thead>",
    "                <tr class=\"bg-gray-100\">"] ++
    (p.headings ++ ["Actions"]).map headingLine ++
    ["                </tr>",
      "            </thead>",
      "            <tbody hx-target=\"closest tr\" hx-swap=\"outerHTML\">",
      "                " ++ tag "for item in items",
      "                " ++ tag ("include '" ++ p.rowTemplate ++ "'"),
      "                " ++ tag "endfor",
      "            </tbody>",
      "        </table>",
      "    </div>",
      "</div>",
      tag "endblock"]

/-- The generated file. -/
def file (p : ListPage) : OutputFile :=
  { path := Page.list.path p.table, content := unlines p.lines }

end ListPage

/-! ## A row -/

/-- What a cell of a row shows: a field, or a column of the row that a key references. -/
inductive Cell where
  | plain (field : String)
  | related (relationship column : String)
  deriving DecidableEq, Repr

/-- The row of a model in its list. -/
structure RowPage where
  table : String
  cells : List Cell
  editLink : PageLink
  deleteLink : PageLink
  deriving DecidableEq, Repr

/-- The first input for a field of that name. -/
def inputFor? (inputs : List RelatedInput) (field : Field) : Option RelatedInput :=
  inputs.find? (·.field.name == field.name)

namespace RowPage

/-- The cell of a field. -/
def cellOf (inputs : List RelatedInput) (field : Field) : Cell :=
  match inputFor? inputs field with
  | some input => .related input.relationship input.display.name
  | none => .plain field.name

/-- The row of a model. -/
def ofModel (naming : TableNaming) (m : Model) (inputs : List RelatedInput) : RowPage :=
  let table := naming.tableOf m.id
  let key := some m.keyParameter.name
  { table, cells := m.fields.map (cellOf inputs)
    editLink := { action := .edit, table, key }
    deleteLink := { action := .delete, table, key } }

/-- The first part of a cell. -/
def cellStart : String :=
  "    <td class=\"px-6 py-4 whitespace-nowrap border-b border-gray-200\">"

/-- A cell. -/
def cellLine : Cell → String
  | .plain field => cellStart ++ braced ("item." ++ field) ++ "</td>"
  | .related relationship column =>
    cellStart ++
      braced ("item." ++ relationship ++ "." ++ column ++ " if item." ++ relationship ++
        " else ''") ++ "</td>"

/-- The lines of the template. -/
def lines (p : RowPage) : List String :=
  ["<tr class=\"hover:bg-gray-50\">"] ++ p.cells.map cellLine ++
    [cellStart,
      "        <a href=\"" ++ p.editLink.url ++
        "\" class=\"text-blue-600 hover:text-blue-900 mr-2\">Edit</a>",
      "        <button hx-delete=\"" ++ p.deleteLink.url ++
        "\" hx-confirm=\"Are you sure?\" class=\"text-red-600 hover:text-red-900\">" ++
        "Delete</button>",
      "    </td>",
      "</tr>"]

/-- The generated file. -/
def file (p : RowPage) : OutputFile :=
  { path := Page.row.path p.table, content := unlines p.lines }

end RowPage

/-! ## The form -/

/-- How a field is entered. -/
inductive Control where
  /-- One of the rows in `choices`: the column `value` is sent, the column `display` shown. -/
  | select (choices value display : String)
  | textArea
  | checkbox
  | line (kind : String) (anyStep : Bool) (maxLength : Option UInt32)
  deriving DecidableEq, Repr

/-- An input of a form. -/
structure FormInput where
  name : String
  label : String
  required : Bool
  control : Control
  deriving DecidableEq, Repr

/-- The form of a model. -/
structure FormPage where
  table : String
  title : String
  inputs : List FormInput
  cancelLink : PageLink
  deriving DecidableEq, Repr

namespace FormInput

/-- The control for a field that is no foreign key. -/
def plainControl (f : Field) : Control :=
  match f.type with
  | .text => .textArea
  | .boolean => .checkbox
  | .integer => .line "number" false none
  | .float | .decimal => .line "number" true none
  | .date => .line "date" false none
  | .dateTime => .line "datetime-local" false none
  | .time => .line "time" false none
  | .string => .line "text" false f.size.length

/-- The control for a foreign key: it sends the primary key of the chosen row. -/
def selectControl (input : RelatedInput) : Control :=
  .select input.choices ((input.target.primaryKey?.map (·.name)).getD "id") input.display.name

/-- The input for a field. -/
def ofField (inputs : List RelatedInput) (f : Field) : FormInput where
  name := f.name
  label := SchemaLang.label f.name
  required := !f.nullable
  control := match inputFor? inputs f with
    | some input => selectControl input
    | none => plainControl f

end FormInput

/-- The form of a model. -/
def FormPage.ofModel (naming : TableNaming) (m : Model) (inputs : List RelatedInput) : FormPage :=
  let table := naming.tableOf m.id
  { table, title := m.name
    inputs := (m.fields.filter (!·.primaryKey)).map (FormInput.ofField inputs)
    cancelLink := { action := .list, table } }

namespace FormInput

/-- The looks of an input. -/
def inputClass : String :=
  "shadow appearance-none border rounded w-full py-2 px-3 text-gray-700 leading-tight " ++
    "focus:outline-none focus:shadow-outline"

/-- The attributes that name an input. -/
def naming (i : FormInput) : String :=
  "id=\"" ++ i.name ++ "\" name=\"" ++ i.name ++ "\""

/-- The mark of an input that must be filled in. -/
def requiredMark (i : FormInput) : String :=
  if i.required then " required" else ""

/-- The value that an input starts with. -/
def startValue (i : FormInput) : String :=
  braced ("item." ++ i.name ++ " if edit and item." ++ i.name ++ " is not none else ''")

/-- The lines of the control. -/
def controlLines (i : FormInput) : List String :=
  match i.control with
  | .select choices value display =>
    ["            <select " ++ i.naming ++ " class=\"" ++ inputClass ++ "\"" ++ i.requiredMark ++
        ">",
      "                <option value=\"\">Select...</option>",
      "                " ++ tag ("for related in " ++ choices),
      "                <option value=\"" ++ braced ("related." ++ value) ++ "\" " ++
        braced ("'selected' if edit and item." ++ i.name ++ " == related." ++ value ++
          " else ''") ++ ">" ++ braced ("related." ++ display) ++ "</option>",
      "                " ++ tag "endfor",
      "            </select>"]
  | .textArea =>
    ["            <textarea " ++ i.naming ++ " class=\"" ++ inputClass ++ "\"" ++ i.requiredMark ++
      ">" ++ i.startValue ++ "</textarea>"]
  | .checkbox =>
    ["            <input type=\"checkbox\" " ++ i.naming ++ " value=\"1\" " ++
      braced ("'checked' if edit and item." ++ i.name ++ " else ''") ++ ">"]
  | .line kind anyStep maxLength =>
    let limit := match maxLength with
      | some n => " maxlength=\"" ++ Text.decimal n.toNat ++ "\""
      | none => ""
    ["            <input type=\"" ++ kind ++ "\" " ++ i.naming ++ " value=\"" ++ i.startValue ++
      "\" class=\"" ++ inputClass ++ "\"" ++ (if anyStep then " step=\"any\"" else "") ++ limit ++
      i.requiredMark ++ ">"]

/-- The lines of the input with its label. -/
def lines (i : FormInput) : List String :=
  ["        <div class=\"mb-4\">",
    "            <label for=\"" ++ i.name ++
      "\" class=\"block text-gray-700 text-sm font-bold mb-2\">" ++ i.label ++ "</label>"] ++
    i.controlLines ++ ["        </div>"]

end FormInput

namespace FormPage

/-- The lines of the template. -/
def lines (p : FormPage) : List String :=
  [tag "extends \"base.html\"", "", tag "block content",
    "<div class=\"container mx-auto px-4 py-8\">",
    "    <h1 class=\"text-2xl font-bold mb-6\">" ++ braced "'Edit' if edit else 'Add New'" ++ " " ++
      p.title ++ "</h1>", "",
    "    <form method=\"post\" action=\"" ++ braced "form_action" ++ "\" class=\"max-w-lg\">"] ++
    p.inputs.flatMap FormInput.lines ++
    ["        <div class=\"flex items-center justify-between mt-6\">",
      "            <button type=\"submit\" class=\"bg-blue-500 hover:bg-blue-700 text-white " ++
        "font-bold py-2 px-4 rounded\">Save</button>",
      "            <a href=\"" ++ p.cancelLink.url ++
        "\" class=\"text-gray-600 hover:text-gray-900\">Cancel</a>",
      "        </div>",
      "    </form>",
      "</div>",
      tag "endblock"]

/-- The generated file. -/
def file (p : FormPage) : OutputFile :=
  { path := Page.form.path p.table, content := unlines p.lines }

end FormPage

/-- The three templates of a model. -/
structure ModelPages where
  list : ListPage
  row : RowPage
  form : FormPage
  deriving DecidableEq, Repr

namespace ModelPages

/-- The templates of a model. -/
def ofModel (s : Schema) (naming : TableNaming) (m : Model) : Except OutputFault ModelPages := do
  let inputs ← m.relatedInputs s
  return {
    list := .ofModel naming m
    row := .ofModel naming m inputs
    form := .ofModel naming m inputs }

/-- The generated files. -/
def files (p : ModelPages) : List OutputFile :=
  [p.list.file, p.row.file, p.form.file]

end ModelPages

end SchemaLang
