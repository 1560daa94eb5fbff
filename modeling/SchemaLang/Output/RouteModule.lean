import SchemaLang.Output.Input
import SchemaLang.Output.Literal
import SchemaLang.Output.Naming

/-!
# Route modules

Every model gets a module of routes that list, create, edit and delete its rows. A model with
foreign keys leaves the rows to its helper module and passes the rows to choose from to its form;
the others assign the fields of the form themselves. A package module registers all route modules.
-/

namespace SchemaLang

/-- What can be done to the rows of a table. -/
inductive RouteAction where
  | list
  | create
  | edit
  | delete
  deriving DecidableEq, Repr

namespace RouteAction

/-- The name of the action. -/
def name : RouteAction → String
  | list => "list"
  | create => "create"
  | edit => "edit"
  | delete => "delete"

/-- The function that does it for a table. -/
def function (action : RouteAction) (table : String) : String :=
  action.name ++ "_" ++ table

/-- The endpoint of that function: the blueprint of the table and the function. -/
def endpoint (action : RouteAction) (table : String) : String :=
  table ++ "." ++ action.function table

end RouteAction

/-- The pages of a table. -/
inductive Page where
  | list
  | row
  | form
  deriving DecidableEq, Repr

/-- The path of a page among all templates. -/
def Page.path (table : String) : Page → String
  | list => table ++ "/list.html"
  | row => table ++ "/_row.html"
  | form => table ++ "/form.html"

/-- The module of routes of a model. -/
structure RouteModule where
  table : String
  className : String
  key : KeyParameter
  /-- The rows are left to the helper module. -/
  usesHelpers : Bool
  /-- The fields that the module assigns itself. -/
  assigned : List String
  deriving DecidableEq, Repr

namespace RouteModule

/-- The module of a model. -/
def ofModel (s : Schema) (naming : TableNaming) (m : Model) : Except OutputFault RouteModule := do
  let _ ← m.relatedInputs s
  return {
    table := naming.tableOf m.id
    className := m.id
    key := m.keyParameter
    usesHelpers := m.isRelational
    assigned := if m.isRelational then [] else m.plainFields.map (·.name) }

/-- The name of the helper module of a table. -/
def helperModule (table : String) : String := table ++ "_helpers"

/-- The first line of a function for an action. -/
def functionHead (m : RouteModule) (action : RouteAction) (parameter : String) : String :=
  "def " ++ action.function m.table ++ "(" ++ parameter ++ "):"

/-- Assigns the fields that the form holds. -/
def assignments (m : RouteModule) : List String :=
  m.assigned.flatMap fun name =>
    ["            if '" ++ name ++ "' in request.form:",
      "                item." ++ name ++ " = request.form['" ++ name ++ "']"]

/-- The end of a function that shows a form: what happens to errors, and the page. -/
def formEnd (m : RouteModule) (arguments : String) : List String :=
  ["            return redirect(url_for('" ++ RouteAction.list.endpoint m.table ++ "'))",
    "        except Exception as e:"] ++
    (if m.usesHelpers then [] else ["            db.session.rollback()"]) ++
    ["            flash(f'Error: \x7be\x7d', 'error')",
      "    return render_template('" ++ Page.form.path m.table ++ "', " ++ arguments ++
        (if m.usesHelpers then ", **get_related_data()" else "") ++ ")"]

/-- The imports and the blueprint. -/
def head (m : RouteModule) : List String :=
  [generatedNotice,
    "from flask import Blueprint, flash, redirect, render_template, request, url_for", "",
    "from app import db", "from " ++ modelsPackage ++ " import " ++ m.className] ++
    (if m.usesHelpers then
      ["from .relationships." ++ helperModule m.table ++ " import (", "    get_related_data,",
        "    create_with_relations,", "    update_with_relations,", "    delete_with_relations,",
        ")"]
    else []) ++
    ["", "bp = Blueprint(" ++ Literal.quote m.table ++ ", __name__)"]

/-- The function that lists the rows. -/
def listLines (m : RouteModule) : List String :=
  ["", "", "@bp.route('/" ++ m.table ++ "')", m.functionHead .list "",
    "    items = " ++ m.className ++ ".query.all()",
    "    return render_template('" ++ Page.list.path m.table ++ "', items=items)"]

/-- The function that creates a row. -/
def createLines (m : RouteModule) : List String :=
  ["", "", "@bp.route('/" ++ m.table ++ "/create', methods=['GET', 'POST'])",
    m.functionHead .create "", "    if request.method == 'POST':", "        try:"] ++
    (if m.usesHelpers then ["            create_with_relations(request.form)"]
    else
      ["            item = " ++ m.className ++ "()"] ++ m.assignments ++
        ["            db.session.add(item)", "            db.session.commit()"]) ++
    ["            flash('Created successfully', 'success')"] ++
    m.formEnd ("edit=False, form_action=url_for('" ++ RouteAction.create.endpoint m.table ++ "')")

/-- The route of an action on one row. -/
def rowRoute (m : RouteModule) (action : RouteAction) (methods : String) : String :=
  "@bp.route('/" ++ m.table ++ "/<" ++ m.key.converter ++ ":" ++ m.key.name ++ ">/" ++
    action.name ++ "', methods=[" ++ methods ++ "])"

/-- Finds the row that an action is on. -/
def findLine (m : RouteModule) : String :=
  "    item = " ++ m.className ++ ".query.get_or_404(" ++ m.key.name ++ ")"

/-- The function that edits a row. -/
def editLines (m : RouteModule) : List String :=
  ["", "", m.rowRoute .edit "'GET', 'POST'", m.functionHead .edit m.key.name, m.findLine,
    "    if request.method == 'POST':", "        try:"] ++
    (if m.usesHelpers then ["            update_with_relations(item, request.form)"]
    else m.assignments ++ ["            db.session.commit()"]) ++
    ["            flash('Updated successfully', 'success')"] ++
    m.formEnd ("edit=True, item=item, form_action=url_for('" ++
      RouteAction.edit.endpoint m.table ++ "', " ++ m.key.name ++ "=" ++ m.key.name ++ ")")

/-- The function that deletes a row. -/
def deleteLines (m : RouteModule) : List String :=
  ["", "", m.rowRoute .delete "'POST', 'DELETE'", m.functionHead .delete m.key.name, m.findLine,
    "    try:"] ++
    (if m.usesHelpers then ["        delete_with_relations(item)"]
    else ["        db.session.delete(item)", "        db.session.commit()"]) ++
    ["    except Exception as e:"] ++
    (if m.usesHelpers then [] else ["        db.session.rollback()"]) ++
    ["        return str(e), 500", "    return '', 204"]

/-- The lines of the module. -/
def lines (m : RouteModule) : List String :=
  m.head ++ m.listLines ++ m.createLines ++ m.editLines ++ m.deleteLines

/-- The path of the module of a table. -/
def pathOf (table : String) : String := table ++ ".py"

/-- The generated file. -/
def file (m : RouteModule) : OutputFile :=
  { path := pathOf m.table, content := unlines m.lines }

end RouteModule

/-- The package module of the routes. -/
structure RoutePackage where
  tables : List String
  deriving DecidableEq, Repr

namespace RoutePackage

/-- The package of a schema. -/
def ofSchema (s : Schema) (naming : TableNaming) : RoutePackage where
  tables := s.models.map fun m => naming.tableOf m.id

/-- The lines of the package module. -/
def lines (p : RoutePackage) : List String :=
  [generatedNotice, "from flask import Blueprint", ""] ++
    p.tables.map ("from . import " ++ ·) ++ ["", "bp = Blueprint('crud', __name__)"] ++
    p.tables.map fun table => "bp.register_blueprint(" ++ table ++ ".bp)"

/-- The generated file. -/
def file (p : RoutePackage) : OutputFile :=
  { path := packageFile, content := unlines p.lines }

end RoutePackage

end SchemaLang
