import SchemaLang.Output.RouteModule

/-!
# Helper modules

A model with foreign keys gets a helper module beside its routes. It holds the fields that the forms
of the model set, offers the rows to choose from, and creates, updates and deletes rows. A package
module imports all of them.
-/

namespace SchemaLang

/-- The helper module of a model. -/
structure HelperModule where
  table : String
  className : String
  title : String
  /-- The classes to import, each once and that of the model first. -/
  classes : List String
  /-- The fields that hold a key. -/
  relationFields : List String
  /-- The fields that are edited as they are. -/
  editableFields : List String
  /-- The names of the rows to choose from, and their classes. -/
  choices : List (String × String)
  deriving DecidableEq, Repr

namespace HelperModule

/-- The list with each element only where it stands first. -/
def distinct (l : List String) : List String :=
  l.foldl (fun seen x => if x ∈ seen then seen else seen ++ [x]) []

/-- The module of a model. -/
def ofModel (s : Schema) (naming : TableNaming) (m : Model) : Except OutputFault HelperModule := do
  let inputs ← m.relatedInputs s
  return {
    table := naming.tableOf m.id
    className := m.id
    title := m.name
    classes := distinct (m.id :: inputs.map (·.target.id))
    relationFields := inputs.map (·.field.name)
    editableFields := m.plainFields.map (·.name)
    choices := inputs.map fun i => (i.choices, i.target.id) }

/-- A list of names under a name of its own. -/
def nameList (name : String) (names : List String) : List String :=
  [name ++ " = ["] ++ names.map (fun n => "    " ++ Literal.quote n ++ ",") ++ ["]"]

/-- The lines of the module. -/
def lines (m : HelperModule) : List String :=
  [generatedNotice, "from app import db",
    "from " ++ modelsPackage ++ " import " ++ ", ".intercalate m.classes, ""] ++
    nameList "RELATION_FIELDS" m.relationFields ++ [""] ++
    nameList "EDITABLE_FIELDS" m.editableFields ++
    ["", "", "def get_related_data():",
      "    \"\"\"Rows offered by the " ++ m.title ++ " form's select inputs.\"\"\"",
      "    return \x7b"] ++
    (m.choices.map fun (name, className) =>
      "        " ++ Literal.quote name ++ ": " ++ className ++ ".query.all(),") ++
    ["    \x7d",
      "", "", "def _apply_form(item, form_data):",
      "    for name in RELATION_FIELDS:",
      "        if name in form_data:",
      "            setattr(item, name, form_data[name] or None)",
      "    for name in EDITABLE_FIELDS:",
      "        if name in form_data:",
      "            setattr(item, name, form_data[name])",
      "", "", "def _commit():",
      "    try:",
      "        db.session.commit()",
      "    except Exception:",
      "        db.session.rollback()",
      "        raise",
      "", "", "def create_with_relations(form_data):",
      "    item = " ++ m.className ++ "()",
      "    _apply_form(item, form_data)",
      "    db.session.add(item)",
      "    _commit()",
      "    return item",
      "", "", "def update_with_relations(item, form_data):",
      "    _apply_form(item, form_data)",
      "    _commit()",
      "    return item",
      "", "", "def delete_with_relations(item):",
      "    db.session.delete(item)",
      "    _commit()"]

/-- The directory of the helper modules, inside that of the routes. -/
def directory : String := "relationships/"

/-- The path of the module of a table. -/
def pathOf (table : String) : String :=
  directory ++ RouteModule.helperModule table ++ ".py"

/-- The generated file. -/
def file (m : HelperModule) : OutputFile :=
  { path := pathOf m.table, content := unlines m.lines }

end HelperModule

/-- The package module of the helpers. -/
structure HelperPackage where
  tables : List String
  deriving DecidableEq, Repr

namespace HelperPackage

/-- The package of a schema: its models with foreign keys. -/
def ofSchema (s : Schema) (naming : TableNaming) : HelperPackage where
  tables := (s.models.filter (·.isRelational)).map fun m => naming.tableOf m.id

/-- The lines of the package module. -/
def lines (p : HelperPackage) : List String :=
  generatedNotice :: p.tables.map fun table => "from . import " ++ RouteModule.helperModule table

/-- The generated file. -/
def file (p : HelperPackage) : OutputFile :=
  { path := HelperModule.directory ++ packageFile, content := unlines p.lines }

end HelperPackage

end SchemaLang
