import SchemaLang.Text.Quoted

/-!
# Generated files

What the generators make of a schema: four groups of files, each under a directory of its own
choice, or the reason why a group cannot be made.
-/

namespace SchemaLang

/-- A generated file. Its path is relative to the directory of its group. -/
structure OutputFile where
  path : String
  content : String
  deriving DecidableEq, Repr

/-- A group of generated files. -/
inductive OutputGroup where
  | models
  | routes
  | helpers
  | templates
  deriving DecidableEq, Repr

namespace OutputGroup

/-- All groups, in the order in which they are made. -/
def all : List OutputGroup := [models, routes, helpers, templates]

/-- What the files of the group are written for. -/
def language : OutputGroup → String
  | models => "sqlalchemy"
  | routes => "flask-routes"
  | helpers => "flask-relationships"
  | templates => "jinja"

/-- What is under way while the files of one model are made. -/
def activity : OutputGroup → String
  | models => "generating model"
  | routes => "generating routes for"
  | helpers => "generating relationship helpers for"
  | templates => "generating templates for"

end OutputGroup

/-- Why the files of a model cannot be made. -/
inductive OutputFault where
  /-- The input of a foreign key has no rows to offer. -/
  | unresolvedInput (model field : String) (foreignKey : Option String)
  /-- The column of a foreign key has nothing to reference. -/
  | unresolvedColumn (field foreignKey : String)
  /-- The rows of a model have nothing to be shown by. -/
  | noDisplayField (model : String)
  /-- A relationship of a model with itself has no key to point at. -/
  | noSelfKey (relationship : String)
  deriving DecidableEq, Repr

/-- The wording of the fault. -/
def OutputFault.message : OutputFault → String
  | unresolvedInput model field foreignKey =>
    let key := match foreignKey with
      | some text => "Some(" ++ Text.quoted text ++ ")"
      | none => "None"
    model ++ "." ++ field ++ ": foreign key " ++ key ++ " does not resolve"
  | unresolvedColumn field foreignKey =>
    "foreign key " ++ foreignKey ++ " on " ++ field ++ " does not resolve"
  | noDisplayField model => model ++ " has no primary key"
  | noSelfKey relationship => "self reference " ++ relationship ++ " needs a primary key"

/-- A fault with the group and the model in which it was met. -/
structure OutputError where
  group : OutputGroup
  model : String
  fault : OutputFault
  deriving DecidableEq, Repr

namespace OutputError

/-- What was under way and what went wrong, widest context first. -/
def trail (e : OutputError) : List String :=
  [e.group.language ++ " emitter failed", e.group.activity ++ " " ++ e.model, e.fault.message]

/-- The wording of the error where one group is made. -/
def message (e : OutputError) : String := ": ".intercalate e.trail.tail

/-- The wording of the error where several groups are made. -/
def groupMessage (e : OutputError) : String := ": ".intercalate e.trail

end OutputError

/-- A text of whole lines. -/
def unlines (lines : List String) : String :=
  String.join (lines.map (· ++ "\n"))

/-- The first line of every generated module. -/
def generatedNotice : String := "# Auto-generated from the shipping schema. Do not edit."

/-- The package that the models are imported from. -/
def modelsPackage : String := "app.models"

/-- The module that makes a directory a package. -/
def packageFile : String := "__init__.py"

end SchemaLang
