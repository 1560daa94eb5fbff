import SchemaLang.Output.HelperModule
import SchemaLang.Output.ModelModule
import SchemaLang.Output.Page

/-!
# The generated application

All files of an application in the order in which they are made: model modules, route modules,
helper modules, page templates. Each group of modules ends with its package module. A group fails
with the first of its models that does.
-/

namespace SchemaLang

/-- Makes something of each model, and says of which one it could not. -/
def OutputGroup.forModels {α : Type} (group : OutputGroup) (make : Model → Except OutputFault α)
    (models : List Model) : Except OutputError (List α) :=
  models.mapM fun m => (make m).mapError fun fault => { group, model := m.id, fault }

namespace Schema

/-- The model modules. -/
def modelModules (s : Schema) (naming : TableNaming) : Except OutputError (List ModelModule) :=
  OutputGroup.models.forModels (ModelModule.ofModel s naming) s.models

/-- The route modules. -/
def routeModules (s : Schema) (naming : TableNaming) : Except OutputError (List RouteModule) :=
  OutputGroup.routes.forModels (RouteModule.ofModel s naming) s.models

/-- The helper modules, of the models with foreign keys. -/
def helperModules (s : Schema) (naming : TableNaming) : Except OutputError (List HelperModule) :=
  OutputGroup.helpers.forModels (HelperModule.ofModel s naming)
    (s.models.filter (·.isRelational))

/-- The templates. -/
def pages (s : Schema) (naming : TableNaming) : Except OutputError (List ModelPages) :=
  OutputGroup.templates.forModels (ModelPages.ofModel s naming) s.models

/-- The files of a group. -/
def filesOf (s : Schema) (naming : TableNaming) :
    OutputGroup → Except OutputError (List OutputFile)
  | .models => do
    return (← s.modelModules naming).map (·.file) ++ [(ModelPackage.ofSchema s naming).file]
  | .routes => do
    return (← s.routeModules naming).map (·.file) ++ [(RoutePackage.ofSchema s naming).file]
  | .helpers => do
    return (← s.helperModules naming).map (·.file) ++ [(HelperPackage.ofSchema s naming).file]
  | .templates => do
    return (← s.pages naming).flatMap (·.files)

end Schema

/-- An application: the files of all groups. -/
structure Application where
  models : List OutputFile
  routes : List OutputFile
  helpers : List OutputFile
  templates : List OutputFile
  deriving DecidableEq, Repr

namespace Application

/-- The application of a schema. The first group that fails decides the error. -/
def ofSchema (s : Schema) (naming : TableNaming) : Except OutputError Application := do
  return {
    models := ← s.filesOf naming .models
    routes := ← s.filesOf naming .routes
    helpers := ← s.filesOf naming .helpers
    templates := ← s.filesOf naming .templates }

/-- The files of a group. -/
def files (a : Application) : OutputGroup → List OutputFile
  | .models => a.models
  | .routes => a.routes
  | .helpers => a.helpers
  | .templates => a.templates

end Application

end SchemaLang
