import SchemaLang.Proofs.ForStd.List
import SchemaLang.Proofs.Output.Emission

/-!
# What an application is made of

An application is a list of files for each group, but each file has been made as a value first. Here
an application is taken apart again, into the modules and pages of its models, and the paths of its
files are read off the names of their tables.

## Key results

- `Application.exists_isMadeOf`: an application is made of modules and pages, one for each model
- `Application.IsMadeOf.paths`: the paths of its files
-/

namespace SchemaLang

variable {s : Schema} {naming : TableNaming} {m : Model}

/-! ## The values of one model -/

/-- What the module of routes of a model is made of. -/
theorem RouteModule.of_ofModel_eq_ok {made : RouteModule} (h : ofModel s naming m = .ok made) :
    made = {
      table := naming.tableOf m.id
      className := m.id
      key := m.keyParameter
      usesHelpers := m.isRelational
      assigned := if m.isRelational then [] else m.plainFields.map (·.name) } := by
  obtain ⟨_, -, h⟩ := Except.bind_eq_ok_iff.mp h
  exact (Except.ok.inj h).symm

/-- What the helper module of a model is made of. -/
theorem HelperModule.of_ofModel_eq_ok {made : HelperModule} (h : ofModel s naming m = .ok made) :
    ∃ inputs, m.relatedInputs s = .ok inputs ∧ made = {
      table := naming.tableOf m.id
      className := m.id
      title := m.name
      classes := distinct (m.id :: inputs.map (·.target.id))
      relationFields := inputs.map (·.field.name)
      editableFields := m.plainFields.map (·.name)
      choices := inputs.map fun i => (i.choices, i.target.id) } := by
  obtain ⟨inputs, hinputs, h⟩ := Except.bind_eq_ok_iff.mp h
  exact ⟨inputs, hinputs, (Except.ok.inj h).symm⟩

/-- What the pages of a model are made of. -/
theorem ModelPages.of_ofModel_eq_ok {made : ModelPages} (h : ofModel s naming m = .ok made) :
    ∃ inputs, m.relatedInputs s = .ok inputs ∧ made = {
      list := .ofModel naming m
      row := .ofModel naming m inputs
      form := .ofModel naming m inputs } := by
  obtain ⟨inputs, hinputs, h⟩ := Except.bind_eq_ok_iff.mp h
  exact ⟨inputs, hinputs, (Except.ok.inj h).symm⟩

theorem helperPath_eq (table : String) :
    HelperModule.pathOf table = HelperModule.directory ++ (table ++ "_helpers.py") := by
  rw [HelperModule.pathOf, RouteModule.helperModule, String.append_assoc, String.append_assoc]
  rfl

/-- No helper module is called like the package of the helpers. -/
theorem helperPath_ne_package (table : String) :
    HelperModule.pathOf table ≠ HelperModule.directory ++ packageFile := by
  rw [helperPath_eq, Ne, String.append_right_inj]
  intro heq
  -- Both names are of one length, so nothing would be left for the table.
  have hlength := congrArg String.length heq
  rw [String.length_append] at hlength
  have hends : "_helpers.py".length = packageFile.length := by decide +kernel
  have hempty : table = "" := String.length_eq_zero_iff.mp (by omega)
  rw [hempty] at heq
  exact absurd heq (by decide +kernel)

/-! ## The files of all models -/

/-- The pages of a table. -/
def Page.all : List Page := [list, row, form]

/-- The modules and pages of all models. -/
structure Application.Parts where
  models : List ModelModule
  routes : List RouteModule
  helpers : List HelperModule
  pages : List ModelPages

namespace Application

/-- The parts are made of the models of the schema, and the application consists of their files and
    those of the packages. -/
structure IsMadeOf (a : Application) (s : Schema) (naming : TableNaming) (parts : Parts) :
    Prop where
  models : List.Forall₂ (fun m made => ModelModule.ofModel s naming m = .ok made) s.models
    parts.models
  routes : List.Forall₂ (fun m made => RouteModule.ofModel s naming m = .ok made) s.models
    parts.routes
  helpers : List.Forall₂ (fun m made => HelperModule.ofModel s naming m = .ok made)
    (s.models.filter (·.isRelational)) parts.helpers
  pages : List.Forall₂ (fun m made => ModelPages.ofModel s naming m = .ok made) s.models
    parts.pages
  files : a = {
    models := parts.models.map (·.file) ++ [(ModelPackage.ofSchema s naming).file]
    routes := parts.routes.map (·.file) ++ [(RoutePackage.ofSchema s naming).file]
    helpers := parts.helpers.map (·.file) ++ [(HelperPackage.ofSchema s naming).file]
    templates := parts.pages.flatMap (·.files) }

variable {a : Application} {parts : Parts}

/-- A valid schema can be made into an application. -/
theorem exists_ofSchema (h : s.isValid = true) (naming : TableNaming) :
    ∃ a, ofSchema s naming = .ok a := by
  obtain ⟨models, hmodels⟩ := Schema.exists_filesOf h naming .models
  obtain ⟨routes, hroutes⟩ := Schema.exists_filesOf h naming .routes
  obtain ⟨helpers, hhelpers⟩ := Schema.exists_filesOf h naming .helpers
  obtain ⟨templates, htemplates⟩ := Schema.exists_filesOf h naming .templates
  rw [ofSchema, hmodels, hroutes, hhelpers, htemplates]
  exact ⟨_, rfl⟩

/-- An application is made of modules and pages. -/
theorem exists_isMadeOf (h : ofSchema s naming = .ok a) : ∃ parts, a.IsMadeOf s naming parts := by
  obtain ⟨_, hmodels, h⟩ := Except.bind_eq_ok_iff.mp h
  obtain ⟨_, hroutes, h⟩ := Except.bind_eq_ok_iff.mp h
  obtain ⟨_, hhelpers, h⟩ := Except.bind_eq_ok_iff.mp h
  obtain ⟨_, htemplates, h⟩ := Except.bind_eq_ok_iff.mp h
  obtain ⟨models, hmodelModules, hmodels⟩ := Except.bind_eq_ok_iff.mp hmodels
  obtain ⟨routes, hrouteModules, hroutes⟩ := Except.bind_eq_ok_iff.mp hroutes
  obtain ⟨helpers, hhelperModules, hhelpers⟩ := Except.bind_eq_ok_iff.mp hhelpers
  obtain ⟨pages, hmodelPages, htemplates⟩ := Except.bind_eq_ok_iff.mp htemplates
  cases hmodels
  cases hroutes
  cases hhelpers
  cases htemplates
  exact ⟨{ models, routes, helpers, pages }, {
    models := OutputGroup.forall₂_of_forModels_eq_ok hmodelModules
    routes := OutputGroup.forall₂_of_forModels_eq_ok hrouteModules
    helpers := OutputGroup.forall₂_of_forModels_eq_ok hhelperModules
    pages := OutputGroup.forall₂_of_forModels_eq_ok hmodelPages
    files := (Except.ok.inj h).symm }⟩

namespace IsMadeOf

/-- The pages of a model are among the files. -/
theorem exists_pages (h : a.IsMadeOf s naming parts) (hm : m ∈ s.models) :
    ∃ made, ModelPages.ofModel s naming m = .ok made ∧ made.files ⊆ a.templates := by
  obtain ⟨made, hmem, hmade⟩ := h.pages.exists_mem hm
  rw [h.files]
  exact ⟨made, hmade, fun _ hfile => List.mem_flatMap.mpr ⟨made, hmem, hfile⟩⟩

end IsMadeOf

/-- What is made of each model has the view that the model gives it. -/
private theorem map_eq_of_forall₂ {α β : Type} {r : Model → α → Prop} {models : List Model}
    {made : List α} (h : List.Forall₂ r models made) {view : α → β} {viewOf : Model → β}
    (hview : ∀ m x, r m x → view x = viewOf m) : made.map view = models.map viewOf := by
  rw [← List.forall₂_eq_eq_eq, List.forall₂_map_left_iff, List.forall₂_map_right_iff]
  exact h.flip.imp fun x m hmade => hview m x hmade

/-- The paths of the files follow the tables of the models. -/
structure HasPaths (a : Application) (s : Schema) (naming : TableNaming) : Prop where
  models : a.models.map (·.path) =
    (s.models.map fun m => ModelModule.pathOf (naming.tableOf m.id)) ++ [packageFile]
  routes : a.routes.map (·.path) =
    (s.models.map fun m => RouteModule.pathOf (naming.tableOf m.id)) ++ [packageFile]
  helpers : a.helpers.map (·.path) =
    ((s.models.filter (·.isRelational)).map fun m => HelperModule.pathOf (naming.tableOf m.id)) ++
      [HelperModule.directory ++ packageFile]
  templates : a.templates.map (·.path) =
    s.models.flatMap fun m => Page.all.map (Page.path (naming.tableOf m.id))

theorem IsMadeOf.paths (h : a.IsMadeOf s naming parts) : a.HasPaths s naming := by
  have hmodels : parts.models.map (·.file.path) =
      s.models.map fun m => ModelModule.pathOf (naming.tableOf m.id) :=
    map_eq_of_forall₂ h.models fun m made hmade =>
      congrArg ModelModule.pathOf (ModelModule.of_ofModel_eq_ok hmade).2.1
  have hroutes : parts.routes.map (·.file.path) =
      s.models.map fun m => RouteModule.pathOf (naming.tableOf m.id) :=
    map_eq_of_forall₂ h.routes fun m made hmade => by
      rw [RouteModule.of_ofModel_eq_ok hmade]; rfl
  have hhelpers : parts.helpers.map (·.file.path) =
      (s.models.filter (·.isRelational)).map fun m =>
        HelperModule.pathOf (naming.tableOf m.id) :=
    map_eq_of_forall₂ h.helpers fun m made hmade => by
      obtain ⟨_, -, rfl⟩ := HelperModule.of_ofModel_eq_ok hmade
      rfl
  have hpages : parts.pages.map (fun made => made.files.map (·.path)) =
      s.models.map fun m => Page.all.map (Page.path (naming.tableOf m.id)) :=
    map_eq_of_forall₂ h.pages fun m made hmade => by
      obtain ⟨_, -, rfl⟩ := ModelPages.of_ofModel_eq_ok hmade
      rfl
  rw [h.files]
  constructor
  case models => rw [List.map_append, List.map_map, ← hmodels]; rfl
  case routes => rw [List.map_append, List.map_map, ← hroutes]; rfl
  case helpers => rw [List.map_append, List.map_map, ← hhelpers]; rfl
  case templates =>
    rw [List.map_flatMap, List.flatMap_def, hpages, ← List.flatMap_def]

end Application

end SchemaLang
