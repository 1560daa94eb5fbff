import SchemaLang.Output.Application
import SchemaLang.Proofs.ForStd.Except
import SchemaLang.Proofs.Review.Checks

/-!
# Valid schemas can be made into applications

The generators follow foreign keys, choose the columns that rows are shown by and look up primary
keys, each on its own. In a valid schema none of this can fail: every key leads to a model of the
schema, and every model has a primary key to fall back on.

## Key results

- `exists_relatedInputs`: the foreign keys of a model can be made into inputs
- `exists_application`: all groups of files can be made
-/

namespace SchemaLang

variable {s : Schema} {m : Model} {f : Field}

/-! ## What the generators look up -/

/-- A foreign key leads to a model of the schema. -/
theorem Schema.mem_models_of_resolveForeignKey? {target : Model} {key : Field}
    (h : s.resolveForeignKey? f = some (target, key)) : target ∈ s.models := by
  simp only [resolveForeignKey?, Option.bind_eq_bind, Option.bind_eq_some_iff] at h
  obtain ⟨parts, -, found, hfound, field, -, heq⟩ := h
  cases heq
  exact List.mem_of_find?_eq_some hfound

/-- A foreign key leads to a field of its target. -/
theorem Schema.mem_fields_of_resolveForeignKey? {target : Model} {key : Field}
    (h : s.resolveForeignKey? f = some (target, key)) : key ∈ target.fields := by
  simp only [resolveForeignKey?, Option.bind_eq_bind, Option.bind_eq_some_iff] at h
  obtain ⟨parts, -, found, -, field, hfield, heq⟩ := h
  cases heq
  exact List.mem_of_find?_eq_some hfield

namespace Model

/-- A model of a valid schema has a column to show its rows by. -/
private theorem exists_displayField (h : s.isValid = true) (hm : m ∈ s.models) :
    ∃ display, m.displayField? = some display := by
  obtain ⟨key, hkey⟩ := Schema.exists_primaryKey_of_isValid h hm
  rw [displayField?, hkey]
  cases m.fields.find? fun f => !f.primaryKey && f.type == .string with
  | none => exact ⟨key, rfl⟩
  | some display => exact ⟨display, rfl⟩

/-- The rows that a foreign key can reference can be offered. -/
private theorem exists_relatedInput (h : s.isValid = true) (hm : m ∈ s.models)
    (hf : f ∈ m.foreignKeyFields) : ∃ input, m.relatedInput s f = .ok input := by
  obtain ⟨target, key, hkey⟩ := Schema.exists_target_of_isValid h hm hf
  obtain ⟨display, hdisplay⟩ :=
    exists_displayField h (Schema.mem_models_of_resolveForeignKey? hkey)
  simp only [relatedInput, hkey, hdisplay]
  exact ⟨_, rfl⟩

/-- The foreign keys of a model of a valid schema can be made into inputs. -/
theorem exists_relatedInputs (h : s.isValid = true) (hm : m ∈ s.models) :
    ∃ inputs, m.relatedInputs s = .ok inputs :=
  List.exists_mapM_eq_ok fun _ hf => exists_relatedInput h hm hf

end Model

/-! ## The files of one model -/

/-- A field of a valid schema can be made into a column. -/
private theorem ColumnLine.exists_ofField (h : s.isValid = true) (naming : TableNaming)
    (hm : m ∈ s.models) (hf : f ∈ m.fields) : ∃ line, ofField s naming f = .ok line := by
  rw [ofField, referenceOf]
  cases hforeign : f.foreignKey with
  | none => exact ⟨_, rfl⟩
  | some text =>
    have hkey : f ∈ m.foreignKeyFields :=
      List.mem_filter.mpr ⟨hf, by rw [Field.isForeignKey, hforeign]; rfl⟩
    obtain ⟨target, column, hresolve⟩ := Schema.exists_target_of_isValid h hm hkey
    simp only [hresolve]
    exact ⟨_, rfl⟩

/-- A relationship of a valid schema can be made into a line: if it leads from a model to itself,
    the model has a key to point at. -/
private theorem RelationLine.exists_ofRelationship (h : s.isValid = true) (hm : m ∈ s.models)
    (r : Relationship) : ∃ line, ofRelationship m r = .ok line := by
  obtain ⟨key, hkey⟩ := Schema.exists_primaryKey_of_isValid h hm
  rw [ofRelationship, hkey]
  split
  · exact ⟨_, rfl⟩
  · exact ⟨_, rfl⟩

/-- A model of a valid schema has a module. -/
theorem ModelModule.exists_ofModel (h : s.isValid = true) (naming : TableNaming)
    (hm : m ∈ s.models) : ∃ made, ofModel s naming m = .ok made := by
  obtain ⟨columns, hcolumns⟩ :=
    List.exists_mapM_eq_ok fun _ hf => ColumnLine.exists_ofField h naming hm hf
  obtain ⟨relations, hrelations⟩ :=
    List.exists_mapM_eq_ok (l := m.relationships) fun r _ =>
      RelationLine.exists_ofRelationship h hm r
  rw [ofModel, hcolumns, hrelations]
  exact ⟨_, rfl⟩

/-- A model of a valid schema has a module of routes. -/
private theorem RouteModule.exists_ofModel (h : s.isValid = true) (naming : TableNaming)
    (hm : m ∈ s.models) : ∃ made, ofModel s naming m = .ok made := by
  obtain ⟨inputs, hinputs⟩ := Model.exists_relatedInputs h hm
  rw [ofModel, hinputs]
  exact ⟨_, rfl⟩

/-- A model of a valid schema has a helper module. -/
private theorem HelperModule.exists_ofModel (h : s.isValid = true) (naming : TableNaming)
    (hm : m ∈ s.models) : ∃ made, ofModel s naming m = .ok made := by
  obtain ⟨inputs, hinputs⟩ := Model.exists_relatedInputs h hm
  rw [ofModel, hinputs]
  exact ⟨_, rfl⟩

/-- A model of a valid schema has templates. -/
private theorem ModelPages.exists_ofModel (h : s.isValid = true) (naming : TableNaming)
    (hm : m ∈ s.models) : ∃ pages, ofModel s naming m = .ok pages := by
  obtain ⟨inputs, hinputs⟩ := Model.exists_relatedInputs h hm
  rw [ofModel, hinputs]
  exact ⟨_, rfl⟩

/-- What the module of a model is made of. -/
theorem ModelModule.of_ofModel_eq_ok {naming : TableNaming} {made : ModelModule}
    (h : ofModel s naming m = .ok made) :
    made.className = m.id ∧ made.table = naming.tableOf m.id ∧
      (made.indices = m.indices.map fun ix =>
        { name := emittedIndexName m.id (naming.tableOf m.id) ix.name, columns := ix.columns }) ∧
      List.Forall₂ (fun f line => ColumnLine.ofField s naming f = .ok line) m.fields made.columns ∧
      List.Forall₂ (fun r line => RelationLine.ofRelationship m r = .ok line) m.relationships
        made.relations := by
  obtain ⟨columns, hcolumns, h⟩ := Except.bind_eq_ok_iff.mp h
  obtain ⟨relations, hrelations, h⟩ := Except.bind_eq_ok_iff.mp h
  cases h
  exact ⟨rfl, rfl, rfl, List.forall₂_of_mapM_eq_ok hcolumns,
    List.forall₂_of_mapM_eq_ok hrelations⟩

/-! ## All groups of files -/

/-- Something can be made of all models if it can be made of each. -/
theorem OutputGroup.exists_forModels {α : Type} (group : OutputGroup)
    {make : Model → Except OutputFault α} {models : List Model}
    (h : ∀ m ∈ models, ∃ made, make m = .ok made) :
    ∃ made, group.forModels make models = .ok made := by
  refine List.exists_mapM_eq_ok fun m hm => ?_
  obtain ⟨made, hmade⟩ := h m hm
  exact ⟨made, by rw [hmade]; rfl⟩

/-- What is made of all models is made of each. -/
theorem OutputGroup.forall₂_of_forModels_eq_ok {α : Type} {group : OutputGroup}
    {make : Model → Except OutputFault α} {models : List Model} {made : List α}
    (h : group.forModels make models = .ok made) :
    List.Forall₂ (fun m x => make m = .ok x) models made :=
  (List.forall₂_of_mapM_eq_ok h).imp fun _ _ hmake => Except.mapError_eq_ok_iff.mp hmake

/-- Each group of files of a valid schema can be made. -/
theorem Schema.exists_filesOf (h : s.isValid = true) (naming : TableNaming)
    (group : OutputGroup) : ∃ files, s.filesOf naming group = .ok files := by
  cases group with
  | models =>
    obtain ⟨modules, hmodules⟩ := OutputGroup.models.exists_forModels fun _ hm =>
      ModelModule.exists_ofModel h naming hm
    rw [filesOf, modelModules, hmodules]
    exact ⟨_, rfl⟩
  | routes =>
    obtain ⟨modules, hmodules⟩ := OutputGroup.routes.exists_forModels fun _ hm =>
      RouteModule.exists_ofModel h naming hm
    rw [filesOf, routeModules, hmodules]
    exact ⟨_, rfl⟩
  | helpers =>
    -- Only models with foreign keys have helpers.
    obtain ⟨modules, hmodules⟩ := OutputGroup.helpers.exists_forModels fun _ hm =>
      HelperModule.exists_ofModel h naming (List.mem_of_mem_filter hm)
    rw [filesOf, helperModules, hmodules]
    exact ⟨_, rfl⟩
  | templates =>
    obtain ⟨made, hmade⟩ := OutputGroup.templates.exists_forModels fun _ hm =>
      ModelPages.exists_ofModel h naming hm
    rw [filesOf, pages, hmade]
    exact ⟨_, rfl⟩

/-- A valid schema can be made into an application, whatever its tables are called: every group of
    files can be made, and the application consists of them. -/
theorem exists_application (h : s.isValid = true) (naming : TableNaming) :
    ∃ a, Application.ofSchema s naming = .ok a ∧
      ∀ group, s.filesOf naming group = .ok (a.files group) := by
  obtain ⟨models, hmodels⟩ := Schema.exists_filesOf h naming .models
  obtain ⟨routes, hroutes⟩ := Schema.exists_filesOf h naming .routes
  obtain ⟨helpers, hhelpers⟩ := Schema.exists_filesOf h naming .helpers
  obtain ⟨templates, htemplates⟩ := Schema.exists_filesOf h naming .templates
  refine ⟨{ models, routes, helpers, templates }, ?_, ?_⟩
  · rw [Application.ofSchema, hmodels, hroutes, hhelpers, htemplates]
    rfl
  · rintro (_ | _ | _ | _)
    · exact hmodels
    · exact hroutes
    · exact hhelpers
    · exact htemplates

/-- Ports with a code that identifies them and a hub among themselves, and legs between ports. -/
def portsAndLegs : Schema where
  models := [
    { id := "S001_Port", name := "Port"
      fields := [
        { name := "id", type := .integer, primaryKey := true, nullable := false },
        { name := "code", type := .string, unique := true },
        { name := "hub_code", type := .string, foreignKey := some "s001_port.code" }]
      indices := [{ name := "ix_s001_port_hub_code", columns := ["hub_code"] }]
      relationships := [
        { name := "hub", target := "S001_Port", cardinality := .manyToOne
          backPopulates := "feeders", origin := .foreignKey },
        { name := "feeders", target := "S001_Port", cardinality := .oneToMany
          backPopulates := "hub" },
        { name := "legs", target := "S002_Leg", cardinality := .oneToMany
          backPopulates := "port", origin := .inverse }] },
    { id := "S002_Leg", name := "Leg"
      fields := [
        { name := "number", type := .integer, primaryKey := true, nullable := false },
        { name := "port_id", type := .integer, foreignKey := some "S001_PORT.ID" }]
      indices := [{ name := "ix_s002_leg_port_id", columns := ["port_id"] }]
      relationships := [
        { name := "port", target := "S001_Port", cardinality := .manyToOne
          backPopulates := "legs", origin := .foreignKey }] }]

theorem exists_application_portsAndLegs :
    portsAndLegs.isValid = true ∧
      ∃ a, Application.ofSchema portsAndLegs { letterCase := .upper, leading := "t_" } = .ok a ∧
        ∀ group, portsAndLegs.filesOf { letterCase := .upper, leading := "t_" } group =
          .ok (a.files group) :=
  have hvalid : portsAndLegs.isValid = true := by decide +kernel
  ⟨hvalid, exists_application hvalid { letterCase := .upper, leading := "t_" }⟩

end SchemaLang
