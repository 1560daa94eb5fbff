import SchemaLang.Proofs.Output.Groups
import SchemaLang.Proofs.Output.Naming
import SchemaLang.Proofs.Pairing.Compiled

/-!
# Paths of files

The files of one directory must not be called the same. The names of two tables differ within the
marks of their places, so the files of one kind are told apart by whatever follows. The packages are
called after no table, for every name of a table holds a digit. What is left are the helper modules,
which stand in a directory below that of the route modules: a leading text may name that directory
too, even several times over, but then no digit can follow it.

## Key results

- `pairwise_tables`: no text goes on with the names of two tables
- `routePath_ne_helperPath`: no route module is called like a helper module
- `nodup_paths`: the files of each directory have distinct paths
-/

namespace SchemaLang

variable {source : String} {s : Schema} {m m' : Model}

/-! ## Names of tables -/

/-- No text goes on with the names of two tables. -/
theorem pairwise_tables (h : compile source = .ok s) (naming : TableNaming) :
    s.models.Pairwise fun m m' =>
      ∀ a b, naming.tableOf m.id ++ a ≠ naming.tableOf m'.id ++ b := by
  rw [List.pairwise_iff_getElem]
  intro i j hi hj hlt a b heq
  obtain ⟨name, hid⟩ := exists_id_of_getElem?_models h (List.getElem?_eq_getElem hi)
  obtain ⟨name', hid'⟩ := exists_id_of_getElem?_models h (List.getElem?_eq_getElem hj)
  rw [hid, hid'] at heq
  have hseq := naming.seq_eq_of_tableOf_append heq
  omega

/-- The name of a table has a digit behind a letter, and both behind the leading text. -/
theorem exists_tableOf (h : compile source = .ok s) (hm : m ∈ s.models) (naming : TableNaming) :
    ∃ letter digit rest, digit.isDigit = true ∧
      (naming.tableOf m.id).toList = naming.leading.toList ++ letter :: digit :: rest := by
  obtain ⟨i, hi⟩ := List.mem_iff_getElem?.mp hm
  obtain ⟨name, hid⟩ := exists_id_of_getElem?_models h hi
  rw [hid]
  exact naming.exists_tableOf_canonicalId (1 + i) name

/-- A text without a digit is not called after a table. -/
theorem tableOf_append_ne (h : compile source = .ok s) (hm : m ∈ s.models) (naming : TableNaming)
    {text : String} (htext : text.toList.any Char.isDigit = false) (a : String) :
    naming.tableOf m.id ++ a ≠ text := by
  rintro rfl
  obtain ⟨letter, digit, rest, hdigit, htable⟩ := exists_tableOf h hm naming
  simp [htable, hdigit] at htext

/-! ## Paths -/

/-- No route module is called like a helper module. -/
theorem routePath_ne_helperPath (h : compile source = .ok s) (hm : m ∈ s.models)
    (hm' : m' ∈ s.models) (naming : TableNaming) :
    RouteModule.pathOf (naming.tableOf m.id) ≠ HelperModule.pathOf (naming.tableOf m'.id) := by
  intro heq
  obtain ⟨letter, digit, rest, hdigit, htable⟩ := exists_tableOf h hm naming
  obtain ⟨letter', digit', rest', -, htable'⟩ := exists_tableOf h hm' naming
  have hlist := congrArg String.toList heq
  rw [helperPath_eq, RouteModule.pathOf] at hlist
  simp only [String.toList_append, htable, htable', List.append_assoc, List.cons_append] at hlist
  -- The leading text would repeat the name of the directory, and that has no digit.
  have hmem : digit ∈ HelperModule.directory.toList :=
    List.mem_of_append_eq_append (by decide) hlist
  have hnone : HelperModule.directory.toList.any Char.isDigit = false := by decide
  exact absurd (List.any_eq_true.mpr ⟨digit, hmem, hdigit⟩) (by rw [hnone]; decide)

/-- The package of the helpers is called like no route module. -/
theorem routePath_ne_helperPackage (h : compile source = .ok s) (hm : m ∈ s.models)
    (naming : TableNaming) :
    RouteModule.pathOf (naming.tableOf m.id) ≠ HelperModule.directory ++ packageFile :=
  tableOf_append_ne h hm naming (by decide) ".py"

/-- The package of the routes stands beside the directory of the helpers, not in it. -/
theorem directory_append_ne_package (a : String) :
    HelperModule.directory ++ a ≠ packageFile := by
  intro heq
  have hfirst : HelperModule.directory.toList = 'r' :: "elationships/".toList := by decide
  have hfirst' : packageFile.toList = '_' :: "_init__.py".toList := by decide
  have hlist := congrArg String.toList heq
  rw [String.toList_append, hfirst, hfirst', List.cons_append, List.cons.injEq] at hlist
  exact absurd hlist.1 (by decide)

/-- Paths that go on with the names of tables are distinct from each other, and from the path of a
    package that is called after none. -/
private theorem nodup_concat_package (h : compile source = .ok s) (naming : TableNaming)
    {models : List Model} (hmodels : models.Sublist s.models) {pathOf : String → String}
    {leading trailing package : String}
    (hpath : ∀ table, pathOf table = leading ++ (table ++ trailing))
    (hpackage : ∀ m ∈ models, pathOf (naming.tableOf m.id) ≠ package) :
    ((models.map fun m => pathOf (naming.tableOf m.id)) ++ [package]).Nodup := by
  have hdistinct : (models.map fun m => pathOf (naming.tableOf m.id)).Nodup := by
    rw [List.Nodup, List.pairwise_map]
    refine ((pairwise_tables h naming).sublist hmodels).imp fun hne heq => ?_
    rw [hpath, hpath, String.append_right_inj] at heq
    exact hne trailing trailing heq
  refine List.nodup_append.mpr ⟨hdistinct, List.nodup_singleton package, ?_⟩
  intro path hmem package' hmem' heq
  obtain ⟨m, hm, rfl⟩ := List.mem_map.mp hmem
  exact hpackage m hm (heq.trans (List.mem_singleton.mp hmem'))

/-- No route module and no package of them is called like a helper module or the package of those.
    -/
theorem disjoint_routePaths_helperPaths (h : compile source = .ok s) (naming : TableNaming) :
    List.Disjoint
      ((s.models.map fun m => RouteModule.pathOf (naming.tableOf m.id)) ++ [packageFile])
      (((s.models.filter (·.isRelational)).map fun m =>
        HelperModule.pathOf (naming.tableOf m.id)) ++ [HelperModule.directory ++ packageFile]) := by
  intro path hroute hhelper
  -- Whatever the helpers are called, they stand in a directory of their own.
  have hbelow : ∃ a, path = HelperModule.directory ++ a := by
    rcases List.mem_append.mp hhelper with hhelper | hhelper
    · obtain ⟨m, -, rfl⟩ := List.mem_map.mp hhelper
      exact ⟨_, helperPath_eq _⟩
    · exact ⟨_, List.mem_singleton.mp hhelper⟩
  rcases List.mem_append.mp hroute with hroute | hroute
  · obtain ⟨m, hm, rfl⟩ := List.mem_map.mp hroute
    rcases List.mem_append.mp hhelper with hhelper | hhelper
    · obtain ⟨m', hm', heq⟩ := List.mem_map.mp hhelper
      exact routePath_ne_helperPath h hm (List.mem_of_mem_filter hm') naming heq.symm
    · exact routePath_ne_helperPackage h hm naming (List.mem_singleton.mp hhelper)
  · obtain ⟨a, rfl⟩ := hbelow
    exact directory_append_ne_package a (List.mem_singleton.mp hroute)

/-- The pages of all tables have distinct paths. -/
theorem nodup_pagePaths (h : compile source = .ok s) (naming : TableNaming) :
    (s.models.flatMap fun m => Page.all.map (Page.path (naming.tableOf m.id))).Nodup := by
  have hpage : ∀ table page, ∃ ending, Page.path table page = table ++ ending := by
    rintro table (_ | _ | _) <;> exact ⟨_, rfl⟩
  -- The pages of one table end differently, and those of two tables begin so.
  refine List.nodup_flatMap.mpr ⟨fun m _ => ?_, (pairwise_tables h naming).imp fun hne => ?_⟩
  · simp [Page.all, Page.path, String.append_right_inj]
  · intro path hpath hpath'
    obtain ⟨page, -, rfl⟩ := List.mem_map.mp hpath
    obtain ⟨page', -, heq⟩ := List.mem_map.mp hpath'
    obtain ⟨ending, hending⟩ := hpage _ page
    obtain ⟨ending', hending'⟩ := hpage _ page'
    exact hne ending ending' (hending.symm.trans (heq.symm.trans hending'))

/-- No file of an application is written over another one, whatever its tables are called: the
    models, the templates, and the routes with the helpers beside them have distinct paths. There is
    one model module and one route module for each model, and a helper module for each model with
    foreign keys, and a package of each; and there are three templates for each model. -/
theorem nodup_paths {naming : TableNaming} {a : Application} (h : compile source = .ok s)
    (ha : Application.ofSchema s naming = .ok a) :
    (a.models.map (·.path)).Nodup ∧ ((a.routes ++ a.helpers).map (·.path)).Nodup ∧
      (a.templates.map (·.path)).Nodup ∧
      a.models.length = s.models.length + 1 ∧ a.routes.length = s.models.length + 1 ∧
      a.helpers.length = (s.models.filter (·.isRelational)).length + 1 ∧
      a.templates.length = 3 * s.models.length := by
  obtain ⟨parts, hparts⟩ := Application.exists_isMadeOf ha
  obtain ⟨hmodels, hroutes, hhelpers, htemplates⟩ := hparts.paths
  have hpackage : ∀ m ∈ s.models, naming.tableOf m.id ++ ".py" ≠ packageFile :=
    fun m hm => tableOf_append_ne h hm naming (by decide) ".py"
  have hpath : ∀ table : String, table ++ ".py" = "" ++ (table ++ ".py") := fun _ => by simp
  refine ⟨?models, ?routes, ?templates, ?_, ?_, ?_, ?_⟩
  case models =>
    rw [hmodels]
    exact nodup_concat_package h naming (List.Sublist.refl _) hpath hpackage
  case routes =>
    rw [List.map_append, hroutes, hhelpers]
    refine List.nodup_append.mpr ⟨?_, ?_, ?_⟩
    · exact nodup_concat_package h naming (List.Sublist.refl _) hpath hpackage
    · exact nodup_concat_package h naming List.filter_sublist helperPath_eq fun m _ =>
        helperPath_ne_package (naming.tableOf m.id)
    · rintro path hroute _ hhelper rfl
      exact disjoint_routePaths_helperPaths h naming hroute hhelper
  case templates =>
    rw [htemplates]
    exact nodup_pagePaths h naming
  · simpa using congrArg List.length hmodels
  · simpa using congrArg List.length hroutes
  · simpa using congrArg List.length hhelpers
  · have hcount := congrArg List.length htemplates
    rw [List.length_map, List.length_flatMap] at hcount
    simpa [Page.all, Nat.mul_comm] using hcount

/-- Tables of which one has a foreign key. -/
def portsBeforeLegs : String :=
  "table Port \x7b
id Int [pk]
\x7d
table Leg \x7b
id Int [pk]
from Int [ref: > Port.id]
\x7d"

theorem nodup_paths_portsBeforeLegs :
    ∃ a, compile portsBeforeLegs = .ok (Schema.ofChecked portsBeforeLegs) ∧
      Application.ofSchema (Schema.ofChecked portsBeforeLegs)
        { leading := "relationships/", trailing := "_helpers" } = .ok a ∧
      ((a.routes ++ a.helpers).map (·.path)).Nodup ∧ a.helpers.length = 2 := by
  obtain ⟨hchecked, hmade, hkeys⟩ : checkSource portsBeforeLegs = .ok () ∧
      (Application.ofSchema (Schema.ofChecked portsBeforeLegs)
        { leading := "relationships/", trailing := "_helpers" }).toOption.isSome = true ∧
      ((Schema.ofChecked portsBeforeLegs).models.filter (·.isRelational)).length = 1 := by
    decide +kernel
  have hcompile := compile_eq_ok_iff.mpr ⟨hchecked, rfl⟩
  cases ha : Application.ofSchema (Schema.ofChecked portsBeforeLegs)
      { leading := "relationships/", trailing := "_helpers" } with
  | error e =>
    rw [ha] at hmade
    cases hmade
  | ok a =>
    obtain ⟨-, hroutes, -, -, -, hhelpers, -⟩ := nodup_paths hcompile ha
    rw [hkeys] at hhelpers
    exact ⟨a, hcompile, rfl, hroutes, hhelpers⟩

end SchemaLang
