import SchemaLang.Proofs.Build.Writing
import SchemaLang.Proofs.Output.Groups

/-!
# Builds write nothing or their files in order

A build can fail for the source, the operations on files, and for nothing else. If the source cannot
be read, is refused or makes an invalid schema, the file tree stays as it is. Behind a valid schema
the build writes a list of files that is known beforehand, for nothing that is made of such a schema
can fail. It is stopped only by a tree that refuses one of the files; those in front of it have been
written.

## Key results

- `BuildPaths.sequence`: the files of a build in the order in which they are written
- `Build.Ends`: how a build can end, with the tree that it leaves behind
- `ends_perform`: every build ends in one of these ways
-/

namespace SchemaLang

/-- The file in a directory. -/
def OutputFile.within (f : OutputFile) (directory : String) : OutputFile :=
  { f with path := Path.join directory f.path }

/-- The files that are written for a schema: its document, if it is asked for, and then the files of
    its application. -/
def BuildPaths.sequence (p : BuildPaths) (s : Schema) (a : Application) : List OutputFile :=
  (p.documentFile? s).toList ++
    (a.models.map (·.within p.models) ++ a.routes.map (·.within p.routes) ++
      a.helpers.map (·.within p.routes) ++ a.templates.map (·.within p.templates))

/-- The text of the file at a path. -/
def FileTree.readText (t : FileTree) (path : String) : Except FileFault String := do
  match String.fromUTF8? (← t.read path) with
  | some text => .ok text
  | none => .error .notText

namespace Build

open FileTree

variable {t : FileTree} {source text : String} {s : Schema} {a : Application}
  {paths : BuildPaths} {naming : TableNaming}

/-- How a build can end, with the tree that it leaves behind. -/
inductive Ends (t : FileTree) (source : String) (paths : BuildPaths) (naming : TableNaming) :
    Except Failure BuildSummary × FileTree → Prop where
  | unread {fault : FileFault} (read : t.readText source = .error fault) :
      Ends t source paths naming (.error (.sourceUnread source fault), t)
  | refused {text : String} {error : SourceError} (read : t.readText source = .ok text)
      (refuses : compile text = .error error) :
      Ends t source paths naming (.error (.sourceRefused source error), t)
  | invalid {text : String} {s : Schema} (read : t.readText source = .ok text)
      (compiled : compile text = .ok s) (invalid : s.isValid = false) :
      Ends t source paths naming (.error (.schemaInvalid source s.violations), t)
  | stopped {text : String} {s : Schema} {a : Application} {failure : Failure} {u : FileTree}
      (read : t.readText source = .ok text) (compiled : compile text = .ok s)
      (valid : s.isValid = true) (made : Application.ofSchema s naming = .ok a)
      (written : t.Writes (paths.sequence s a) (.error failure, u)) :
      Ends t source paths naming (.error failure, u)
  | finished {text : String} {s : Schema} {a : Application} {u : FileTree}
      (read : t.readText source = .ok text) (compiled : compile text = .ok s)
      (valid : s.isValid = true) (made : Application.ofSchema s naming = .ok a)
      (written : t.Writes (paths.sequence s a) (.ok (), u)) :
      Ends t source paths naming (.ok {
        models := s.models.length
        files := a.models.length + a.routes.length + a.helpers.length + a.templates.length }, u)

/-! ## The steps of a build -/

/-- A text is read without a change to the tree. -/
theorem readText_apply (path : String) (t : FileTree) :
    (FileStore.readText path : StateM FileTree _) t = (t.readText path, t) := by
  have hread : (FileStore.read path : StateM FileTree _) t = (t.read path, t) := rfl
  rw [FileStore.readText, FileStore.bind_apply, hread, FileTree.readText]
  cases t.read path with
  | error fault => rfl
  | ok bytes =>
    simp only [bind, Except.bind]
    cases String.fromUTF8? bytes with
    | none => rfl
    | some text => rfl

/-- Loading a schema reads its source and changes nothing. -/
theorem run_loadSchema (source : String) (t : FileTree) :
    (loadSchema source : Build (StateM FileTree) Schema).run t =
      ((t.readText source).mapError (.sourceUnread source) >>= reviewed source, t) := by
  rw [loadSchema, run_bind, run_attempt, readText_apply]
  cases t.readText source with
  | error fault => rfl
  | ok text =>
    show (MonadExcept.ofExcept (reviewed source text) : Build (StateM FileTree) Schema).run t =
      (reviewed source text, t)
    cases reviewed source text with
    | error failure => rfl
    | ok s => rfl

/-- The files of an application are those of its groups. -/
theorem sequence_eq (paths : BuildPaths) (s : Schema) (a : Application) :
    paths.sequence s a = (paths.documentFile? s).toList ++ paths.files a := by
  simp [BuildPaths.sequence, BuildPaths.files, OutputGroup.all, OutputFile.within,
    BuildPaths.directory, Application.files]

/-- A build that has loaded its schema writes its files in one run. -/
theorem run_perform
    (hload : (loadSchema source : Build (StateM FileTree) Schema).run t = (.ok s, t))
    (hmade : Application.ofSchema s naming = .ok a) :
    (perform source paths naming : Build (StateM FileTree) BuildSummary).run t =
      (((paths.sequence s a).forM writeFile : Build (StateM FileTree) Unit) >>= fun _ =>
        pure { models := s.models.length, files := (paths.files a).length }).run t := by
  rw [perform, run_bind, hload, sequence_eq]
  simp only [hmade]
  cases paths.documentFile? s with
  | none => rfl
  | some document =>
    -- The document is the first file of the run.
    show _ = ((writeFile document >>= fun _ => (paths.files a).forM writeFile :
      Build (StateM FileTree) Unit) >>= fun _ => pure _).run t
    rw [bind_assoc]
    rfl

/-- A build that cannot load its schema does nothing. -/
theorem run_perform_of_error {failure : Failure}
    (hload : (loadSchema source : Build (StateM FileTree) Schema).run t = (.error failure, t)) :
    (perform source paths naming : Build (StateM FileTree) BuildSummary).run t =
      (.error failure, t) := by
  rw [perform, run_bind, hload]

/-- A build behind a valid schema writes the files of the schema until one is refused. -/
theorem ends_of_isValid (hread : t.readText source = .ok text) (hcompile : compile text = .ok s)
    (hvalid : s.isValid = true)
    (hload : (loadSchema source : Build (StateM FileTree) Schema).run t = (.ok s, t)) :
    Ends t source paths naming
      ((perform source paths naming : Build (StateM FileTree) BuildSummary).run t) := by
  obtain ⟨a, hmade⟩ := Application.exists_ofSchema hvalid naming
  have hwrites := writes_forM (.refl t) (paths.sequence s a)
  rw [List.nil_append] at hwrites
  rw [run_perform hload hmade, run_bind]
  rcases hrun : ((paths.sequence s a).forM writeFile : Build (StateM FileTree) Unit).run t with
    ⟨failure | ⟨⟩, u⟩ <;> rw [hrun] at hwrites
  · exact .stopped hread hcompile hvalid hmade hwrites
  · have hcount : (paths.files a).length =
        a.models.length + a.routes.length + a.helpers.length + a.templates.length := by
      simp [BuildPaths.files, OutputGroup.all, Application.files, Nat.add_assoc]
    rw [hcount]
    exact .finished hread hcompile hvalid hmade hwrites

end Build

/-- Every build ends in one of these ways, whatever stands in the file tree: it fails and changes
    nothing, because its source cannot be read, is refused or makes an invalid schema; or else it
    writes the files of its schema, and fails only where the tree refuses one of them. -/
theorem ends_perform (t : FileTree) (source : String) (paths : BuildPaths) (naming : TableNaming) :
    Build.Ends t source paths naming
      ((Build.perform source paths naming : Build (StateM FileTree) BuildSummary).run t) := by
  have hload := Build.run_loadSchema source t
  cases hread : t.readText source with
  | error fault =>
    rw [hread] at hload
    rw [Build.run_perform_of_error hload]
    exact .unread hread
  | ok text =>
    rw [hread] at hload
    change _ = (Build.reviewed source text, t) at hload
    cases hcompile : compile text with
    | error error =>
      have hreviewed : Build.reviewed source text = .error (.sourceRefused source error) := by
        rw [Build.reviewed, hcompile]
        rfl
      rw [hreviewed] at hload
      rw [Build.run_perform_of_error hload]
      exact .refused hread hcompile
    | ok s =>
      have hreviewed : Build.reviewed source text =
          if s.isValid then .ok s else .error (.schemaInvalid source s.violations) := by
        rw [Build.reviewed, hcompile]
        rfl
      rw [hreviewed] at hload
      cases hvalid : s.isValid with
      | false =>
        rw [hvalid] at hload
        rw [Build.run_perform_of_error hload]
        exact .invalid hread hcompile hvalid
      | true =>
        rw [hvalid] at hload
        exact Build.ends_of_isValid hread hcompile hvalid hload

/-- A source, and a file where the directory of the models belongs. -/
def blockedTree : FileTree where
  entries := [(["schema.dsl"], .file "table Port \x7b\nid Int [pk]\n\x7d".toUTF8),
    (["models"], .file "".toUTF8)]

/-- The document is written before the models are refused, and nothing after that. -/
example :
    let paths : BuildPaths :=
      { models := "models", routes := "routes", templates := "templates"
        document := some "build/schema.json" }
    let ended := (Build.perform "schema.dsl" paths {} : Build (StateM FileTree) BuildSummary).run
      blockedTree
    (match ended.1 with
      | .ok _ => none
      | .error failure => some failure) = some (.directoryNotMade "models" .exists) ∧
      ended.2.entries.map (·.1) =
        [["build", "schema.json"], ["build"], ["schema.dsl"], ["models"]] := by
  decide +kernel

end SchemaLang
