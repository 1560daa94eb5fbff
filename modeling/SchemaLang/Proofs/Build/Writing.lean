import SchemaLang.Build.Steps
import SchemaLang.Proofs.Files.Directories

/-!
# Writing files

A build writes its files one after the other, each with the directories that are missing above it.
What a file tree has received is read off the tree itself: at every place stands the last file that
has been written there, or what stood there before.

## Key results

- `Receives`: a tree with the files that have been written to it
- `Receives.write`, `Receives.gainsDirectories`: what one operation adds
- `Receives.read_eq_ok`: written files can be read
- `writes_forM`: what writing a list of files does to a tree, also where it is cut short
-/

namespace SchemaLang

/-- The directories that a file needs above it. -/
def OutputFile.directories (f : OutputFile) : List String :=
  match Path.parent? f.path with
  | some directory => directory :: Path.ancestors directory
  | none => []

namespace FileTree

variable {t u v : FileTree} {begun written later : List OutputFile} {f : OutputFile}

/-- The content of the last of the files whose paths lead to the place. -/
def writtenAt? (t : FileTree) (files : List OutputFile) (place : Location) : Option ByteArray :=
  (files.filter fun f => t.locate f.path = .ok place).getLast?.map (·.content.toUTF8)

/-- The tree `u` is what has become of `t` when files were written, one after the other, and
    directories made for those that were begun. Where no file was written stands what stood there
    before. -/
structure Receives (t : FileTree) (begun written : List OutputFile) (u : FileTree) : Prop where
  grows : t.Grows u
  located : ∀ f ∈ written, ∃ place, u.locate f.path = .ok place
  files : ∀ place bytes, u.entryAt? place = some (.file bytes) ↔
    u.writtenAt? written place = some bytes ∨
      u.writtenAt? written place = none ∧ t.entryAt? place = some (.file bytes)
  directories : ∀ place, u.entryAt? place = some .directory →
    t.entryAt? place = some .directory ∨
      ∃ f ∈ begun, ∃ path ∈ f.directories, u.locate path = .ok place

theorem writtenAt?_concat (t : FileTree) (files : List OutputFile) (f : OutputFile)
    (place : Location) :
    t.writtenAt? (files ++ [f]) place =
      if t.locate f.path = .ok place then some f.content.toUTF8 else t.writtenAt? files place := by
  rw [writtenAt?, List.filter_append, writtenAt?]
  by_cases h : t.locate f.path = .ok place <;> simp [h]

/-- Files that lead somewhere still lead there. -/
theorem Grows.writtenAt?_eq (h : u.Grows v)
    (hlocated : ∀ f ∈ written, ∃ place, u.locate f.path = .ok place) (place : Location) :
    v.writtenAt? written place = u.writtenAt? written place := by
  rw [writtenAt?, writtenAt?]
  congr 2
  refine List.filter_congr fun f hf => ?_
  obtain ⟨place', hlocate⟩ := hlocated f hf
  rw [hlocate, h.locate_eq_ok hlocate]

namespace Receives

/-- A tree that receives nothing stays as it is. -/
theorem refl (t : FileTree) : t.Receives [] [] t where
  grows := .refl t
  located := nofun
  files place bytes := by simp [writtenAt?]
  directories _ := .inl

/-- The next file is begun: the directories above it are made. -/
theorem gainsDirectories (h : t.Receives begun written u)
    (hgains : u.GainsDirectories f.directories v) : t.Receives (begun ++ [f]) written v where
  grows := h.grows.trans hgains.grows
  located g hg := (h.located g hg).imp fun _ => hgains.grows.locate_eq_ok
  files place bytes := by
    rw [hgains.files, h.files, hgains.grows.writtenAt?_eq h.located]
  directories place hplace := by
    rcases hgains.made place hplace with hbefore | ⟨path, hpath, hlocate⟩
    · refine (h.directories place hbefore).imp_right ?_
      rintro ⟨g, hg, path, hpath, hlocate⟩
      exact ⟨g, List.mem_append_left _ hg, path, hpath, hgains.grows.locate_eq_ok hlocate⟩
    · exact .inr ⟨f, by simp, path, hpath, hlocate⟩

/-- A file is written. -/
theorem write (h : t.Receives begun written u) (hwrite : u.write f.path f.content.toUTF8 = .ok v) :
    t.Receives begun (written ++ [f]) v := by
  obtain ⟨place, hplace, hfree, rfl, hlocate⟩ := exists_place_of_write hwrite
  have hgrows : u.Grows (u.put place (.file f.content.toUTF8)) :=
    grows_put hplace fun hdirectory => absurd hdirectory hfree
  constructor
  case grows => exact h.grows.trans hgrows
  case located =>
    intro g hg
    rcases List.mem_append.mp hg with hg | hg
    · exact (h.located g hg).imp fun _ => hgrows.locate_eq_ok
    · obtain rfl := List.mem_singleton.mp hg
      exact ⟨place, hlocate⟩
  case files =>
    intro other bytes
    -- The new file is the last one at its place, and makes no difference elsewhere.
    rw [writtenAt?_concat, hlocate, hgrows.writtenAt?_eq h.located, entryAt?_put u hplace]
    by_cases hother : other = place
    · subst hother
      simp
    · have hne : ¬ (Except.ok place : Except FileFault Location) = .ok other :=
        fun heq => hother (Except.ok.inj heq).symm
      rw [if_neg hother, if_neg hne]
      exact h.files other bytes
  case directories =>
    intro other hother
    rw [entryAt?_put u hplace] at hother
    split at hother
    · cases hother
    · refine (h.directories other hother).imp_right ?_
      rintro ⟨g, hg, path, hpath, hbefore⟩
      exact ⟨g, hg, path, hpath, hgrows.locate_eq_ok hbefore⟩

/-- A written file can be read if no later one leads to its place. -/
theorem read_eq_ok (h : t.Receives begun (written ++ f :: later) u)
    (hlater : ∀ g ∈ later, u.locate g.path ≠ u.locate f.path) :
    u.read f.path = .ok f.content.toUTF8 := by
  obtain ⟨place, hlocate⟩ := h.located f (by simp)
  have hwritten : u.writtenAt? (written ++ f :: later) place = some f.content.toUTF8 := by
    have hnone : later.filter (fun g => u.locate g.path = .ok place) = [] :=
      List.filter_eq_nil_iff.mpr fun g hg => by simpa [← hlocate] using hlater g hg
    rw [writtenAt?, List.filter_append, List.filter_cons_of_pos (by simpa using hlocate), hnone,
      List.getLast?_concat, Option.map_some]
  have hentry := (h.files place f.content.toUTF8).mpr (.inl hwritten)
  exact Except.bind_eq_ok_iff.mpr ⟨place, hlocate, by rw [hentry]⟩

end Receives

/-- Why a file cannot be written to a tree: a directory above it or the file itself is refused. -/
inductive Refuses (t : FileTree) (f : OutputFile) : Failure → Prop where
  | directory {directory path : String} {fault : FileFault}
      (parent : Path.parent? f.path = some directory) (needed : path ∈ f.directories)
      (refuses : t.makeDirectory path = .error fault) (missing : t.isDirectory path = false) :
      Refuses t f (.directoryNotMade directory fault)
  | file {fault : FileFault} (refuses : t.write f.path f.content.toUTF8 = .error fault) :
      Refuses t f (.fileNotWritten f.path fault)

/-- How writing files can end, with the tree that it leaves behind: with all of them written, or
    with those in front of one that is refused. -/
inductive Writes (t : FileTree) (files : List OutputFile) :
    Except Failure Unit × FileTree → Prop where
  | all {u : FileTree} (received : t.Receives files files u) : Writes t files (.ok (), u)
  | stopped {u : FileTree} {done rest : List OutputFile} {f : OutputFile} {failure : Failure}
      (initial : files = done ++ f :: rest) (received : t.Receives (done ++ [f]) done u)
      (refuses : u.Refuses f failure) : Writes t files (.error failure, u)

end FileTree

namespace Build

open FileTree

variable {t u : FileTree} {done : List OutputFile}

/-! ## Steps one after the other -/

/-- A step is followed by another one unless it fails. -/
theorem run_bind {α β : Type} (x : Build (StateM FileTree) α) (g : α → Build (StateM FileTree) β)
    (t : FileTree) :
    (x >>= g).run t =
      match x.run t with
      | (.ok a, u) => (g a).run u
      | (.error failure, u) => (.error failure, u) := by
  show (x.run >>= ExceptT.bindCont g : StateM FileTree _) t = _
  rw [FileStore.bind_apply]
  rcases x.run t with ⟨failure | a, u⟩
  · rfl
  · rfl

theorem run_attempt {α : Type} (failure : FileFault → Failure)
    (operation : StateM FileTree (Except FileFault α)) (t : FileTree) :
    (attempt failure operation).run t = ((operation t).1.mapError failure, (operation t).2) :=
  rfl

/-! ## Files one after the other -/

/-- Makes the directories that a file needs above it. -/
def prepare (f : OutputFile) : Build (StateM FileTree) Unit :=
  match Path.parent? f.path with
  | some directory =>
    attempt (.directoryNotMade directory) (FileStore.ensureDirectories directory)
  | none => pure ()

/-- A file is written after its directories have been made. -/
theorem writeFile_eq (f : OutputFile) :
    (writeFile f : Build (StateM FileTree) Unit) =
      prepare f >>= fun _ =>
        attempt (.fileNotWritten f.path) (FileStore.writeText f.path f.content) := by
  rw [writeFile, prepare]
  cases Path.parent? f.path with
  | none => rfl
  | some directory => rfl

/-- Preparing a file begins it: its directories are made, or one of them is refused. -/
theorem prepare_cases (h : t.Receives done done u) (f : OutputFile) :
    ∃ v, t.Receives (done ++ [f]) done v ∧ ((prepare f).run u = (.ok (), v) ∨
      ∃ failure, (prepare f).run u = (.error failure, v) ∧ v.Refuses f failure) := by
  rw [prepare]
  cases hparent : Path.parent? f.path with
  | none =>
    have hnothing : u.GainsDirectories f.directories u := .refl u _
    exact ⟨u, h.gainsDirectories hnothing, .inl rfl⟩
  | some directory =>
    have hdirectories : f.directories = directory :: Path.ancestors directory := by
      rw [OutputFile.directories, hparent]
    have hensures := FileStore.ensures_ensureDirectories directory u
    rw [← hdirectories] at hensures
    refine ⟨_, h.gainsDirectories hensures.gains, ?_⟩
    simp only [run_attempt]
    rcases hrun : (FileStore.ensureDirectories directory : StateM FileTree _) u with
      ⟨fault | ⟨⟩, v⟩ <;> rw [hrun] at hensures
    · right
      cases hensures with
      | refused gains isAsked refuses missing =>
        exact ⟨_, rfl, .directory hparent isAsked refuses missing⟩
    · exact .inl rfl

/-- Writing one more file adds it, or leaves the tree without it. -/
theorem writeFile_cases (h : t.Receives done done u) (f : OutputFile) :
    (∃ v, (writeFile f : Build (StateM FileTree) Unit).run u = (.ok (), v) ∧
      t.Receives (done ++ [f]) (done ++ [f]) v) ∨
    ∃ failure v, (writeFile f : Build (StateM FileTree) Unit).run u = (.error failure, v) ∧
      t.Receives (done ++ [f]) done v ∧ v.Refuses f failure := by
  obtain ⟨v, hbegun, hrun | ⟨failure, hrun, hrefuses⟩⟩ := prepare_cases h f
  · have hwrites : (writeFile f : Build (StateM FileTree) Unit).run u =
        (attempt (.fileNotWritten f.path) (FileStore.writeText f.path f.content) :
          Build (StateM FileTree) Unit).run v := by
      rw [writeFile_eq, run_bind, hrun]
    have hchange : (FileStore.writeText f.path f.content : StateM FileTree _) v =
        FileTree.change (·.write f.path f.content.toUTF8) v := rfl
    rw [hwrites, run_attempt, hchange]
    simp only [FileTree.change]
    cases hwrite : v.write f.path f.content.toUTF8 with
    | ok w => exact .inl ⟨w, rfl, hbegun.write hwrite⟩
    | error fault => exact .inr ⟨_, v, rfl, hbegun, .file hwrite⟩
  · right
    refine ⟨failure, v, ?_, hbegun, hrefuses⟩
    rw [writeFile_eq, run_bind, hrun]

/-- Writing files adds all of them, or those in front of one that is refused. -/
theorem writes_forM (h : t.Receives done done u) (files : List OutputFile) :
    t.Writes (done ++ files) ((files.forM writeFile : Build (StateM FileTree) Unit).run u) := by
  -- Each file that is written joins those that are done, so the induction is for any of them.
  induction files generalizing done u with
  | nil =>
    rw [List.append_nil]
    exact .all h
  | cons f rest ih =>
    show t.Writes _ ((writeFile f >>= fun _ => rest.forM writeFile :
      Build (StateM FileTree) Unit).run u)
    rw [run_bind]
    rcases writeFile_cases h f with ⟨v, hrun, hnext⟩ | ⟨failure, v, hrun, hnext, hrefuses⟩
    · rw [hrun, List.append_cons]
      exact ih hnext
    · rw [hrun]
      exact .stopped rfl hnext hrefuses

end Build

end SchemaLang
