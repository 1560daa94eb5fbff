import SchemaLang.Files.Store
import SchemaLang.Proofs.Files.Growth

/-!
# Making directories

A directory is made with all that are missing above it: as long as one cannot be made because the
one above is missing, that one is made first. Whether this succeeds or not, a file tree gains
nothing but directories, each at one of the paths that were asked for. It fails only if the tree, as
it has been left, still refuses one of them.

## Key results

- `GainsDirectories`: a tree to which only directories have been added
- `ensures_ensureDirectories`: what making a directory with those above does to a tree
-/

namespace SchemaLang

namespace FileTree

variable {t u v : FileTree} {path : String} {asked asked' : List String}

/-- The tree `u` is `t` with directories that were missing there, each at one of the paths. -/
structure GainsDirectories (t : FileTree) (asked : List String) (u : FileTree) : Prop where
  grows : t.Grows u
  files : ∀ place bytes,
    u.entryAt? place = some (.file bytes) ↔ t.entryAt? place = some (.file bytes)
  made : ∀ place, u.entryAt? place = some .directory →
    t.entryAt? place = some .directory ∨ ∃ path ∈ asked, u.locate path = .ok place

namespace GainsDirectories

theorem refl (t : FileTree) (asked : List String) : t.GainsDirectories asked t :=
  ⟨.refl t, fun _ _ => .rfl, fun _ => .inl⟩

theorem trans (h : t.GainsDirectories asked u) (h' : u.GainsDirectories asked v) :
    t.GainsDirectories asked v where
  grows := h.grows.trans h'.grows
  files place bytes := (h'.files place bytes).trans (h.files place bytes)
  made place hplace := by
    rcases h'.made place hplace with hbefore | hnew
    · rcases h.made place hbefore with hbefore | ⟨path, hpath, hlocate⟩
      · exact .inl hbefore
      · exact .inr ⟨path, hpath, h'.grows.locate_eq_ok hlocate⟩
    · exact .inr hnew

theorem mono (h : t.GainsDirectories asked u) (hasked : asked ⊆ asked') :
    t.GainsDirectories asked' u where
  grows := h.grows
  files := h.files
  made place hplace :=
    (h.made place hplace).imp_right fun ⟨path, hpath, hlocate⟩ => ⟨path, hasked hpath, hlocate⟩

/-- Making a directory adds it. -/
theorem of_makeDirectory (h : t.makeDirectory path = .ok u) : t.GainsDirectories [path] u := by
  obtain ⟨place, hplace, hfree, rfl, hlocate⟩ := exists_place_of_makeDirectory h
  refine ⟨grows_put hplace fun _ => rfl, fun other bytes => ?_, fun other hother => ?_⟩
  · rw [entryAt?_put t hplace]
    split
    · next heq => simp [heq, hfree]
    · exact .rfl
  · rw [entryAt?_put t hplace] at hother
    split at hother
    · next heq => exact .inr ⟨path, List.mem_cons_self, heq ▸ hlocate⟩
    · exact .inl hother

end GainsDirectories

/-- How asking for directories can end, with the tree that it leaves behind. -/
inductive Ensures (t : FileTree) (asked : List String) :
    Except FileFault Unit × FileTree → Prop where
  | made {u : FileTree} (gains : t.GainsDirectories asked u) : Ensures t asked (.ok (), u)
  | refused {u : FileTree} {path : String} {fault : FileFault} (gains : t.GainsDirectories asked u)
      (isAsked : path ∈ asked) (refuses : u.makeDirectory path = .error fault)
      (missing : u.isDirectory path = false) : Ensures t asked (.error fault, u)

namespace Ensures

variable {outcome : Except FileFault Unit × FileTree}

/-- However it ends, nothing but directories has been gained. -/
theorem gains (h : t.Ensures asked outcome) : t.GainsDirectories asked outcome.2 := by
  cases h with
  | made gains => exact gains
  | refused gains => exact gains

/-- More directories may have been asked for, and gained before. -/
theorem after (h : u.Ensures asked' outcome) (hgains : t.GainsDirectories asked u)
    (hasked : asked' ⊆ asked) : t.Ensures asked outcome := by
  cases h with
  | made gains => exact .made (hgains.trans (gains.mono hasked))
  | refused gains isAsked refuses missing =>
    exact .refused (hgains.trans (gains.mono hasked)) (hasked isAsked) refuses missing

end Ensures

end FileTree

namespace FileStore

open FileTree

/-! ## Operations one after the other -/

/-- Two operations on a tree follow each other. -/
theorem bind_apply {α β : Type} (x : StateM FileTree α) (f : α → StateM FileTree β)
    (t : FileTree) : (x >>= f) t = f (x t).1 (x t).2 :=
  rfl

/-- Asking for one directory. -/
theorem ensureDirectory_apply (path : String) (t : FileTree) :
    (ensureDirectory path : StateM FileTree _) t =
      match t.makeDirectory path with
      | .ok u => (.ok (), u)
      | .error fault => (if t.isDirectory path then .ok () else .error fault, t) := by
  have hmake : (makeDirectory path : StateM FileTree _) t =
      match t.makeDirectory path with
      | .ok u => (.ok (), u)
      | .error fault => (.error fault, t) := rfl
  rw [ensureDirectory, bind_apply, hmake]
  cases t.makeDirectory path with
  | ok u => rfl
  | error fault => rfl

/-- Asking for the first of some directories: those behind it are asked for only if it is missing
    and cannot be made, and then it is asked for again. -/
theorem ensureFirst_cons_apply {path : String} (hpath : path ≠ "") (above : List String)
    (t : FileTree) :
    (ensureFirst (path :: above) : StateM FileTree _) t =
      match (ensureDirectory path : StateM FileTree _) t with
      | (.ok (), u) => (.ok (), u)
      | (.error .notFound, u) =>
        match (ensureFirst above : StateM FileTree _) u with
        | (.ok (), v) => (ensureDirectory path : StateM FileTree _) v
        | (.error fault, v) => (.error fault, v)
      | (.error fault, u) => (.error fault, u) := by
  rw [ensureFirst, if_neg hpath, bind_apply]
  rcases (ensureDirectory path : StateM FileTree _) t with ⟨fault | ⟨⟩, u⟩
  · cases fault
    case notFound =>
      show (ensureFirst above >>= _ : StateM FileTree _) u = _
      rw [bind_apply]
      simp only
      rcases (ensureFirst above : StateM FileTree _) u with ⟨fault | ⟨⟩, v⟩
      · rfl
      · rfl
    all_goals rfl
  · rfl

/-! ## What the tree gains -/

theorem ensures_ensureDirectory (path : String) (t : FileTree) :
    t.Ensures [path] ((ensureDirectory path : StateM FileTree _) t) := by
  rw [ensureDirectory_apply]
  cases hmake : t.makeDirectory path with
  | ok u => exact .made (.of_makeDirectory hmake)
  | error fault =>
    cases hdirectory : t.isDirectory path with
    | true => exact .made (.refl t _)
    | false => exact .refused (.refl t _) List.mem_cons_self hmake hdirectory

theorem ensures_ensureFirst (paths : List String) (t : FileTree) :
    t.Ensures paths ((ensureFirst paths : StateM FileTree _) t) := by
  induction paths generalizing t with
  | nil => exact .made (.refl t _)
  | cons path above ih =>
    by_cases hpath : path = ""
    · rw [ensureFirst, if_pos hpath]
      exact .made (.refl t _)
    · have hself : [path] ⊆ path :: above := by simp
      have hfirst := (ensures_ensureDirectory path t).after (.refl t _) hself
      rw [ensureFirst_cons_apply hpath]
      rcases hrun : (ensureDirectory path : StateM FileTree _) t with ⟨fault | ⟨⟩, u⟩ <;>
        rw [hrun] at hfirst
      · cases fault
        case notFound =>
          -- The directories above are made in between.
          have habove := (ih u).after hfirst.gains (List.subset_cons_self _ _)
          simp only
          rcases hrun' : (ensureFirst above : StateM FileTree _) u with ⟨fault | ⟨⟩, v⟩ <;>
            rw [hrun'] at habove
          · exact habove
          · exact (ensures_ensureDirectory path v).after habove.gains hself
        all_goals exact hfirst
      · exact hfirst

/-- Making a directory with those above adds directories at their paths, and nothing else. -/
theorem ensures_ensureDirectories (path : String) (t : FileTree) :
    t.Ensures (path :: Path.ancestors path) ((ensureDirectories path : StateM FileTree _) t) :=
  ensures_ensureFirst _ t

end FileStore

end SchemaLang
