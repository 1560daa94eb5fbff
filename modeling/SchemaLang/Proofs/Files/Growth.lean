import Mathlib.Data.List.TakeWhile
import SchemaLang.Files.Tree
import SchemaLang.Proofs.ForStd.Except

/-!
# What changes of a file tree keep

Making a directory and writing a file put something at one place and leave all others alone. They
take nothing away: a directory stays one, and where something stood something still stands. So a
path that could be walked leads to the same place afterwards, and the path that was worked on leads
to what has been put there.

## Key results

- `Grows`: a tree to which things have been added, with `Grows.locate_eq_ok`
- `exists_place_of_makeDirectory`: what making a directory does to a tree
- `exists_place_of_write`: what writing a file does to it
-/

namespace SchemaLang

namespace Text

variable {sep : Char} {s : List Char}

/-- A text has a first stretch. -/
theorem exists_splitAt_eq_cons (sep : Char) (s : List Char) :
    ∃ first others, splitAt sep s = first :: others := by
  induction s with
  | nil => exact ⟨[], [], rfl⟩
  | cons c rest ih =>
    obtain ⟨first, others, hrest⟩ := ih
    rw [splitAt, hrest]
    split
    · exact ⟨_, _, rfl⟩
    · exact ⟨_, _, rfl⟩

/-- The last stretch is empty only if the text is, or if it ends with a separator. -/
theorem eq_nil_or_getLast?_of_splitAt (h : (splitAt sep s).getLast? = some []) :
    s = [] ∨ s.getLast? = some sep := by
  induction s with
  | nil => exact .inl rfl
  | cons c rest ih =>
    obtain ⟨first, others, hrest⟩ := exists_splitAt_eq_cons sep rest
    rw [splitAt, hrest] at h
    rw [hrest] at ih
    right
    split at h
    · next heq =>
      subst heq
      -- The stretch in front of the separator has nothing to do with the last one.
      rcases ih (by rwa [List.getLast?_cons_cons] at h) with rfl | hlast
      · rfl
      · rw [List.getLast?_cons, hlast]
        rfl
    · rw [List.modifyHead_cons] at h
      cases others with
      | nil => simp at h
      | cons second others' =>
        rcases ih (by rwa [List.getLast?_cons_cons] at h ⊢) with rfl | hlast
        · cases hrest
        · rw [List.getLast?_cons, hlast]
          rfl

end Text

namespace FileTree

variable {t u v : FileTree} {place reached : Location} {names : List String} {path : String}

/-! ## Walking -/

/-- A walk goes from directories to what is there. -/
theorem walk_cons_eq_ok_iff {name : String} :
    t.walk place (name :: names) = .ok reached ↔
      t.entryAt? place = some .directory ∧ ∃ next, step place name = .ok next ∧
        (t.entryAt? next).isSome = true ∧ t.walk next names = .ok reached := by
  rw [walk]
  cases hentry : t.entryAt? place with
  | none => simp
  | some entry =>
    cases entry with
    | file bytes => simp
    | directory =>
      cases hstep : step place name with
      | error fault => simp [bind, Except.bind]
      | ok next => cases hnext : t.entryAt? next <;> simp [bind, Except.bind, hnext]

/-- A long walk goes on where a shorter one ends. -/
theorem walk_append_eq_ok_iff {names' : List String} :
    t.walk place (names ++ names') = .ok reached ↔
      ∃ middle, t.walk place names = .ok middle ∧ t.walk middle names' = .ok reached := by
  induction names generalizing place with
  | nil => simp [walk]
  | cons name rest ih =>
    simp only [List.cons_append, walk_cons_eq_ok_iff, ih]
    grind

/-- A walk to a directory is a walk that ends at one. -/
theorem of_walkToDirectory_eq_ok (h : t.walkToDirectory place names = .ok reached) :
    t.walk place names = .ok reached ∧ t.entryAt? reached = some .directory := by
  obtain ⟨middle, hwalk, hend⟩ := walk_append_eq_ok_iff.mp h
  obtain ⟨hdirectory, next, hstep, -, hnext⟩ := walk_cons_eq_ok_iff.mp hend
  cases hstep
  cases hnext
  exact ⟨hwalk, hdirectory⟩

/-- Empty names lead nowhere else. -/
theorem walk_eq_ok_of_void (hdirectory : t.entryAt? place = some .directory)
    (hvoid : ∀ name ∈ names, name = "") : t.walk place names = .ok place := by
  induction names with
  | nil => rfl
  | cons name rest ih =>
    obtain rfl := hvoid name List.mem_cons_self
    exact walk_cons_eq_ok_iff.mpr ⟨hdirectory, place, rfl, by rw [hdirectory]; rfl,
      ih fun other hother => hvoid other (List.mem_cons_of_mem _ hother)⟩

/-! ## Growth -/

/-- The tree `u` is what has become of `t` when things were added: nothing has been taken away, and
    directories have stayed directories. -/
structure Grows (t u : FileTree) : Prop where
  start : u.start = t.start
  directories : ∀ place, t.entryAt? place = some .directory → u.entryAt? place = some .directory
  present : ∀ place, (t.entryAt? place).isSome = true → (u.entryAt? place).isSome = true

namespace Grows

theorem refl (t : FileTree) : t.Grows t := ⟨rfl, fun _ => id, fun _ => id⟩

theorem trans (h : t.Grows u) (h' : u.Grows v) : t.Grows v :=
  ⟨h'.start.trans h.start, fun place hplace => h'.directories place (h.directories place hplace),
    fun place hplace => h'.present place (h.present place hplace)⟩

/-- What can be walked can still be walked. -/
theorem walk_eq_ok (h : t.Grows u) (hwalk : t.walk place names = .ok reached) :
    u.walk place names = .ok reached := by
  induction names generalizing place with
  | nil => exact hwalk
  | cons name rest ih =>
    obtain ⟨hdirectory, next, hstep, hnext, hrest⟩ := walk_cons_eq_ok_iff.mp hwalk
    exact walk_cons_eq_ok_iff.mpr
      ⟨h.directories place hdirectory, next, hstep, h.present next hnext, ih hrest⟩

/-- What a path led to it still leads to. -/
theorem locate_eq_ok (h : t.Grows u) (hlocate : t.locate path = .ok place) :
    u.locate path = .ok place := by
  obtain ⟨⟨⟩, hcheck, hwalk⟩ := Except.bind_eq_ok_iff.mp hlocate
  have hstart : u.startOf path = t.startOf path := by rw [startOf, startOf, h.start]
  refine Except.bind_eq_ok_iff.mpr ⟨(), hcheck, ?_⟩
  rw [hstart]
  exact h.walk_eq_ok hwalk

end Grows

/-- A tree grows where something is put that takes no directory's place. -/
theorem grows_put {entry : FileEntry} (hplace : place ≠ [])
    (h : t.entryAt? place = some .directory → entry = .directory) :
    t.Grows (t.put place entry) where
  start := rfl
  directories other hother := by
    rw [entryAt?_put t hplace]
    split
    · next heq => rw [h (heq ▸ hother)]
    · exact hother
  present other hother := by
    rw [entryAt?_put t hplace]
    split
    · rfl
    · exact hother

/-! ## What is put where a path leads to -/

/-- The names of a path end with the last one that is not empty. -/
theorem exists_void_of_reversedNames {last : String} {above : List String}
    (h : reversedNames path = last :: above) :
    last ≠ "" ∧ ∃ void, (∀ name ∈ void, name = "") ∧
      Path.names path = above.reverse ++ last :: void := by
  have hlast : last ≠ "" := by
    have hhead := List.head?_dropWhile_not (fun name : String => decide (name = ""))
      (Path.names path).reverse
    rw [← reversedNames, h] at hhead
    simpa using hhead
  refine ⟨hlast, ((Path.names path).reverse.takeWhile (· = "")).reverse, fun name hname => ?_, ?_⟩
  · simpa using List.mem_takeWhile_imp (List.mem_reverse.mp hname)
  · rw [← List.reverse_inj, List.reverse_append, List.reverse_cons, List.reverse_reverse,
      List.reverse_reverse, List.append_assoc, List.singleton_append, ← h, reversedNames,
      List.takeWhile_append_dropWhile]

/-- A path that does not end with a slash has no empty name at its end. -/
theorem names_eq_of_reversedNames {last : String} {above : List String}
    (h : reversedNames path = last :: above) (hempty : path ≠ "")
    (hslash : path.toList.getLast? ≠ some '/') : Path.names path = above.reverse ++ [last] := by
  obtain ⟨-, void, hvoid, hpath⟩ := exists_void_of_reversedNames h
  rw [hpath]
  -- If there were one, the path would end with the slash in front of it.
  rcases List.eq_nil_or_concat void with rfl | ⟨front, name, rfl⟩
  · rfl
  · obtain rfl := hvoid name (by simp)
    have hlast : (Text.splitAt '/' path.toList).getLast? = some [] := by
      have hend := congrArg List.getLast? hpath
      rw [Path.names, List.getLast?_map, List.concat_eq_append, ← List.cons_append,
        ← List.append_assoc, List.getLast?_concat, Option.map_eq_some_iff] at hend
      obtain ⟨stretch, hstretch, hvoid⟩ := hend
      rw [hstretch, String.ofList_eq_empty_iff.mp hvoid]
    rcases Text.eq_nil_or_getLast?_of_splitAt hlast with hnil | hend
    · exact absurd (String.toList_eq_nil_iff.mp hnil) hempty
    · exact absurd hend hslash

/-- A proper name leads one step down. -/
theorem eq_concat_of_step_eq_ok {name : String} {next : Location} (h : step place name = .ok next)
    (hempty : name ≠ "") (hdots : ¬ (name = "." ∨ name = "..")) : next = place ++ [name] := by
  obtain ⟨hdot, hdotdot⟩ := not_or.mp hdots
  simp only [step, hempty, hdot, hdotdot, or_self, if_false] at h
  split at h
  · cases h
  · exact (Except.ok.inj h).symm

/-- A path leads to what has been put there. Behind a file it cannot go on. -/
theorem locate_put {directory : Location} {entry : FileEntry} {last : String} {void : List String}
    (hcheck : checkPath path = .ok ()) (hpath : Path.names path = names ++ last :: void)
    (hwalk : t.walkToDirectory (t.startOf path) names = .ok directory)
    (hstep : step directory last = .ok place) (hplace : place ≠ [])
    (hfree : t.entryAt? place = some .directory → entry = .directory)
    (hvoid : ∀ name ∈ void, name = "") (hend : entry = .directory ∨ void = []) :
    (t.put place entry).locate path = .ok place := by
  obtain ⟨hwalk, hdirectory⟩ := of_walkToDirectory_eq_ok hwalk
  have hgrows : t.Grows (t.put place entry) := grows_put hplace hfree
  have hput : (t.put place entry).entryAt? place = some entry := by
    rw [entryAt?_put t hplace, if_pos rfl]
  refine Except.bind_eq_ok_iff.mpr ⟨(), hcheck, ?_⟩
  rw [hpath, walk_append_eq_ok_iff]
  refine ⟨directory, hgrows.walk_eq_ok hwalk, walk_cons_eq_ok_iff.mpr
    ⟨hgrows.directories _ hdirectory, place, hstep, by rw [hput]; rfl, ?_⟩⟩
  rcases hend with rfl | rfl
  · exact walk_eq_ok_of_void hput hvoid
  · rfl

/-- A directory is made where nothing stood, and the path leads to it. -/
theorem exists_place_of_makeDirectory (h : t.makeDirectory path = .ok u) :
    ∃ place, place ≠ [] ∧ t.entryAt? place = none ∧ u = t.put place .directory ∧
      u.locate path = .ok place := by
  obtain ⟨⟨⟩, hcheck, h⟩ := Except.bind_eq_ok_iff.mp h
  cases hnames : reversedNames path with
  | nil =>
    rw [hnames] at h
    cases h
  | cons last above =>
    simp only [hnames] at h
    obtain ⟨directory, hwalk, h⟩ := Except.bind_eq_ok_iff.mp h
    obtain ⟨hlast, void, hvoid, hpath⟩ := exists_void_of_reversedNames hnames
    split at h
    · cases h
    · next hdots =>
      obtain ⟨place, hstep, h⟩ := Except.bind_eq_ok_iff.mp h
      split at h
      · cases h
      · next hfree =>
        cases h
        have hplace : place ≠ [] := by simp [eq_concat_of_step_eq_ok hstep hlast hdots]
        exact ⟨place, hplace, by simpa using hfree, rfl,
          locate_put hcheck hpath hwalk hstep hplace (fun _ => rfl) hvoid (.inl rfl)⟩

/-- A file is written where no directory stood, and the path leads to it. -/
theorem exists_place_of_write {bytes : ByteArray} (h : t.write path bytes = .ok u) :
    ∃ place, place ≠ [] ∧ t.entryAt? place ≠ some .directory ∧ u = t.put place (.file bytes) ∧
      u.locate path = .ok place := by
  obtain ⟨⟨⟩, hcheck, h⟩ := Except.bind_eq_ok_iff.mp h
  cases hnames : reversedNames path with
  | nil =>
    rw [hnames] at h
    cases h
  | cons last above =>
    simp only [hnames] at h
    obtain ⟨directory, hwalk, h⟩ := Except.bind_eq_ok_iff.mp h
    obtain ⟨hlast, -⟩ := exists_void_of_reversedNames hnames
    split at h
    · cases h
    · next hproper =>
      obtain ⟨hdot, hdotdot, hslash⟩ : last ≠ "." ∧ last ≠ ".." ∧
          path.toList.getLast? ≠ some '/' := by
        simpa only [not_or] using hproper
      obtain ⟨place, hstep, h⟩ := Except.bind_eq_ok_iff.mp h
      split at h
      · cases h
      · next hfree =>
        cases h
        have hempty : path ≠ "" := by
          rintro rfl
          cases hcheck
        have hplace : place ≠ [] := by
          simp [eq_concat_of_step_eq_ok hstep hlast (not_or.mpr ⟨hdot, hdotdot⟩)]
        exact ⟨place, hplace, hfree, rfl,
          locate_put hcheck (names_eq_of_reversedNames hnames hempty hslash) hwalk hstep hplace
            (fun hdirectory => absurd hdirectory hfree) nofun (.inr rfl)⟩

end FileTree

end SchemaLang
