import AlertMigration.File.Migration
import Mathlib.Data.List.Nodup

/-!
Looking things up in an edited tree.

An edit that leaves the directories alone changes no path's meaning (`resolve_of_sameDirectories`). A path
with an ending added to the name of a file leads, if anywhere, to a location beside the file, which the
location of the file tells (`resolve_withEnding`).
-/

namespace AlertMigration.File

namespace Tree

theorem lookup_of_mem {tree : Tree} {location : Location} {entry : Entry}
    (member : (location, entry) ∈ tree.entries) : tree.lookup location = some entry := by
  obtain ⟨before, after, split⟩ := List.append_of_mem member
  have distinct := tree.distinct
  rw [split, List.map_append, List.map_cons, List.nodup_middle, List.nodup_cons] at distinct
  rw [lookup, entryAt_of_ne_nil (tree.named _ member).1]
  refine List.lookup_eq_some_iff.mpr ⟨before, after, split, fun other earlier => bne_iff_ne.mpr ?_⟩
  rintro rfl
  exact distinct.1 (List.mem_append_left _ (List.mem_map.mpr ⟨other, earlier, rfl⟩))

theorem parentName_notMem {tree : Tree} {location : Location} (present : tree.lookup location ≠ none) :
    Location.parentName ∉ location := by
  obtain ⟨entry, found⟩ := Option.ne_none_iff_exists'.mp present
  intro upward
  have named := List.all_eq_true.mp (all_isEntryName found) _ upward
  rw [isEntryName, bne_self_eq_false] at named
  cases named

/-! ### Directories -/

/-- An edit has made no directory and removed none, and the working directory is the same. -/
structure SameDirectories (tree edited : Tree) : Prop where
  workingDirectory : edited.workingDirectory = tree.workingDirectory
  lookup_iff : ∀ location, edited.lookup location = some .directory ↔ tree.lookup location = some .directory

theorem SameDirectories.refl (tree : Tree) : SameDirectories tree tree :=
  ⟨rfl, fun _ => Iff.rfl⟩

theorem SameDirectories.symm {tree edited : Tree} (same : SameDirectories tree edited) :
    SameDirectories edited tree :=
  ⟨same.workingDirectory.symm, fun location => (same.lookup_iff location).symm⟩

theorem SameDirectories.trans {first second third : Tree} (early : SameDirectories first second)
    (late : SameDirectories second third) : SameDirectories first third :=
  ⟨late.workingDirectory.trans early.workingDirectory,
    fun location => (late.lookup_iff location).trans (early.lookup_iff location)⟩

theorem SameDirectories.origin {tree edited : Tree} (same : SameDirectories tree edited) (path : Path) :
    edited.origin path = tree.origin path := by
  rw [Tree.origin, Tree.origin, same.workingDirectory]

private theorem resolveFrom_of_sameDirectories {tree edited : Tree} (same : SameDirectories tree edited)
    {here there : Location} {names : List Text} (resolved : tree.resolveFrom here names = .ok there) :
    edited.resolveFrom here names = .ok there := by
  induction names generalizing here with
  | nil => exact resolved
  | cons name rest ih =>
      obtain ⟨directory, next, followed, later⟩ := resolveFrom_cons_eq_ok_iff.mp resolved
      exact resolveFrom_cons_eq_ok_iff.mpr ⟨(same.lookup_iff here).mpr directory, next, followed, ih later⟩

theorem resolve_of_sameDirectories {tree edited : Tree} (same : SameDirectories tree edited) {path : Path}
    {place : Location} (resolved : tree.resolve path = .ok place) : edited.resolve path = .ok place := by
  obtain ⟨textual, checked, led⟩ := resolve_eq_ok_iff.mp resolved
  refine resolve_eq_ok_iff.mpr ⟨textual, checked, ?_⟩
  rw [same.origin]
  exact resolveFrom_of_sameDirectories same led

theorem resolveFrom_append_eq_ok_iff {tree : Tree} {here place : Location} {front names : List Text} :
    tree.resolveFrom here (front ++ names) = .ok place ↔
      ∃ there, tree.resolveFrom here front = .ok there ∧ tree.resolveFrom there names = .ok place := by
  induction front generalizing here with
  | nil =>
      constructor
      · intro resolved
        exact ⟨here, rfl, resolved⟩
      · rintro ⟨there, reached, onward⟩
        cases reached
        exact onward
  | cons first front ih =>
      rw [List.cons_append, resolveFrom_cons_eq_ok_iff]
      constructor
      · rintro ⟨directory, next, followed, later⟩
        obtain ⟨there, reached, onward⟩ := ih.mp later
        exact ⟨there, resolveFrom_cons_eq_ok_iff.mpr ⟨directory, next, followed, reached⟩, onward⟩
      · rintro ⟨there, reached, onward⟩
        obtain ⟨directory, next, followed, later⟩ := resolveFrom_cons_eq_ok_iff.mp reached
        exact ⟨directory, next, followed, ih.mpr ⟨there, later, onward⟩⟩

theorem resolveFrom_snoc_eq_ok_iff {tree : Tree} {here place : Location} {front : List Text} {name : Text} :
    tree.resolveFrom here (front ++ [name]) = .ok place ↔
      ∃ there, tree.resolveFrom here front = .ok there ∧ tree.lookup there = some .directory ∧
        follow there name = .ok place := by
  rw [resolveFrom_append_eq_ok_iff]
  refine exists_congr fun there => and_congr_right fun _ => ?_
  rw [resolveFrom_cons_eq_ok_iff]
  refine and_congr_right fun _ => ⟨?_, fun followed => ⟨place, followed, rfl⟩⟩
  rintro ⟨next, followed, same⟩
  cases same
  exact followed

private theorem resolveFrom_snoc {tree : Tree} {here there : Location} {front : List Text}
    (reached : tree.resolveFrom here front = .ok there) (directory : tree.lookup there = some .directory)
    (name : Text) : tree.resolveFrom here (front ++ [name]) = follow there name := by
  induction front generalizing here with
  | nil =>
      cases reached
      rw [List.nil_append, resolveFrom, directory]
      cases follow there name with
      | error error => rfl
      | ok next => rfl
  | cons first front ih =>
      obtain ⟨passable, next, followed, later⟩ := resolveFrom_cons_eq_ok_iff.mp reached
      rw [List.cons_append, resolveFrom, passable]
      simp only [followed]
      exact ih later

/-! ### Files -/

structure FileAt (tree : Tree) (path : Path) (place : Location) (content : ByteArray) : Prop where
  resolved : tree.resolve path = .ok place
  found : tree.lookup place = some (.file content)

theorem read_eq_ok_iff {tree : Tree} {path : Path} {content : ByteArray} :
    tree.read path = .ok content ↔ ∃ place, FileAt tree path place content := by
  unfold read
  constructor
  · intro done
    split at done
    · cases done
    · rename_i place resolved
      split at done
      · cases done
      · cases done
      · rename_i found
        cases done
        exact ⟨place, resolved, found⟩
  · rintro ⟨place, resolved, found⟩
    rw [resolved]
    simp only [found]

section FileAt

variable {tree : Tree} {path : Path} {place : Location} {content : ByteArray}

theorem FileAt.not_directory (file : FileAt tree path place content) :
    tree.lookup place ≠ some .directory := by
  rw [file.found]
  exact fun same => by cases same

theorem FileAt.ne_nil (file : FileAt tree path place content) : place ≠ [] :=
  ne_nil_of_entryAt file.not_directory

theorem FileAt.split (file : FileAt tree path place content) :
    ∃ front name here, path.parts = front ++ [name] ∧ tree.resolveFrom (tree.origin path) front = .ok here ∧
      tree.lookup here = some .directory ∧ place = here ++ [name] := by
  obtain ⟨_, _, led⟩ := resolve_eq_ok_iff.mp file.resolved
  rcases List.eq_nil_or_concat path.parts with empty | ⟨front, name, parts⟩
  · rw [empty] at led
    cases led
    exact absurd (tree.lookup_origin path) file.not_directory
  · rw [List.concat_eq_append] at parts
    rw [parts] at led
    obtain ⟨here, reached, directory, followed⟩ := resolveFrom_snoc_eq_ok_iff.mp led
    refine ⟨front, name, here, parts, reached, directory, ?_⟩
    rcases follow_cases followed with ⟨_, rfl⟩ | ⟨_, _, same⟩
    · exact absurd (lookup_dropLast directory) file.not_directory
    · exact same

end FileAt

end Tree

/-! ### Locations beside a file -/

/-- The location with an ending added to its last name. -/
def Location.beside (place : Location) (ending : Text) : Location :=
  place.dropLast ++ [place.getLast?.getD [] ++ ending]

namespace Location

theorem beside_snoc (here : Location) (name ending : Text) :
    beside (here ++ [name]) ending = here ++ [name ++ ending] := by
  rw [beside, List.dropLast_concat, List.getLast?_concat, Option.getD_some]

theorem ne_parentName {name ending : Text} (long : 2 < ending.length) : name ++ ending ≠ parentName := by
  intro same
  have length : (name ++ ending).length = 2 := congrArg List.length same
  rw [List.length_append] at length
  omega

theorem beside_ne_self {place : Location} {ending : Text} (long : 2 < ending.length) :
    place.beside ending ≠ place := by
  intro same
  rcases List.eq_nil_or_concat place with empty | ⟨here, name, snoc⟩
  · rw [empty] at same
    cases same
  · rw [snoc, List.concat_eq_append, beside_snoc] at same
    have names := List.singleton_inj.mp (List.append_cancel_left same)
    have length := congrArg List.length names
    rw [List.length_append] at length
    omega

theorem beside_ne_beside {place other : Location} {ending different : Text}
    (length : ending.length = different.length) (unequal : ending ≠ different) :
    place.beside ending ≠ other.beside different := by
  intro same
  have names := List.singleton_inj.mp (List.append_inj_right' same rfl)
  exact unequal (List.append_inj_right' names length)

theorem beside_injective {place other : Location} {ending : Text} (present : place ≠ [])
    (otherPresent : other ≠ []) (same : place.beside ending = other.beside ending) : place = other := by
  have names := List.singleton_inj.mp (List.append_inj_right' same rfl)
  have last : place.getLast?.getD [] = other.getLast?.getD [] := List.append_cancel_right names
  rw [List.getLast?_eq_some_getLast present, List.getLast?_eq_some_getLast otherPresent, Option.getD_some,
    Option.getD_some] at last
  have front : place.dropLast = other.dropLast := List.append_inj_left' same rfl
  rw [← List.dropLast_concat_getLast present, ← List.dropLast_concat_getLast otherPresent, front, last]

end Location

theorem Path.parts_withEnding {path : Path} {front : List Text} {name : Text}
    (parts : path.parts = front ++ [name]) (ending : Text) :
    (path.withEnding ending).parts = front ++ [name ++ ending] := by
  simp only [withEnding, Path.name, parts, List.dropLast_concat, List.getLast?_concat, Option.getD_some]

namespace Tree

section FileAt

variable {tree : Tree} {path : Path} {place : Location} {content : ByteArray}

/-- Where a path beside a file leads depends on the location of the file alone. -/
theorem FileAt.resolve_withEnding_eq (file : FileAt tree path place content) (ending : Text) :
    tree.resolve (path.withEnding ending) =
      if (path.withEnding ending).parts.any (·.contains '\x00') then .error .nulCharacter
      else
        (checkLength (path.withEnding ending)).bind fun _ =>
          Tree.follow place.dropLast (place.getLast?.getD [] ++ ending) := by
  obtain ⟨front, name, here, parts, led, directory, rfl⟩ := file.split
  have reached : tree.resolveFrom (tree.origin (path.withEnding ending)) (path.withEnding ending).parts =
      Tree.follow here (name ++ ending) := by
    rw [Path.parts_withEnding parts]
    exact resolveFrom_snoc led directory _
  rw [resolve, reached, List.dropLast_concat, List.getLast?_concat, Option.getD_some]
  cases checkLength (path.withEnding ending) with
  | error error => rfl
  | ok _ => rfl

theorem FileAt.resolve_withEnding (file : FileAt tree path place content) {ending : Text}
    (long : 2 < ending.length) {other : Location}
    (resolved : tree.resolve (path.withEnding ending) = .ok other) : other = place.beside ending := by
  rw [file.resolve_withEnding_eq] at resolved
  split at resolved
  · cases resolved
  · cases checked : checkLength (path.withEnding ending) with
    | error error =>
        rw [checked] at resolved
        cases resolved
    | ok _ =>
        rw [checked] at resolved
        rcases follow_cases resolved with ⟨upward, _⟩ | ⟨_, _, same⟩
        · exact absurd upward (Location.ne_parentName long)
        · exact same

end FileAt

end Tree

end AlertMigration.File
