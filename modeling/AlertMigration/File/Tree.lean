import AlertMigration.Text.Basic

/-!
File paths and the directory tree that they lead through.

A path is an anchor, which is empty for a path relative to the working directory, and the names on the
way. Repeated slashes, a trailing slash and single dots carry no meaning and are dropped; double dots are
kept, since only a tree can tell where they lead.

A location is the list of names that leads from the root directory to an entry, and a tree is a finite map
from locations to entries together with a working directory. Every tree is one that a disk can hold: no
location is listed twice, every entry lies in a directory, and the working directory is one. Paths are
resolved name by name, from the root or from the working directory, so that double dots and missing
directories behave as on a disk; names and whole paths can be too long for it.
-/

namespace AlertMigration.File

structure Path where
  /-- Nothing, one slash or exactly two. -/
  anchor : Text
  parts : List Text
deriving DecidableEq, Repr

namespace Path

def anchorOf : Text → Text
  | '/' :: '/' :: '/' :: _ => ['/']
  | '/' :: '/' :: _ => ['/', '/']
  | '/' :: _ => ['/']
  | _ => []

def namesOf (text : Text) : List Text :=
  (text.splitOn '/').filter fun name => !name.isEmpty && name != ['.']

def ofText (text : Text) : Path :=
  ⟨anchorOf text, namesOf text⟩

def toText (path : Path) : Text :=
  match path.anchor ++ ['/'].intercalate path.parts with
  | [] => ['.']
  | text => text

def render (path : Path) : String :=
  String.ofList path.toText

def current : Path :=
  ⟨[], []⟩

def precedes (path other : Path) : Bool :=
  !other.parts.lex path.parts fun left right => left.lex right fun c d => c.toNat < d.toNat

def name (path : Path) : Text :=
  path.parts.getLast?.getD []

/-- From the last dot of a name, unless that dot is its first or its last character. -/
def suffixOf (name : Text) : Text :=
  let extension := (name.reverse.takeWhile (· != '.')).reverse
  match name.reverse.dropWhile (· != '.') with
  | _ :: stem => if stem.isEmpty || extension.isEmpty then [] else '.' :: extension
  | [] => []

def suffix (path : Path) : Text :=
  suffixOf path.name

def withEnding (path : Path) (ending : Text) : Path :=
  { path with parts := path.parts.dropLast ++ [path.name ++ ending] }

def backup (path : Path) : Path :=
  path.withEnding ".bak".toList

def temporary (path : Path) : Path :=
  path.withEnding ".tmp".toList

def descend (path : Path) (names : List Text) : Path :=
  { path with parts := path.parts ++ names }

end Path

/-! ### Entries -/

abbrev Location := List Text

def Location.parentName : Text :=
  ['.', '.']

inductive Entry where
  | file (content : ByteArray)
  | directory

instance : DecidableEq Entry
  | .file content, .file other =>
      match ByteArray.instDecidableEq content other with
      | isTrue same => isTrue (congrArg Entry.file same)
      | isFalse different => isFalse fun same => different (Entry.file.inj same)
  | .directory, .directory => isTrue rfl
  | .file _, .directory | .directory, .file _ => isFalse nofun

inductive Error where
  | notFound
  | notDirectory
  | isDirectory
  /-- A name has more than 255 bytes, or a path more than 4095. -/
  | nameTooLong
  | nulCharacter
  | notText
  | renameRefused
deriving DecidableEq, Repr

def Error.message : Error → String
  | .notFound => "no such file or directory"
  | .notDirectory => "not a directory"
  | .isDirectory => "is a directory"
  | .nameTooLong => "file name too long"
  | .nulCharacter => "embedded null byte"
  | .notText => "invalid UTF-8"
  | .renameRefused => "rename refused"

/-- Where a name or a path that is too long is an error. Elsewhere it leads to nothing. -/
structure Strictness where
  walking : Bool
  testing : Bool
deriving DecidableEq, Repr

def Strictness.all : Strictness :=
  ⟨true, true⟩

def tolerate {α : Type} (strict : Bool) (nothing : α) (looked : Except Error α) : Except Error α :=
  match looked with
  | .error error => if strict then .error error else .ok nothing
  | .ok found => .ok found

def nameLimit : Nat :=
  255

def pathLimit : Nat :=
  4095

def byteLength (text : Text) : Nat :=
  (String.ofList text).utf8ByteSize

def isEntryName (name : Text) : Bool :=
  name != Location.parentName && !name.contains '\x00' && decide (byteLength name ≤ nameLimit)

/-- The root directory is always there and is not listed. -/
def entryAt (entries : List (Location × Entry)) (location : Location) : Option Entry :=
  if location.isEmpty then some .directory else entries.lookup location

theorem entryAt_of_ne_nil {location : Location} (present : location ≠ [])
    (entries : List (Location × Entry)) : entryAt entries location = entries.lookup location := by
  rw [entryAt, if_neg (by rwa [List.isEmpty_iff])]

theorem mem_of_lookup_eq_some {entries : List (Location × Entry)} {location : Location} {entry : Entry}
    (found : entries.lookup location = some entry) : (location, entry) ∈ entries := by
  induction entries with
  | nil => cases found
  | cons first rest ih =>
      rw [List.lookup_cons] at found
      split at found
      · rename_i same
        cases found
        rw [eq_of_beq same]
        exact List.mem_cons_self
      · exact List.mem_cons_of_mem _ (ih found)

theorem ne_nil_of_entryAt {entries : List (Location × Entry)} {location : Location}
    (free : entryAt entries location ≠ some .directory) : location ≠ [] := by
  rintro rfl
  exact free rfl

theorem lookup_filter (keeps : Location → Bool) {location : Location} (kept : keeps location = true)
    (entries : List (Location × Entry)) :
    (entries.filter fun entry => keeps entry.1).lookup location = entries.lookup location := by
  induction entries with
  | nil => rfl
  | cons entry rest ih =>
      rw [List.filter_cons]
      split
      · rw [List.lookup_cons, List.lookup_cons, ih]
      · rename_i here
        have missed : (location == entry.1) = false := by
          apply beq_false_of_ne
          rintro rfl
          exact here kept
        rw [ih, List.lookup_cons, missed]

theorem entryAt_filter (keeps : Location → Bool) {location : Location} (kept : keeps location = true)
    (entries : List (Location × Entry)) :
    entryAt (entries.filter fun entry => keeps entry.1) location = entryAt entries location := by
  rw [entryAt, entryAt, lookup_filter keeps kept]

/-! ### Trees -/

structure Tree where
  entries : List (Location × Entry)
  workingDirectory : Location
  distinct : (entries.map Prod.fst).Nodup
  named : ∀ entry ∈ entries, entry.1 ≠ [] ∧ entry.1.all isEntryName = true
  housed : ∀ entry ∈ entries, entryAt entries entry.1.dropLast = some .directory
  home : entryAt entries workingDirectory = some .directory

namespace Tree

def lookup (tree : Tree) (location : Location) : Option Entry :=
  entryAt tree.entries location

def root : Tree where
  entries := []
  workingDirectory := []
  distinct := List.nodup_nil
  named := fun _ member => nomatch member
  housed := fun _ member => nomatch member
  home := rfl

section Lookup

variable {tree : Tree} {location : Location} {entry : Entry}

theorem mem_entries_of_lookup (present : location ≠ []) (found : tree.lookup location = some entry) :
    (location, entry) ∈ tree.entries := by
  rw [lookup, entryAt_of_ne_nil present] at found
  exact mem_of_lookup_eq_some found

/-- Whatever is there lies in a directory, the root directory in itself. -/
theorem lookup_dropLast (found : tree.lookup location = some entry) :
    tree.lookup location.dropLast = some .directory := by
  by_cases present : location = []
  · rw [present]
    rfl
  · exact tree.housed _ (mem_entries_of_lookup present found)

theorem all_isEntryName (found : tree.lookup location = some entry) : location.all isEntryName = true := by
  by_cases present : location = []
  · rw [present]
    rfl
  · exact (tree.named _ (mem_entries_of_lookup present found)).2

end Lookup

/-! ### Edits -/

structure Fits (tree : Tree) (location : Location) : Prop where
  named : location.all isEntryName = true
  housed : tree.lookup location.dropLast = some .directory
  free : tree.lookup location ≠ some .directory

instance (tree : Tree) (location : Location) : Decidable (tree.Fits location) :=
  decidable_of_iff
    (location.all isEntryName = true ∧ tree.lookup location.dropLast = some .directory ∧
      tree.lookup location ≠ some .directory)
    ⟨fun ⟨named, housed, free⟩ => ⟨named, housed, free⟩, fun fits => ⟨fits.named, fits.housed, fits.free⟩⟩

def restrict (tree : Tree) (keeps : Location → Bool)
    (upward : ∀ entry ∈ tree.entries, keeps entry.1 = true → keeps entry.1.dropLast = true)
    (home : keeps tree.workingDirectory = true) : Tree where
  entries := tree.entries.filter fun entry => keeps entry.1
  workingDirectory := tree.workingDirectory
  distinct := tree.distinct.sublist (List.filter_sublist.map _)
  named := fun entry member => tree.named entry (List.mem_filter.mp member).1
  housed := by
    intro entry member
    obtain ⟨listed, kept⟩ := List.mem_filter.mp member
    rw [entryAt_filter keeps (upward entry listed kept)]
    exact tree.housed entry listed
  home := by
    rw [entryAt_filter keeps home]
    exact tree.home

theorem bne_of_free {tree : Tree} {location directory : Location}
    (free : tree.lookup location ≠ some .directory) (found : tree.lookup directory = some .directory) :
    (directory != location) = true := by
  apply bne_iff_ne.mpr
  rintro rfl
  exact free found

def erase (tree : Tree) (location : Location) (free : tree.lookup location ≠ some .directory) : Tree :=
  tree.restrict (· != location) (fun entry listed _ => bne_of_free free (tree.housed entry listed))
    (bne_of_free free tree.home)

theorem lookup_erase (tree : Tree) (location : Location) (free : tree.lookup location ≠ some .directory)
    (other : Location) :
    (tree.erase location free).lookup other = if other = location then none else tree.lookup other := by
  split
  · rename_i same
    rw [lookup, same, entryAt_of_ne_nil (ne_nil_of_entryAt free), List.lookup_eq_none_iff]
    intro entry member
    rw [bne_comm]
    exact (List.mem_filter.mp member).2
  · rename_i different
    exact entryAt_filter (· != location) (bne_iff_ne.mpr different) tree.entries

theorem entryAt_insert {location : Location} (present : location ≠ []) (entry : Entry) (tree : Tree)
    (other : Location) :
    entryAt ((location, entry) :: tree.entries.filter (·.1 != location)) other =
      if other = location then some entry else tree.lookup other := by
  split
  · rename_i same
    rw [same, entryAt_of_ne_nil present, List.lookup_cons_self]
  · rename_i different
    have missed : (other == location) = false := beq_false_of_ne different
    rw [lookup, entryAt, List.lookup_cons, missed]
    exact entryAt_filter (· != location) (bne_iff_ne.mpr different) tree.entries

theorem Fits.entryAt_insert_directory {tree : Tree} {location directory : Location}
    (fits : tree.Fits location) (entry : Entry) (found : tree.lookup directory = some .directory) :
    entryAt ((location, entry) :: tree.entries.filter (·.1 != location)) directory = some .directory := by
  rw [entryAt_insert (ne_nil_of_entryAt fits.free), if_neg (bne_iff_ne.mp (bne_of_free fits.free found)),
    found]

def insert (tree : Tree) (location : Location) (entry : Entry) (fits : tree.Fits location) : Tree where
  entries := (location, entry) :: tree.entries.filter (·.1 != location)
  workingDirectory := tree.workingDirectory
  distinct := by
    rw [List.map_cons, List.nodup_cons]
    refine ⟨?_, tree.distinct.sublist (List.filter_sublist.map _)⟩
    intro member
    obtain ⟨other, kept, same⟩ := List.mem_map.mp member
    exact bne_iff_ne.mp (List.mem_filter.mp kept).2 same
  named := by
    intro other member
    rcases List.mem_cons.mp member with rfl | kept
    · exact ⟨ne_nil_of_entryAt fits.free, fits.named⟩
    · exact tree.named other (List.mem_filter.mp kept).1
  housed := by
    intro other member
    apply fits.entryAt_insert_directory
    rcases List.mem_cons.mp member with rfl | kept
    · exact fits.housed
    · exact tree.housed other (List.mem_filter.mp kept).1
  home := fits.entryAt_insert_directory entry tree.home

theorem lookup_insert (tree : Tree) (location : Location) (entry : Entry) (fits : tree.Fits location)
    (other : Location) :
    (tree.insert location entry fits).lookup other =
      if other = location then some entry else tree.lookup other :=
  entryAt_insert (ne_nil_of_entryAt fits.free) entry tree other

theorem Fits.erase {tree : Tree} {location other : Location} (fits : tree.Fits location)
    (free : tree.lookup other ≠ some .directory) : (tree.erase other free).Fits location where
  named := fits.named
  housed := by
    rw [lookup_erase, if_neg (bne_iff_ne.mp (bne_of_free free fits.housed))]
    exact fits.housed
  free := by
    rw [lookup_erase]
    split
    · exact nofun
    · exact fits.free

/-! ### Resolving paths -/

def checkLength (path : Path) : Except Error Unit :=
  if pathLimit < byteLength path.toText then .error .nameTooLong else .ok ()

/-- Above the root directory lies the root directory itself. -/
def follow (here : Location) (name : Text) : Except Error Location :=
  if name == Location.parentName then .ok here.dropLast
  else if nameLimit < byteLength name then .error .nameTooLong
  else .ok (here ++ [name])

/-- The location that a list of names leads to from a directory. The last name need not exist; all
before it have to be directories. -/
def resolveFrom (tree : Tree) (here : Location) : List Text → Except Error Location
  | [] => .ok here
  | name :: rest =>
      match tree.lookup here with
      | none => .error .notFound
      | some (.file _) => .error .notDirectory
      | some .directory =>
          match follow here name with
          | .error error => .error error
          | .ok next => resolveFrom tree next rest

def origin (tree : Tree) (path : Path) : Location :=
  if path.anchor.isEmpty then tree.workingDirectory else []

def resolve (tree : Tree) (path : Path) : Except Error Location :=
  if path.parts.any (·.contains '\x00') then .error .nulCharacter
  else
    match checkLength path with
    | .error error => .error error
    | .ok () => tree.resolveFrom (tree.origin path) path.parts

theorem lookup_origin (tree : Tree) (path : Path) : tree.lookup (tree.origin path) = some .directory := by
  unfold origin
  split
  · exact tree.home
  · rfl

theorem follow_cases {here next : Location} {name : Text} (followed : follow here name = .ok next) :
    name = Location.parentName ∧ next = here.dropLast ∨
      name ≠ Location.parentName ∧ byteLength name ≤ nameLimit ∧ next = here ++ [name] := by
  unfold follow at followed
  split at followed
  · rename_i upward
    cases followed
    exact Or.inl ⟨beq_iff_eq.mp upward, rfl⟩
  · rename_i downward
    split at followed
    · cases followed
    · rename_i short
      cases followed
      exact Or.inr ⟨fun same => downward (beq_iff_eq.mpr same), Nat.le_of_not_lt short, rfl⟩

theorem resolveFrom_cons_eq_ok_iff {tree : Tree} {here there : Location} {name : Text} {rest : List Text} :
    tree.resolveFrom here (name :: rest) = .ok there ↔
      tree.lookup here = some .directory ∧
        ∃ next, follow here name = .ok next ∧ tree.resolveFrom next rest = .ok there := by
  rw [resolveFrom]
  constructor
  · intro resolved
    split at resolved
    · cases resolved
    · cases resolved
    · rename_i directory
      split at resolved
      · cases resolved
      · rename_i next followed
        exact ⟨directory, next, followed, resolved⟩
  · rintro ⟨directory, next, followed, resolved⟩
    simp only [directory, followed]
    exact resolved

theorem resolve_eq_ok_iff {tree : Tree} {path : Path} {place : Location} :
    tree.resolve path = .ok place ↔
      (path.parts.any fun name => name.contains '\x00') = false ∧ checkLength path = .ok () ∧
        tree.resolveFrom (tree.origin path) path.parts = .ok place := by
  rw [resolve]
  by_cases textual : (path.parts.any fun name => name.contains '\x00') = true
  · rw [if_pos textual, textual]
    simp
  · rw [if_neg textual, and_iff_right (Bool.eq_false_iff.mpr textual)]
    cases checkLength path with
    | error error => simp
    | ok _ => simp

/-- A location at which something is or can be. -/
def Seated (tree : Tree) (location : Location) : Prop :=
  tree.lookup location = some .directory ∨ tree.Fits location

theorem Seated.follow {tree : Tree} {here next : Location} {name : Text}
    (directory : tree.lookup here = some .directory) (textual : name.contains '\x00' = false)
    (followed : Tree.follow here name = .ok next) : tree.Seated next := by
  rcases follow_cases followed with ⟨_, rfl⟩ | ⟨downward, short, rfl⟩
  · exact Or.inl (lookup_dropLast directory)
  · by_cases occupied : tree.lookup (here ++ [name]) = some .directory
    · exact Or.inl occupied
    · refine Or.inr ⟨?_, by rwa [List.dropLast_concat], occupied⟩
      have fit : isEntryName name = true := by
        rw [isEntryName, textual, bne_iff_ne.mpr downward, decide_eq_true short]
        rfl
      rw [List.all_append, all_isEntryName directory, List.all_cons, fit]
      rfl

theorem Seated.resolveFrom {tree : Tree} {here place : Location} {names : List Text}
    (seated : tree.Seated here) (textual : names.any (·.contains '\x00') = false)
    (resolved : tree.resolveFrom here names = .ok place) : tree.Seated place := by
  induction names generalizing here with
  | nil =>
      cases resolved
      exact seated
  | cons name rest ih =>
      rw [List.any_cons, Bool.or_eq_false_iff] at textual
      obtain ⟨directory, next, followed, later⟩ := resolveFrom_cons_eq_ok_iff.mp resolved
      exact ih (.follow directory textual.1 followed) textual.2 later

theorem fits_of_resolve {tree : Tree} {path : Path} {place : Location}
    (resolved : tree.resolve path = .ok place) (free : tree.lookup place ≠ some .directory) :
    tree.Fits place := by
  obtain ⟨textual, _, led⟩ := resolve_eq_ok_iff.mp resolved
  exact (Seated.resolveFrom (Or.inl (tree.lookup_origin path)) textual led).resolve_left free

/-! ### Operations on paths -/

/-- The entry at a path, if there is one. A path that leads nowhere has none. -/
def entry? (tree : Tree) (strictness : Strictness) (path : Path) : Except Error (Option Entry) :=
  match tree.resolve path with
  | .ok location => .ok (tree.lookup location)
  | .error .nameTooLong => tolerate strictness.testing none (.error .nameTooLong)
  | .error _ => .ok none

def read (tree : Tree) (path : Path) : Except Error ByteArray :=
  match tree.resolve path with
  | .error error => .error error
  | .ok location =>
      match tree.lookup location with
      | none => .error .notFound
      | some .directory => .error .isDirectory
      | some (.file content) => .ok content

def write (tree : Tree) (path : Path) (content : ByteArray) : Except Error Tree :=
  match resolved : tree.resolve path with
  | .error error => .error error
  | .ok location =>
      if occupied : tree.lookup location = some .directory then .error .isDirectory
      else .ok (tree.insert location (.file content) (fits_of_resolve resolved occupied))

def discard (tree : Tree) (path : Path) : Except Error Tree :=
  match tree.resolve path with
  | .error .notFound => .ok tree
  | .error error => .error error
  | .ok location =>
      if tree.lookup location = none then .ok tree
      else if occupied : tree.lookup location = some .directory then .error .isDirectory
      else .ok (tree.erase location occupied)

def rename (tree : Tree) (source target : Path) : Except Error Tree :=
  match tree.resolve source with
  | .error error => .error error
  | .ok old =>
      match found : tree.lookup old with
      | none => .error .notFound
      | some .directory => .error .isDirectory
      | some (.file content) =>
          match resolved : tree.resolve target with
          | .error error => .error error
          | .ok new =>
              if occupied : tree.lookup new = some .directory then .error .isDirectory
              else
                have free : tree.lookup old ≠ some .directory := by
                  rw [found]
                  exact nofun
                .ok ((tree.erase old free).insert new (.file content)
                  ((fits_of_resolve resolved occupied).erase free))

/-! ### Building and comparing trees -/

/-- Makes a directory and those it lies in, as far as they can be made. -/
def makeDirectory (tree : Tree) (location : Location) : Tree :=
  (List.range location.length).foldl
    (fun tree depth =>
      let above := location.take (depth + 1)
      if new : tree.Fits above ∧ tree.lookup above = none then tree.insert above .directory new.1 else tree) tree

def putFile (tree : Tree) (location : Location) (content : ByteArray) : Tree :=
  let tree := tree.makeDirectory location.dropLast
  if fits : tree.Fits location then tree.insert location (.file content) fits else tree

theorem isPrefixOf_of_dropLast {front location : Location}
    (before : front.isPrefixOf location.dropLast = true) :
    front.isPrefixOf location = true :=
  List.isPrefixOf_iff_prefix.mpr
    ((List.isPrefixOf_iff_prefix.mp before).trans (List.dropLast_prefix location))

/-- Removes an entry with everything below it, unless the working directory is there. -/
def remove (tree : Tree) (location : Location) : Tree :=
  if inside : location.isPrefixOf tree.workingDirectory = true then tree
  else
    tree.restrict (fun below => !location.isPrefixOf below)
      (by
        intro entry _ kept
        rw [Bool.not_eq_true', Bool.eq_false_iff] at kept ⊢
        exact fun below => kept (isPrefixOf_of_dropLast below))
      (by rw [Bool.eq_false_iff.mpr inside]; rfl)

def workingIn (tree : Tree) (location : Location) : Tree :=
  if home : tree.lookup location = some .directory then
    { tree with workingDirectory := location, home := home }
  else
    tree

/-- The text of a location, relative to the working directory if that is above it. -/
def locationText (tree : Tree) (location : Location) : String :=
  match tree.workingDirectory.isPrefixOf? location with
  | some below => String.ofList (['/'].intercalate below)
  | none => String.ofList ('/' :: ['/'].intercalate location)

private def listing (tree : Tree) (entries : List (Location × Entry)) : List (String × Entry) :=
  (entries.map fun (location, entry) => (tree.locationText location, entry)).mergeSort
    fun left right => left.1 ≤ right.1

def changedSince (tree earlier : Tree) : List (String × Entry) :=
  tree.listing (tree.entries.filter fun (location, entry) => earlier.lookup location != some entry)

def removedSince (tree earlier : Tree) : List String :=
  (tree.listing (earlier.entries.filter fun (location, _) => (tree.lookup location).isNone)).map (·.1)

/-! ### Looking through directories -/

def children (tree : Tree) (directory : Location) : List Text :=
  tree.entries.filterMap fun (location, _) =>
    if location.dropLast == directory then location.getLast? else none

def directoriesBelow (tree : Tree) (directory : Location) : List Location :=
  [] :: tree.entries.filterMap fun (location, entry) =>
    if entry == .directory && location != directory then directory.isPrefixOf? location else none

end Tree

end AlertMigration.File
