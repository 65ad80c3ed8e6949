import AlertMigration.Proofs.WalkAgreement
import Mathlib.Data.List.Induction
import Mathlib.Data.List.TakeWhile

/-!
Which files are selected by their extension.

A file is selected on its own by its suffix, and in a walk through a directory by the end of its name. For simple
extensions the two differ on a name that is nothing but an extension, which has no suffix (`Simple.suffix_iff`).
A walk yields a file once for each place in the list at which its suffix or its name stands (`sources_selection`),
unless the path of its directory is too long to be opened, or that of another one is and the walk fails over it.
-/

namespace AlertMigration.File

/-! ### The suffix of a name -/

namespace Path

private theorem bne_dot_of_mem_reverse {text : Text} (dotless : '.' ∉ text) :
    ∀ c ∈ text.reverse, (c != '.') = true := by
  intro c member
  rw [bne_iff_ne]
  rintro rfl
  exact dotless (List.mem_reverse.mp member)

theorem suffixOf_append {stem : Text} (dotless : '.' ∉ stem) (front : Text) :
    suffixOf (front ++ '.' :: stem) = if front.isEmpty || stem.isEmpty then [] else '.' :: stem := by
  have others := bne_dot_of_mem_reverse dotless
  have reversed : (front ++ '.' :: stem).reverse = stem.reverse ++ '.' :: front.reverse := by simp
  have taken : (stem.reverse ++ '.' :: front.reverse).takeWhile (· != '.') = stem.reverse := by
    rw [List.takeWhile_append_of_pos others, List.takeWhile_cons_of_neg (by simp), List.append_nil]
  have dropped : (stem.reverse ++ '.' :: front.reverse).dropWhile (· != '.') = '.' :: front.reverse := by
    rw [List.dropWhile_append_of_pos others, List.dropWhile_cons_of_neg (by simp)]
  unfold suffixOf
  simp only [reversed, taken, dropped, List.isEmpty_reverse, List.reverse_reverse]

theorem suffixOf_of_dotless {name : Text} (dotless : '.' ∉ name) : suffixOf name = [] := by
  have dropped : name.reverse.dropWhile (· != '.') = [] :=
    List.dropWhile_eq_nil_iff.mpr (bne_dot_of_mem_reverse dotless)
  unfold suffixOf
  simp only [dropped]

theorem exists_last_dot {name : Text} (dot : '.' ∈ name) :
    ∃ front stem, name = front ++ '.' :: stem ∧ '.' ∉ stem := by
  obtain ⟨back, front, reversed, dotless⟩ := List.eq_append_cons_of_mem (List.mem_reverse.mpr dot)
  refine ⟨front.reverse, back.reverse, ?_, fun inside => dotless (List.mem_reverse.mp inside)⟩
  rw [← List.reverse_reverse name, reversed]
  simp

end Path

/-- A name ends in a simple extension if this is its suffix, or the whole of it. -/
theorem Simple.suffix_iff {extension : Text} (simple : Simple extension) (name : Text) :
    extension <:+ name ↔ extension = Path.suffixOf name ∨ extension = name := by
  obtain ⟨stem, rfl, present, plain⟩ := simple
  have dotless : '.' ∉ stem := fun inside => plain '.' inside List.mem_cons_self
  constructor
  · rintro ⟨front, rfl⟩
    rw [Path.suffixOf_append dotless]
    cases front with
    | nil => exact .inr rfl
    | cons c front => simp [present]
  · rintro (same | rfl)
    · by_cases dot : '.' ∈ name
      · obtain ⟨front, last, rfl, lastDotless⟩ := Path.exists_last_dot dot
        rw [Path.suffixOf_append lastDotless] at same
        split at same
        · cases same
        · rw [same]
          exact List.suffix_append _ _
      · rw [Path.suffixOf_of_dotless dot] at same
        cases same
    · exact List.suffix_rfl

namespace Tree

/-! ### A file below a directory -/

/-- A file below the directory that a path leads to, by the names that lead on from there. -/
structure FileBelow (tree : Tree) (root : Path) (here : Location) (names : List Text) : Prop where
  resolved : tree.resolve root = .ok here
  directory : tree.lookup here = some .directory
  regular : ∃ content, tree.lookup (here ++ names) = some (.file content)

private theorem checkLength_cases (path : Path) :
    checkLength path = .ok () ∨ checkLength path = .error .nameTooLong := by
  unfold checkLength
  split
  · exact .inr rfl
  · exact .inl rfl

private theorem follow_of_isEntryName {name : Text} (named : isEntryName name = true) (here : Location) :
    follow here name = .ok (here ++ [name]) := by
  rw [isEntryName, Bool.and_eq_true, Bool.and_eq_true, decide_eq_true_eq, bne_iff_ne] at named
  obtain ⟨⟨downward, _⟩, short⟩ := named
  rw [follow, if_neg (by simpa using downward), if_neg (Nat.not_lt.mpr short)]

private theorem lookup_front {tree : Tree} {here : Location} {names : List Text} {entry : Entry}
    (found : tree.lookup (here ++ names) = some entry) (present : names ≠ []) :
    tree.lookup here = some .directory := by
  induction names using List.reverseRecOn generalizing entry with
  | nil => exact absurd rfl present
  | append_singleton front name ih =>
      have above := lookup_dropLast found
      rw [← List.append_assoc, List.dropLast_concat] at above
      by_cases empty : front = []
      · rwa [empty, List.append_nil] at above
      · exact ih above empty

private theorem resolveFrom_of_lookup {tree : Tree} {here : Location} {names : List Text} {entry : Entry}
    (found : tree.lookup (here ++ names) = some entry) :
    tree.resolveFrom here names = .ok (here ++ names) := by
  have named := all_isEntryName found
  rw [List.all_append, Bool.and_eq_true] at named
  have fit := List.all_eq_true.mp named.2
  clear named
  induction names generalizing here with
  | nil => rw [resolveFrom, List.append_nil]
  | cons name rest ih =>
      obtain ⟨nameFits, restFits⟩ := List.forall_mem_cons.mp fit
      have directory := lookup_front found (List.cons_ne_nil _ _)
      rw [← List.singleton_append, ← List.append_assoc] at found ⊢
      exact resolveFrom_cons_eq_ok_iff.mpr
        ⟨directory, _, follow_of_isEntryName nameFits here, ih found restFits⟩

namespace FileBelow

variable {strictness : Strictness} {tree : Tree} {root : Path} {here : Location} {names : List Text}
  (below : FileBelow tree root here names)

include below

theorem exists_snoc : ∃ front name, names = front ++ [name] := by
  rcases List.eq_nil_or_concat names with empty | ⟨front, name, snoc⟩
  · obtain ⟨content, found⟩ := below.regular
    rw [empty, List.append_nil, below.directory] at found
    cases found
  · exact ⟨front, name, by rw [snoc, List.concat_eq_append]⟩

theorem textual : ((root.descend names).parts.any fun name => name.contains '\x00') = false := by
  obtain ⟨content, found⟩ := below.regular
  obtain ⟨rootTextual, _, _⟩ := resolve_eq_ok_iff.mp below.resolved
  rw [Path.descend, List.any_append, rootTextual, Bool.false_or, List.any_eq_false]
  intro name member
  have named := List.all_eq_true.mp (all_isEntryName found) name (List.mem_append_right here member)
  rw [isEntryName, Bool.and_eq_true, Bool.and_eq_true] at named
  simpa using named.1.2

/-! ### A file on its own -/

theorem resolve_eq :
    tree.resolve (root.descend names) =
      (checkLength (root.descend names)).map fun _ => here ++ names := by
  obtain ⟨_, _, led⟩ := resolve_eq_ok_iff.mp below.resolved
  obtain ⟨content, found⟩ := below.regular
  rcases checkLength_cases (root.descend names) with short | long
  · rw [short]
    refine resolve_eq_ok_iff.mpr ⟨below.textual, short, ?_⟩
    exact resolveFrom_append_eq_ok_iff.mpr ⟨here, led, resolveFrom_of_lookup found⟩
  · rw [resolve, below.textual, long]
    rfl

theorem isFile_eq :
    tree.isFile strictness (root.descend names) =
      tolerate strictness.testing false ((checkLength (root.descend names)).map fun _ => true) := by
  obtain ⟨content, found⟩ := below.regular
  rw [isFile, entry?, below.resolve_eq]
  rcases checkLength_cases (root.descend names) with short | long
  · rw [short]
    simp only [Except.map, found]
    rfl
  · rw [long]
    cases strictness.testing with
    | false => rfl
    | true => rfl

theorem sources_of_short (short : checkLength (root.descend names) = .ok ()) (extensions : List Text) :
    tree.sources strictness (root.descend names) extensions =
      .ok (if (root.descend names).suffix ∈ extensions then [root.descend names] else []) := by
  rw [sources, below.isFile_eq, short]
  simp only [Except.map, tolerate, List.contains_iff_mem]

theorem sources_of_long (long : checkLength (root.descend names) ≠ .ok ()) {extensions : List Text}
    (simple : ∀ extension ∈ extensions, Simple extension) :
    tree.sources strictness (root.descend names) extensions =
      if strictness.testing then .error (.file .nameTooLong) else .ok [] := by
  have tooLong := (checkLength_cases (root.descend names)).resolve_left long
  have unresolved : tree.resolve (root.descend names) = .error .nameTooLong := by
    rw [below.resolve_eq, tooLong]
    rfl
  rw [sources, below.isFile_eq, tooLong]
  cases lenient : strictness.testing with
  | true => rfl
  | false =>
      have walked : ∀ extension ∈ extensions,
          tree.withExtension strictness (root.descend names) extension = .ok [] := by
        intro extension member
        refine (withExtension_eq_ok_iff (simple extension member)).mpr (.inl ⟨fun strict => ?_,
          fun _ led => ?_, rfl⟩)
        · rw [lenient] at strict
          cases strict
        · rw [unresolved] at led
          cases led
      simp only [Except.map, tolerate, Bool.false_eq_true, if_false]
      rw [mapM_eq_ok (fun _ => []) walked]
      simp

/-! ### A file in a walk -/

theorem mem_withExtension_iff {extension : Text} (simple : Simple extension) {paths : List Path}
    (walked : tree.withExtension strictness root extension = .ok paths) :
    root.descend names ∈ paths ↔ checkLength (root.descend names.dropLast) = .ok () ∧
      (extension = (root.descend names).suffix ∨ extension = (root.descend names).name) := by
  obtain ⟨front, name, rfl⟩ := below.exists_snoc
  obtain ⟨content, found⟩ := below.regular
  have last : (root.descend (front ++ [name])).name = name := by
    rw [Path.name, root.parts_descend_snoc, List.getLast?_concat, Option.getD_some]
  rw [Path.suffix, last, ← simple.suffix_iff, List.dropLast_concat]
  rcases (withExtension_eq_ok_iff simple).mp walked with ⟨_, elsewhere, _⟩ | ⟨there, resolved, _, _, rfl⟩
  · exact absurd below.directory (elsewhere here below.resolved)
  · rw [below.resolved] at resolved
    cases resolved
    rw [List.mem_mergeSort, List.mem_eraseDups, mem_pathsMatching_iff simple]
    constructor
    · rintro ⟨others, _, opened, other, same, suffix, _⟩
      have parts : root.parts ++ (front ++ [name]) = root.parts ++ (others ++ [other]) :=
        congrArg Path.parts same
      obtain ⟨rfl, lasts⟩ := List.append_inj' (List.append_cancel_left parts) rfl
      rw [List.singleton_inj.mp lasts]
      exact ⟨opened, suffix⟩
    · rintro ⟨opened, suffix⟩
      have present : tree.lookup (here ++ (front ++ [name])) ≠ none := by
        rw [found]
        exact Option.some_ne_none _
      have housed := lookup_dropLast found
      rw [← List.append_assoc, List.dropLast_concat] at housed
      exact ⟨front, mem_directoriesBelow_iff.mpr (.inr housed), opened, name, rfl, suffix, present⟩

theorem count_withExtension {extension : Text} (simple : Simple extension) {paths : List Path}
    (walked : tree.withExtension strictness root extension = .ok paths)
    (near : checkLength (root.descend names.dropLast) = .ok ()) :
    paths.count (root.descend names) =
      if extension = (root.descend names).suffix ∨ extension = (root.descend names).name then 1 else 0 := by
  rw [(nodup_withExtension simple walked).count]
  exact if_congr ((below.mem_withExtension_iff simple walked).trans (and_iff_right near)) rfl rfl

theorem count_walks {extensions : List Text} {walks : List (List Path)}
    (walked : List.Forall₂ (fun extension walk => tree.withExtension strictness root extension = .ok walk)
      extensions walks)
    (simple : ∀ extension ∈ extensions, Simple extension)
    (near : checkLength (root.descend names.dropLast) = .ok ()) :
    walks.flatten.count (root.descend names) =
      extensions.countP fun extension =>
        extension = (root.descend names).suffix ∨ extension = (root.descend names).name := by
  induction walked with
  | nil => rfl
  | cons first _ ih =>
      obtain ⟨firstSimple, otherSimple⟩ := List.forall_mem_cons.mp simple
      rw [List.flatten_cons, List.count_append, below.count_withExtension firstSimple first near,
        ih otherSimple,
        List.countP_cons, Nat.add_comm]
      simp only [decide_eq_true_eq]

theorem notMem_walks {extensions : List Text} {walks : List (List Path)}
    (walked : List.Forall₂ (fun extension walk => tree.withExtension strictness root extension = .ok walk)
      extensions walks)
    (simple : ∀ extension ∈ extensions, Simple extension)
    (far : checkLength (root.descend names.dropLast) ≠ .ok ()) : root.descend names ∉ walks.flatten := by
  induction walked with
  | nil => exact List.not_mem_nil
  | cons first _ ih =>
      obtain ⟨firstSimple, otherSimple⟩ := List.forall_mem_cons.mp simple
      rw [List.flatten_cons, List.mem_append, not_or, below.mem_withExtension_iff firstSimple first]
      exact ⟨fun opened => far opened.1, ih otherSimple⟩

end FileBelow

theorem pairwise_lt_withExtension {strictness : Strictness} {tree : Tree} {root : Path} {extension : Text}
    (simple : Simple extension) {paths : List Path}
    (walked : tree.withExtension strictness root extension = .ok paths) :
    paths.Pairwise fun path later => path.parts < later.parts := by
  have distinct := nodup_withExtension simple walked
  have below : ∀ path ∈ paths, ∃ names, path = root.descend names := by
    intro path member
    obtain ⟨_, names, name, _, led, _⟩ := exists_of_mem_withExtension simple walked member
    exact ⟨_, led⟩
  have sorted : paths.Pairwise fun path later => path.parts ≤ later.parts := by
    rcases (withExtension_eq_ok_iff simple).mp walked with ⟨_, _, rfl⟩ | ⟨_, _, _, _, rfl⟩
    · exact .nil
    · exact pairwise_mergeSort_precedes _
  refine (sorted.and distinct).imp_of_mem fun {path later} member laterMember related => ?_
  refine lt_of_le_of_ne related.1 fun same => related.2 ?_
  obtain ⟨names, rfl⟩ := below path member
  obtain ⟨others, rfl⟩ := below later laterMember
  exact congrArg (Path.mk root.anchor) same

/-! ### Whole walks -/

theorem select_eq_error {strictness : Strictness} {tree : Tree} {path : Path} {here : Location}
    {atoms : List NamePattern.Atom} (beyond : ¬ tree.WithinReach strictness path here) :
    tree.select strictness false path here [.anyDepth, .pattern atoms] = .error .nameTooLong := by
  cases selected : tree.select strictness false path here [.anyDepth, .pattern atoms] with
  | ok paths => exact absurd (select_eq_ok_iff.mp selected).1 beyond
  | error error =>
      rw [select] at selected
      obtain ⟨below, _, stopped⟩ := exists_of_mapM_eq_error (error_of_bind_pure_eq_error selected)
      rw [select_pattern] at stopped
      rcases checkLength_cases (path.descend below) with short | long
      · rw [short] at stopped
        cases stopped
      · rw [long] at stopped
        exact congrArg Except.error (eq_of_tolerate_eq_error stopped).symm

section Walks

variable {strictness : Strictness} {tree : Tree} {root : Path} {here : Location}
  (resolved : tree.resolve root = .ok here) (directory : tree.lookup here = some .directory)

include resolved directory

private theorem isFile_of_directory : tree.isFile strictness root = .ok false := by
  rw [isFile, entry?, resolved]
  simp only [directory]
  rfl

private theorem exists_walks {extensions : List Text} (simple : ∀ extension ∈ extensions, Simple extension)
    (within : extensions ≠ [] → tree.WithinReach strictness root here) :
    ∃ walks, tree.sources strictness root extensions = .ok walks.flatten ∧
      List.Forall₂ (fun extension walk => tree.withExtension strictness root extension = .ok walk) extensions
        walks := by
  have walked : ∀ extension ∈ extensions, tree.withExtension strictness root extension =
      .ok ((tree.pathsMatching (NamePattern.ofText ('*' :: extension)) root here).eraseDups.mergeSort
        Path.precedes) := by
    intro extension member
    have reach := within (List.ne_nil_of_mem member)
    exact (withExtension_eq_ok_iff (simple extension member)).mpr (.inr ⟨here, resolved, directory, reach,
      rfl⟩)
  refine ⟨_, ?_, List.forall₂_map_right_iff.mpr (List.forall₂_same.mpr walked)⟩
  rw [sources, isFile_of_directory resolved directory]
  simp only [mapM_eq_ok _ walked]
  rfl

theorem withExtension_eq_error {extension : Text} (simple : Simple extension)
    (beyond : ¬ tree.WithinReach strictness root here) :
    tree.withExtension strictness root extension = .error (.file .nameTooLong) := by
  unfold withExtension
  rw [ofExtension_of_simple simple, resolved]
  simp only [directory, bne_self_eq_false, Bool.false_eq_true, if_false]
  change Bind.bind (Except.mapError WalkError.file
    (tree.select strictness false root here [.anyDepth, .pattern _])) _ = _
  rw [select_eq_error beyond]
  rfl

theorem sources_eq_error {extensions : List Text} (simple : ∀ extension ∈ extensions, Simple extension)
    (present : extensions ≠ []) (beyond : ¬ tree.WithinReach strictness root here) :
    tree.sources strictness root extensions = .error (.file .nameTooLong) := by
  cases extensions with
  | nil => exact absurd rfl present
  | cons extension rest =>
      have failed := withExtension_eq_error resolved directory (simple extension List.mem_cons_self) beyond
      rw [sources, isFile_of_directory resolved directory]
      simp only [List.mapM_cons, failed]
      rfl

end Walks

/-! ### The two selections -/

def bareTree : Tree where
  entries := [(["work".toList], .directory), (["work".toList, "d".toList], .directory),
    (["work".toList, "d".toList, ".m".toList], .file .empty), (["work".toList, "a.m".toList], .file .empty)]
  workingDirectory := ["work".toList]
  distinct := by decide +kernel
  named := by decide +kernel
  housed := by decide +kernel
  home := by decide +kernel

def bareRoot : Path :=
  ⟨['/'], ["work".toList]⟩

private theorem fileBelow_bareTree : FileBelow bareTree bareRoot ["work".toList] ["d".toList, ".m".toList] where
  resolved := by decide +kernel
  directory := by decide +kernel
  regular := ⟨.empty, by decide +kernel⟩

def repeatedExtensions : List Text :=
  [".m".toList, ".h".toList, ".m".toList]

private theorem simple_repeatedExtensions : ∀ extension ∈ repeatedExtensions, Simple extension := by
  have source : Simple ".m".toList := .of_all (by decide) rfl
  have header : Simple ".h".toList := .of_all (by decide) rfl
  simp only [repeatedExtensions, List.forall_mem_cons]
  exact ⟨source, header, source, List.forall_mem_nil _⟩

def spelledLength : List Text → Nat
  | [] => 0
  | name :: rest => (String.ofList name).utf8ByteSize + 1 + spelledLength rest

private theorem utf8ByteSize_intercalate (name : Text) (rest : List Text) :
    (String.ofList (['/'].intercalate (name :: rest))).utf8ByteSize + 1 = spelledLength (name :: rest) := by
  induction rest generalizing name with
  | nil => simp [spelledLength]
  | cons next rest ih =>
      have slash : (String.ofList ['/']).utf8ByteSize = 1 := by decide
      rw [List.intercalate_cons_cons, String.ofList_append, String.ofList_append, String.utf8ByteSize_append,
        String.utf8ByteSize_append, slash, spelledLength, ← ih next]
      omega

private theorem toText_of_ne_nil {name : Text} {rest : List Text} (present : name ≠ []) :
    Path.toText ⟨[], name :: rest⟩ = ['/'].intercalate (name :: rest) := by
  have written : ['/'].intercalate (name :: rest) ≠ [] := by
    cases rest with
    | nil => simpa using present
    | cons next rest =>
        rw [List.intercalate_cons_cons]
        simp
  unfold Path.toText
  rw [List.nil_append]
  split
  · rename_i empty
    exact absurd empty written
  · rfl

private theorem checkLength_eq_ok_iff {name : Text} {rest : List Text} (present : name ≠ []) :
    checkLength ⟨[], name :: rest⟩ = .ok () ↔ spelledLength (name :: rest) ≤ pathLimit + 1 := by
  have length := utf8ByteSize_intercalate name rest
  rw [checkLength, toText_of_ne_nil present]
  split
  · rename_i long
    have bytes : pathLimit < (String.ofList (['/'].intercalate (name :: rest))).utf8ByteSize := long
    exact iff_of_false nofun (by omega)
  · rename_i short
    have bytes : ¬ pathLimit < (String.ofList (['/'].intercalate (name :: rest))).utf8ByteSize := short
    exact iff_of_true rfl (by omega)

def longName (letter : Char) : Text :=
  List.replicate 200 letter

def longTree : Tree where
  entries := [(["work".toList], .directory), (["work".toList, longName 'd'], .directory),
    (["work".toList, longName 'd', "a.m".toList], .file .empty),
    (["work".toList, longName 'f' ++ ".m".toList], .file .empty)]
  workingDirectory := ["work".toList]
  distinct := by decide +kernel
  named := by decide +kernel
  housed := by decide +kernel
  home := by decide +kernel

/-- A path that goes into the directory and back again, twenty times over. -/
def windingRoot : Path :=
  ⟨[], (List.replicate 20 [longName 'd', Location.parentName]).flatten⟩

private theorem checkLength_windingRoot_iff (names : List Text) :
    checkLength (windingRoot.descend names) = .ok () ↔
      spelledLength (windingRoot.parts ++ names) ≤ pathLimit + 1 :=
  checkLength_eq_ok_iff (List.cons_ne_nil 'd' _)

private theorem fileBelow_longTree {names : List Text}
    (regular : longTree.lookup ("work".toList :: names) = some (.file .empty)) :
    FileBelow longTree windingRoot ["work".toList] names where
  resolved := resolve_eq_ok_iff.mpr
    ⟨by decide +kernel, (checkLength_windingRoot_iff []).mpr (by decide +kernel), by decide +kernel⟩
  directory := by decide +kernel
  regular := ⟨.empty, regular⟩

end Tree

end AlertMigration.File
