import AlertMigration.Proofs.TreeLookup
import Mathlib.Data.List.Nodup

/-!
The paths that a walk yields for a simple extension.

They are the paths that lead on from the root of the walk, at any depth, to something whose name ends in the
extension (`withExtension_eq_ok_iff`, `mem_pathsMatching_iff`). No path is yielded twice, and two yielded paths to
the same file are equal.
-/

namespace AlertMigration.File

/-! ### Simple extensions -/

/-- A dot and a text that has neither dots nor slashes nor wildcards. -/
def Simple (extension : Text) : Prop :=
  ∃ stem, extension = '.' :: stem ∧ stem ≠ [] ∧ ∀ c ∈ stem, c ∉ ['.', '/', '*', '?', '[']

namespace Simple

theorem of_all {stem : Text} (present : stem ≠ [])
    (plain : stem.all (fun c => !(['.', '/', '*', '?', '['].contains c)) = true) : Simple ('.' :: stem) := by
  refine ⟨stem, rfl, present, fun c member special => ?_⟩
  have unlike := List.all_eq_true.mp plain c member
  rw [List.contains_iff_mem.mpr special] at unlike
  cases unlike

theorem bak : Simple ".bak".toList :=
  of_all (by decide) rfl

theorem tmp : Simple ".tmp".toList :=
  of_all (by decide) rfl

variable {extension other name : Text}

theorem eq_of_suffix_self (simple : Simple extension) (otherSimple : Simple other)
    (suffix : extension <:+ other) : extension = other := by
  obtain ⟨stem, rfl, _, _⟩ := simple
  obtain ⟨stem', rfl, _, plain⟩ := otherSimple
  rcases List.suffix_cons_iff.mp suffix with same | within
  · exact same
  · exact absurd (plain '.' (within.subset List.mem_cons_self)) (by decide)

theorem eq_of_suffix (simple : Simple extension) (otherSimple : Simple other)
    (suffix : extension <:+ name) (otherSuffix : other <:+ name) : extension = other := by
  rcases List.suffix_or_suffix_of_suffix suffix otherSuffix with within | within
  · exact simple.eq_of_suffix_self otherSimple within
  · exact (otherSimple.eq_of_suffix_self simple within).symm

theorem notMem (simple : Simple extension) {c : Char} (special : c ∈ ['/', '*', '?', '[']) :
    c ∉ extension := by
  obtain ⟨stem, rfl, _, plain⟩ := simple
  intro member
  rcases List.mem_cons.mp member with rfl | member
  · exact absurd special (by decide)
  · exact plain c member (List.mem_cons_of_mem '.' special)

end Simple

/-! ### Names with an extension -/

namespace NamePattern

private theorem ofText_of_plain {text : Text} (plain : ∀ c ∈ text, c ∉ ['*', '?', '[']) :
    ofText text = text.map .literal := by
  induction text with
  | nil =>
      rw [ofText]
      rfl
  | cons c rest ih =>
      obtain ⟨here, later⟩ := List.forall_mem_cons.mp plain
      simp only [List.mem_cons, List.not_mem_nil, or_false, not_or] at here
      obtain ⟨star, question, bracket⟩ := here
      rw [ofText, if_neg (by simpa using star), if_neg (by simpa using question),
        if_neg (by simpa using bracket), ih later]
      rfl

private theorem accepts_map_literal_iff {text name : Text} :
    accepts (text.map .literal) name = true ↔ name = text := by
  induction text generalizing name with
  | nil =>
      rw [List.map_nil, accepts]
      exact List.isEmpty_iff
  | cons c rest ih =>
      cases name with
      | nil => simp [accepts]
      | cons d name =>
          have same : (Atom.literal c).admits d = true ↔ d = c := beq_iff_eq.trans eq_comm
          rw [List.map_cons, accepts, Bool.and_eq_true, ih, same, List.cons.injEq]
          exact fun different => by cases different

private theorem accepts_anyText_iff {atoms : List Atom} {name : Text} :
    accepts (.anyText :: atoms) name = true ↔ ∃ tail, tail <:+ name ∧ accepts atoms tail = true := by
  induction name with
  | nil =>
      rw [accepts]
      simp
  | cons c rest ih =>
      rw [accepts, Bool.or_eq_true, ih]
      constructor
      · rintro (whole | ⟨tail, suffix, accepted⟩)
        · exact ⟨c :: rest, List.suffix_rfl, whole⟩
        · exact ⟨tail, suffix.trans (List.suffix_cons c rest), accepted⟩
      · rintro ⟨tail, suffix, accepted⟩
        rcases List.suffix_cons_iff.mp suffix with rfl | within
        · exact .inl accepted
        · exact .inr ⟨tail, within, accepted⟩

theorem accepts_extension_iff {extension name : Text} (simple : Simple extension) :
    accepts (ofText ('*' :: extension)) name = true ↔ extension <:+ name := by
  have plain : ∀ c ∈ extension, c ∉ ['*', '?', '['] := fun c member special =>
    simple.notMem (List.mem_cons_of_mem '/' special) member
  rw [ofText, if_pos (beq_self_eq_true '*'), ofText_of_plain plain, accepts_anyText_iff]
  simp only [accepts_map_literal_iff, exists_eq_right]

end NamePattern

/-! ### The steps of a walk -/

private theorem hasDoubleStar_of_notMem {text : Text} (absent : '*' ∉ text) :
    Segment.hasDoubleStar text = false := by
  induction text with
  | nil => rfl
  | cons c rest ih =>
      rw [List.mem_cons, not_or] at absent
      unfold Segment.hasDoubleStar
      split
      · rename_i same
        exact absurd (List.cons.inj same).1.symm absent.1
      · rename_i same
        rw [← (List.cons.inj same).2]
        exact ih absent.2
      · rfl

theorem ofExtension_of_simple {extension : Text} (simple : Simple extension) :
    WalkPattern.ofExtension extension =
      .ok ⟨[.pattern (NamePattern.ofText ('*' :: extension))], false⟩ := by
  have slash : '/' ∉ '*' :: extension := by
    rw [List.mem_cons, not_or]
    exact ⟨by decide, simple.notMem (by decide)⟩
  have star : '*' ∉ extension := simple.notMem (by decide)
  have named : Path.namesOf ('*' :: extension) = ['*' :: extension] := by
    rw [Path.namesOf, List.splitOn_eq_singleton slash]
    rfl
  have segment : Segment.ofName ('*' :: extension) =
      .ok (.pattern (NamePattern.ofText ('*' :: extension))) := by
    have single := hasDoubleStar_of_notMem star
    obtain ⟨stem, rfl, _, _⟩ := simple
    have plain : Segment.hasDoubleStar ('*' :: '.' :: stem) = false := single
    have pattern : NamePattern.isPattern ('*' :: '.' :: stem) = true := rfl
    have different : ('*' :: '.' :: stem == ['*', '*']) = false := rfl
    rw [Segment.ofName, different, plain, pattern]
    rfl
  have last : (extension.getLast? == some '/') = false := by
    apply beq_false_of_ne
    intro same
    exact simple.notMem (by decide) (List.mem_of_getLast? same)
  unfold WalkPattern.ofExtension
  rw [named, List.mapM_cons, segment, last]
  rfl

section Except

variable {ε α β : Type}

theorem bind_eq_ok_iff {first : Except ε α} {next : α → Except ε β} {value : β} :
    (first >>= next) = .ok value ↔ ∃ middle, first = .ok middle ∧ next middle = .ok value := by
  cases first with
  | error error => simp [Bind.bind, Except.bind]
  | ok middle => simp [Bind.bind, Except.bind]

theorem map_eq_ok_iff {first : Except ε α} {change : α → β} {value : β} :
    first.map change = .ok value ↔ ∃ middle, first = .ok middle ∧ change middle = value := by
  cases first with
  | error error => simp [Except.map]
  | ok middle => simp [Except.map]

private theorem ok_of_mapError_eq_ok {change : ε → β} {first : Except ε α} {value : α}
    (done : first.mapError change = .ok value) : first = .ok value := by
  cases first with
  | error error => cases done
  | ok other =>
      cases done
      rfl

theorem error_of_bind_pure_eq_error {first : Except ε α} {change : α → β} {error : ε}
    (failed : (first >>= fun value => pure (change value)) = .error error) : first = .error error := by
  cases first with
  | error other =>
      cases failed
      rfl
  | ok value => cases failed

private theorem mapM_eq_ok_iff_of_forall {step : α → Except ε β} {passes : α → Prop} {result : α → β}
    (each : ∀ input output, step input = .ok output ↔ passes input ∧ output = result input)
    {inputs : List α} {outputs : List β} :
    inputs.mapM step = .ok outputs ↔ (∀ input ∈ inputs, passes input) ∧ outputs = inputs.map result := by
  induction inputs generalizing outputs with
  | nil =>
      rw [List.mapM_nil, List.map_nil, and_iff_right (List.forall_mem_nil _)]
      exact ⟨fun done => (Except.ok.inj done).symm, fun done => congrArg Except.ok done.symm⟩
  | cons input rest ih =>
      rw [List.mapM_cons, List.forall_mem_cons, List.map_cons, bind_eq_ok_iff]
      constructor
      · rintro ⟨first, here, done⟩
        obtain ⟨others, later, done⟩ := bind_eq_ok_iff.mp done
        obtain ⟨passed, rfl⟩ := (each input first).mp here
        obtain ⟨passedLater, rfl⟩ := ih.mp later
        cases done
        exact ⟨⟨passed, passedLater⟩, rfl⟩
      · rintro ⟨⟨passed, passedLater⟩, rfl⟩
        exact ⟨_, (each input _).mpr ⟨passed, rfl⟩, bind_eq_ok_iff.mpr ⟨_, ih.mpr ⟨passedLater, rfl⟩, rfl⟩⟩

theorem mapM_eq_ok (result : α → β) {step : α → Except ε β} {inputs : List α}
    (total : ∀ input ∈ inputs, step input = .ok (result input)) :
    inputs.mapM step = .ok (inputs.map result) := by
  induction inputs with
  | nil => rfl
  | cons input rest ih =>
      obtain ⟨here, later⟩ := List.forall_mem_cons.mp total
      rw [List.mapM_cons, here, ih later]
      rfl

theorem exists_of_mapM_eq_error {step : α → Except ε β} {inputs : List α} {error : ε}
    (failed : inputs.mapM step = .error error) : ∃ input ∈ inputs, step input = .error error := by
  induction inputs with
  | nil => cases failed
  | cons input rest ih =>
      rw [List.mapM_cons] at failed
      cases here : step input with
      | error other =>
          rw [here] at failed
          cases failed
          exact ⟨input, List.mem_cons_self, here⟩
      | ok output =>
          rw [here] at failed
          cases later : rest.mapM step with
          | error other =>
              rw [later] at failed
              cases failed
              obtain ⟨found, member, stopped⟩ := ih later
              exact ⟨found, List.mem_cons_of_mem _ member, stopped⟩
          | ok outputs =>
              rw [later] at failed
              cases failed

end Except

private theorem tolerate_error_eq_ok_iff {α : Type} {strict : Bool} {nothing found : α} {error : Error} :
    tolerate strict nothing (.error error) = .ok found ↔ strict = false ∧ found = nothing := by
  cases strict with
  | false => simp [tolerate, eq_comm]
  | true => simp [tolerate]

theorem eq_of_tolerate_eq_error {α : Type} {strict : Bool} {nothing : α} {error failure : Error}
    (failed : tolerate strict nothing (.error error) = .error failure) : error = failure := by
  cases strict with
  | false => cases failed
  | true => exact Except.error.inj failed

private theorem flatten_map_ite {α β : Type} (holds : α → Bool) (result : α → β) (items : List α) :
    (items.map fun item => if holds item then [result item] else []).flatten =
      (items.filter holds).map result := by
  induction items with
  | nil => rfl
  | cons item rest ih =>
      cases held : holds item with
      | false => simp [held, ih]
      | true => simp [held, ih]

theorem nodup_eraseDups {α : Type} [BEq α] [LawfulBEq α] (items : List α) : items.eraseDups.Nodup := by
  cases items with
  | nil => exact List.nodup_nil
  | cons first rest =>
      rw [List.eraseDups_cons, List.nodup_cons, List.mem_eraseDups]
      exact ⟨by simp, nodup_eraseDups _⟩
termination_by items.length
decreasing_by exact Nat.lt_succ_of_le (List.length_filter_le _ _)

namespace Tree

variable {tree : Tree}

private theorem mem_children {here : Location} {name : Text} (present : tree.lookup (here ++ [name]) ≠ none) :
    name ∈ tree.children here := by
  obtain ⟨entry, found⟩ := Option.ne_none_iff_exists'.mp present
  rw [children, List.mem_filterMap]
  refine ⟨(here ++ [name], entry), mem_entries_of_lookup (by simp) found, ?_⟩
  dsimp only
  rw [List.dropLast_concat, List.getLast?_concat, if_pos (beq_self_eq_true here)]

def namesMatching (tree : Tree) (atoms : List NamePattern.Atom) (here : Location) : List Text :=
  ((tree.children here).filter (NamePattern.accepts atoms)).filter fun name =>
    (tree.lookup (here ++ [name])).isSome

/-- The paths to what has a matching name in a directory below the one to which a path leads, if the directory
can be opened. -/
def pathsIn (tree : Tree) (atoms : List NamePattern.Atom) (path : Path) (here below : Location) : List Path :=
  match checkLength (path.descend below) with
  | .error _ => []
  | .ok () => (tree.namesMatching atoms (here ++ below)).map fun name => path.descend (below ++ [name])

def pathsMatching (tree : Tree) (atoms : List NamePattern.Atom) (path : Path) (here : Location) : List Path :=
  (tree.directoriesBelow here).flatMap (tree.pathsIn atoms path here)

/-- Every directory that a walk comes to can be opened, unless the walk may pass over it. -/
def WithinReach (tree : Tree) (strictness : Strictness) (root : Path) (here : Location) : Prop :=
  strictness.walking = true → ∀ below ∈ tree.directoriesBelow here, checkLength (root.descend below) = .ok ()

theorem select_pattern (tree : Tree) (strictness : Strictness) (path : Path) (here : Location)
    (atoms : List NamePattern.Atom) :
    tree.select strictness false path here [.pattern atoms] = tolerate strictness.walking []
      ((checkLength path).map fun _ => (tree.namesMatching atoms here).map fun name => path.descend [name]) := by
  rw [select]
  cases checkLength path with
  | error error => rfl
  | ok _ =>
      dsimp only
      rw [mapM_eq_ok (fun name => if (tree.lookup (here ++ [name])).isSome then [path.descend [name]] else [])]
      · change tolerate strictness.walking [] (.ok (List.flatten _)) = _
        rw [flatten_map_ite]
        rfl
      · intro name _
        cases tree.lookup (here ++ [name]) with
        | none => rfl
        | some entry =>
            cases entry with
            | directory =>
                rw [select]
                rfl
            | file content => rfl

private theorem tolerate_select_eq_ok_iff {strictness : Strictness} {path : Path} {here below : Location}
    {atoms : List NamePattern.Atom} {found : List Path} :
    (tolerate strictness.walking [] do
        checkLength (path.descend below)
        tree.select strictness false (path.descend below) (here ++ below) [.pattern atoms]) = .ok found ↔
      (strictness.walking = true → checkLength (path.descend below) = .ok ()) ∧
        found = tree.pathsIn atoms path here below := by
  rw [select_pattern, pathsIn]
  cases checkLength (path.descend below) with
  | error error =>
      cases strictness.walking with
      | false => simp [tolerate, Bind.bind, Except.bind, eq_comm]
      | true => simp [tolerate, Bind.bind, Except.bind]
  | ok _ =>
      simp only [tolerate, Bind.bind, Except.bind, Except.map, Path.descend, List.append_assoc, implies_true,
        true_and, Except.ok.injEq]
      exact eq_comm

theorem select_eq_ok_iff {strictness : Strictness} {path : Path} {here : Location}
    {atoms : List NamePattern.Atom} {paths : List Path} :
    tree.select strictness false path here [.anyDepth, .pattern atoms] = .ok paths ↔
      tree.WithinReach strictness path here ∧ paths = tree.pathsMatching atoms path here := by
  rw [select, bind_eq_ok_iff]
  simp only [mapM_eq_ok_iff_of_forall fun below found => tolerate_select_eq_ok_iff]
  constructor
  · rintro ⟨_, ⟨checked, rfl⟩, done⟩
    cases done
    exact ⟨fun strict below member => checked below member strict, rfl⟩
  · rintro ⟨within, rfl⟩
    exact ⟨_, ⟨fun below member strict => within strict below member, rfl⟩, rfl⟩

section WithExtension

variable {strictness : Strictness} {root : Path} {extension : Text} {paths : List Path}
  (simple : Simple extension)

include simple

theorem withExtension_eq_ok_iff :
    tree.withExtension strictness root extension = .ok paths ↔
      (strictness.testing = true → tree.resolve root ≠ .error .nameTooLong) ∧
          (∀ here, tree.resolve root = .ok here → tree.lookup here ≠ some .directory) ∧ paths = [] ∨
        ∃ here, tree.resolve root = .ok here ∧ tree.lookup here = some .directory ∧
          tree.WithinReach strictness root here ∧
          paths = (tree.pathsMatching (NamePattern.ofText ('*' :: extension)) root here).eraseDups.mergeSort
            Path.precedes := by
  unfold withExtension
  rw [ofExtension_of_simple simple]
  constructor
  · intro walked
    obtain ⟨pattern, same, walked⟩ := bind_eq_ok_iff.mp walked
    cases same
    split at walked
    · rename_i reached
      obtain ⟨lenient, rfl⟩ := tolerate_error_eq_ok_iff.mp (ok_of_mapError_eq_ok walked)
      refine .inl ⟨fun strict => ?_, fun here resolved => ?_, rfl⟩
      · rw [lenient] at strict
        cases strict
      · rw [resolved] at reached
        cases reached
    · rename_i failed reached
      cases walked
      refine .inl ⟨fun _ tooLong => ?_, fun here resolved => ?_, rfl⟩
      · rw [tooLong] at reached
        exact failed (Except.error.inj reached).symm
      · rw [resolved] at reached
        cases reached
    · rename_i here resolved
      split at walked
      · rename_i different
        cases walked
        refine .inl ⟨fun _ tooLong => ?_, fun there also => ?_, rfl⟩
        · rw [tooLong] at resolved
          cases resolved
        · rw [resolved] at also
          cases also
          exact bne_iff_ne.mp different
      · rename_i directory
        obtain ⟨selected, done, walked⟩ := bind_eq_ok_iff.mp walked
        cases walked
        obtain ⟨within, rfl⟩ := select_eq_ok_iff.mp (ok_of_mapError_eq_ok done)
        exact .inr ⟨here, resolved, by simpa using directory, within, rfl⟩
  · intro cases
    refine bind_eq_ok_iff.mpr ⟨_, rfl, ?_⟩
    rcases cases with ⟨short, elsewhere, rfl⟩ | ⟨here, resolved, directory, checked, rfl⟩
    · split
      · rename_i tooLong
        have lenient : strictness.testing = false := Bool.eq_false_iff.mpr fun strict => short strict tooLong
        rw [tolerate_error_eq_ok_iff.mpr ⟨lenient, rfl⟩]
        rfl
      · rfl
      · rename_i here resolved
        rw [if_pos (bne_iff_ne.mpr (elsewhere here resolved))]
        rfl
    · rw [resolved]
      simp only [directory, bne_self_eq_false, Bool.false_eq_true, if_false]
      rw [select_eq_ok_iff.mpr ⟨checked, rfl⟩]
      rfl

theorem nodup_withExtension
    (walked : tree.withExtension strictness root extension = .ok paths) : paths.Nodup := by
  rcases (withExtension_eq_ok_iff simple).mp walked with ⟨_, _, rfl⟩ | ⟨here, _, _, _, rfl⟩
  · exact List.nodup_nil
  · rw [List.nodup_mergeSort]
    exact nodup_eraseDups _

theorem mem_pathsMatching_iff {path : Path} {here : Location} :
    path ∈ tree.pathsMatching (NamePattern.ofText ('*' :: extension)) root here ↔
      ∃ below ∈ tree.directoriesBelow here, checkLength (root.descend below) = .ok () ∧
        ∃ name, path = root.descend (below ++ [name]) ∧ extension <:+ name ∧
          tree.lookup (here ++ (below ++ [name])) ≠ none := by
  rw [pathsMatching, List.mem_flatMap]
  refine exists_congr fun below => and_congr_right fun _ => ?_
  rw [pathsIn]
  cases checkLength (root.descend below) with
  | error error => simp
  | ok _ =>
      unfold namesMatching
      simp only [List.mem_map, List.mem_filter, NamePattern.accepts_extension_iff simple,
        Option.isSome_iff_ne_none, List.append_assoc, true_and]
      constructor
      · rintro ⟨name, ⟨⟨_, suffix⟩, present⟩, rfl⟩
        exact ⟨name, rfl, suffix, present⟩
      · rintro ⟨name, rfl, suffix, present⟩
        exact ⟨name, ⟨⟨mem_children (by rwa [List.append_assoc]), suffix⟩, present⟩, rfl⟩

theorem exists_of_mem_withExtension (walked : tree.withExtension strictness root extension = .ok paths)
    {path : Path} (member : path ∈ paths) :
    ∃ here names name, tree.resolve root = .ok here ∧ path = root.descend (names ++ [name]) ∧
      extension <:+ name ∧ tree.lookup (here ++ (names ++ [name])) ≠ none := by
  rcases (withExtension_eq_ok_iff simple).mp walked with ⟨_, _, rfl⟩ | ⟨here, resolved, _, _, rfl⟩
  · cases member
  · rw [List.mem_mergeSort, List.mem_eraseDups] at member
    obtain ⟨names, _, _, name, found⟩ := (mem_pathsMatching_iff simple).mp member
    exact ⟨here, names, name, resolved, found⟩

end WithExtension

end Tree

/-- A path leads on from a root by names without double dots, and the last of them ends in the extension. -/
def Yielded (root : Path) (extension : Text) (path : Path) : Prop :=
  ∃ names name, path = root.descend (names ++ [name]) ∧ extension <:+ name ∧
    Location.parentName ∉ names ++ [name]

theorem yielded_of_mem_withExtension {strictness : Strictness} {tree : Tree} {root path : Path}
    {extension : Text} (simple : Simple extension) {paths : List Path}
    (walked : tree.withExtension strictness root extension = .ok paths) (member : path ∈ paths) :
    Yielded root extension path := by
  obtain ⟨here, names, name, _, rfl, suffix, present⟩ :=
    Tree.exists_of_mem_withExtension simple walked member
  exact ⟨names, name, rfl, suffix,
    fun inside => Tree.parentName_notMem present (List.mem_append_right here inside)⟩

/-! ### Where the yielded paths lead -/

namespace Tree

variable {tree : Tree}

private theorem eq_append_of_resolveFrom {here place : Location} {names : List Text}
    (downward : Location.parentName ∉ names) (resolved : tree.resolveFrom here names = .ok place) :
    place = here ++ names := by
  induction names generalizing here with
  | nil =>
      cases resolved
      exact (List.append_nil _).symm
  | cons name rest ih =>
      rw [List.mem_cons, not_or] at downward
      obtain ⟨_, next, followed, later⟩ := resolveFrom_cons_eq_ok_iff.mp resolved
      rcases follow_cases followed with ⟨upward, _⟩ | ⟨_, _, onward⟩
      · exact absurd upward.symm downward.1
      · rw [ih downward.2 later, onward, List.append_assoc]
        rfl

/-- Without double dots, every location is reached from a root in one way only. -/
theorem names_eq_of_resolve_descend {root : Path} {place : Location} {names others : List Text}
    (downward : Location.parentName ∉ names) (otherDownward : Location.parentName ∉ others)
    (resolved : tree.resolve (root.descend names) = .ok place)
    (otherResolved : tree.resolve (root.descend others) = .ok place) : names = others := by
  obtain ⟨_, _, led⟩ := resolve_eq_ok_iff.mp resolved
  obtain ⟨_, _, otherLed⟩ := resolve_eq_ok_iff.mp otherResolved
  obtain ⟨here, reached, onward⟩ := resolveFrom_append_eq_ok_iff.mp led
  obtain ⟨there, otherReached, otherOnward⟩ := resolveFrom_append_eq_ok_iff.mp otherLed
  have same : Except.ok here = Except.ok there := reached.symm.trans otherReached
  cases same
  have whole := eq_append_of_resolveFrom downward onward
  rw [eq_append_of_resolveFrom otherDownward otherOnward] at whole
  exact (List.append_cancel_left whole).symm

end Tree

theorem Path.parts_descend_snoc (path : Path) (names : List Text) (name : Text) :
    (path.descend (names ++ [name])).parts = (path.parts ++ names) ++ [name] :=
  (List.append_assoc _ _ _).symm

theorem Path.withEnding_descend (path : Path) (names : List Text) (name ending : Text) :
    (path.descend (names ++ [name])).withEnding ending = path.descend (names ++ [name ++ ending]) := by
  have ended := parts_withEnding (path.parts_descend_snoc names name) ending
  rw [List.append_assoc] at ended
  change Path.mk path.anchor ((path.descend (names ++ [name])).withEnding ending).parts = _
  rw [ended]
  rfl

namespace Yielded

variable {tree : Tree} {root path other : Path} {extension different : Text} {place : Location}

theorem extension_eq (simple : Simple extension) (otherSimple : Simple different)
    (yielded : Yielded root extension path) (also : Yielded root different path) :
    extension = different := by
  obtain ⟨names, name, rfl, suffix, _⟩ := yielded
  obtain ⟨names', name', same, otherSuffix, _⟩ := also
  have parts : root.parts ++ (names ++ [name]) = root.parts ++ (names' ++ [name']) :=
    congrArg Path.parts same
  have last := List.singleton_inj.mp (List.append_inj_right' (List.append_cancel_left parts) rfl)
  rw [← last] at otherSuffix
  exact simple.eq_of_suffix otherSimple suffix otherSuffix

theorem path_eq (yielded : Yielded root extension path) (otherYielded : Yielded root different other)
    (resolved : tree.resolve path = .ok place) (otherResolved : tree.resolve other = .ok place) :
    path = other := by
  obtain ⟨names, name, rfl, _, downward⟩ := yielded
  obtain ⟨names', name', rfl, _, otherDownward⟩ := otherYielded
  rw [Tree.names_eq_of_resolve_descend downward otherDownward resolved otherResolved]

theorem resolve_backup_ne (simple : Simple different) (unlike : different ≠ ".bak".toList)
    (yielded : Yielded root extension path) (otherYielded : Yielded root different other)
    (resolved : tree.resolve path.backup = .ok place) : tree.resolve other ≠ .ok place := by
  obtain ⟨names, name, rfl, _, downward⟩ := yielded
  obtain ⟨names', name', rfl, suffix, otherDownward⟩ := otherYielded
  intro otherResolved
  have backupDownward : Location.parentName ∉ names ++ [name ++ ".bak".toList] := by
    rw [List.mem_append, List.mem_singleton, not_or]
    exact ⟨fun inside => downward (List.mem_append_left _ inside),
      (Location.ne_parentName (by decide)).symm⟩
  rw [Path.backup, Path.withEnding_descend] at resolved
  have same := Tree.names_eq_of_resolve_descend backupDownward otherDownward resolved otherResolved
  have last := List.singleton_inj.mp (List.append_inj_right' same rfl)
  rw [← last] at suffix
  exact unlike (simple.eq_of_suffix .bak suffix (List.suffix_append _ _))

end Yielded

end AlertMigration.File
