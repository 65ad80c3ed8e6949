import AlertMigration.Proofs.WalkedPaths
import Mathlib.Data.Char
import Mathlib.Data.List.Lex

/-!
Trees in which a walk finds the same.

A walk for a simple extension depends on the directories and on where there are entries with a name that ends
in the extension, and on nothing else (`withExtension_of_alike`); the order in which a tree lists its entries does
not matter, since the paths are sorted.
-/

namespace AlertMigration.File

/-! ### The order of paths -/

private theorem lex_toNat_iff {name other : Text} :
    (name.lex other fun c d => c.toNat < d.toNat) = true ↔ name < other := by
  rw [List.lex_eq_true_iff_lex]
  simp only [decide_eq_true_eq]
  exact Iff.rfl

theorem Path.precedes_iff {path other : Path} : path.precedes other = true ↔ path.parts ≤ other.parts := by
  rw [Path.precedes, Bool.not_eq_true', ← Bool.not_eq_true, List.lex_eq_true_iff_lex]
  simp only [lex_toNat_iff]
  exact (not_lt : ¬ other.parts < path.parts ↔ path.parts ≤ other.parts)

theorem pairwise_mergeSort_precedes (paths : List Path) :
    (paths.mergeSort Path.precedes).Pairwise fun path other => path.parts ≤ other.parts := by
  simp only [← Path.precedes_iff]
  apply List.pairwise_mergeSort
  · intro first second third
    simp only [Path.precedes_iff]
    exact le_trans
  · intro path other
    rw [Bool.or_eq_true, Path.precedes_iff, Path.precedes_iff]
    exact le_total _ _

private theorem mergeSort_eraseDups_congr {root : Path} {paths others : List Path}
    (below : ∀ path ∈ paths, ∃ names, path = root.descend names)
    (same : ∀ path, path ∈ paths ↔ path ∈ others) :
    paths.eraseDups.mergeSort Path.precedes = others.eraseDups.mergeSort Path.precedes := by
  refine List.Perm.eq_of_pairwise ?_ (pairwise_mergeSort_precedes _) (pairwise_mergeSort_precedes _) ?_
  · intro path other member otherMember before after
    rw [List.mem_mergeSort, List.mem_eraseDups] at member otherMember
    obtain ⟨names, rfl⟩ := below path member
    obtain ⟨otherNames, rfl⟩ := below other ((same other).mpr otherMember)
    exact congrArg (Path.mk root.anchor) (le_antisymm before after)
  · rw [List.perm_ext_iff_of_nodup]
    · simp only [List.mem_mergeSort, List.mem_eraseDups, same, implies_true]
    · exact List.nodup_mergeSort.mpr (nodup_eraseDups _)
    · exact List.nodup_mergeSort.mpr (nodup_eraseDups _)

namespace Tree

theorem mem_directoriesBelow_iff {tree : Tree} {here below : Location} :
    below ∈ tree.directoriesBelow here ↔ below = [] ∨ tree.lookup (here ++ below) = some .directory := by
  rw [directoriesBelow, List.mem_cons, List.mem_filterMap]
  constructor
  · rintro (empty | ⟨⟨location, entry⟩, member, leads⟩)
    · exact .inl empty
    · dsimp only at leads
      split at leads
      · rename_i directory
        rw [Bool.and_eq_true, beq_iff_eq] at directory
        rw [List.isPrefixOf?_eq_some_iff_append_eq] at leads
        rw [leads, ← directory.1]
        exact .inr (lookup_of_mem member)
      · cases leads
  · rintro (empty | found)
    · exact .inl empty
    · by_cases empty : below = []
      · exact .inl empty
      · have present : here ++ below ≠ [] := List.append_ne_nil_of_right_ne_nil _ empty
        refine .inr ⟨(here ++ below, .directory), mem_entries_of_lookup present found, ?_⟩
        have further : here ++ below ≠ here := fun same => empty (List.append_right_eq_self.mp same)
        dsimp only
        rw [if_pos (Bool.and_eq_true_iff.mpr ⟨beq_self_eq_true _, bne_iff_ne.mpr further⟩)]
        exact List.isPrefixOf?_eq_some_iff_append_eq.mpr rfl

/-! ### Equal walks -/

private theorem resolveFrom_tooLong_of_sameDirectories {tree edited : Tree}
    (same : SameDirectories tree edited) {here : Location} {names : List Text}
    (failed : tree.resolveFrom here names = .error .nameTooLong) :
    edited.resolveFrom here names = .error .nameTooLong := by
  induction names generalizing here with
  | nil => cases failed
  | cons name rest ih =>
      rw [resolveFrom] at failed
      split at failed
      · cases failed
      · cases failed
      · rename_i directory
        rw [resolveFrom, (same.lookup_iff here).mpr directory]
        cases followed : follow here name with
        | error error =>
            rw [followed] at failed
            exact failed
        | ok next =>
            rw [followed] at failed
            exact ih failed

/-- The edit of files can turn one failure into another, but not into a name that is too long. -/
private theorem resolve_tooLong_of_sameDirectories {tree edited : Tree} (same : SameDirectories tree edited)
    {path : Path} (failed : tree.resolve path = .error .nameTooLong) :
    edited.resolve path = .error .nameTooLong := by
  rw [resolve] at failed ⊢
  split at failed
  · cases failed
  · rename_i textual
    rw [if_neg textual]
    cases checked : checkLength path with
    | error error =>
        rw [checked] at failed
        exact failed
    | ok _ =>
        rw [checked] at failed
        rw [same.origin]
        exact resolveFrom_tooLong_of_sameDirectories same failed

/-- Two trees have the same directories, and entries at the same locations with a name that ends in the
extension. -/
structure Alike (extension : Text) (tree edited : Tree) : Prop where
  directories : SameDirectories tree edited
  present : ∀ here name, extension <:+ name →
    (edited.lookup (here ++ [name]) = none ↔ tree.lookup (here ++ [name]) = none)

theorem Alike.symm {extension : Text} {tree edited : Tree} (alike : Alike extension tree edited) :
    Alike extension edited tree :=
  ⟨alike.directories.symm, fun here name suffix => (alike.present here name suffix).symm⟩

theorem Alike.trans {extension : Text} {first second third : Tree} (early : Alike extension first second)
    (late : Alike extension second third) : Alike extension first third :=
  ⟨early.directories.trans late.directories,
    fun here name suffix => (late.present here name suffix).trans (early.present here name suffix)⟩

theorem withExtension_of_alike {strictness : Strictness} {tree edited : Tree} {root : Path} {extension : Text}
    {paths : List Path}
    (simple : Simple extension) (alike : Alike extension tree edited)
    (walked : edited.withExtension strictness root extension = .ok paths) :
    tree.withExtension strictness root extension = .ok paths := by
  have back := alike.directories.symm
  rw [withExtension_eq_ok_iff simple] at walked ⊢
  rcases walked with ⟨short, elsewhere, rfl⟩ | ⟨here, resolved, directory, checked, rfl⟩
  · refine .inl ⟨fun strict tooLong => ?_, fun here resolved directory => ?_, rfl⟩
    · exact short strict (resolve_tooLong_of_sameDirectories alike.directories tooLong)
    · exact elsewhere here (resolve_of_sameDirectories alike.directories resolved)
        ((alike.directories.lookup_iff here).mpr directory)
  · have descends : ∀ below, below ∈ tree.directoriesBelow here ↔ below ∈ edited.directoriesBelow here := by
      intro below
      rw [mem_directoriesBelow_iff, mem_directoriesBelow_iff, alike.directories.lookup_iff]
    refine .inr ⟨here, resolve_of_sameDirectories back resolved, (back.lookup_iff here).mpr directory,
      fun strict below member => checked strict below ((descends below).mp member), ?_⟩
    apply mergeSort_eraseDups_congr
    · intro path member
      obtain ⟨below, _, _, name, led, _⟩ := (mem_pathsMatching_iff simple).mp member
      exact ⟨_, led⟩
    · intro path
      rw [mem_pathsMatching_iff simple, mem_pathsMatching_iff simple]
      simp only [descends]
      refine exists_congr fun below => and_congr_right fun _ => and_congr_right fun _ => ?_
      refine exists_congr fun name => ?_
      refine and_congr_right fun _ => and_congr_right fun suffix => ?_
      rw [← List.append_assoc, ne_eq, ne_eq, alike.present _ _ suffix]

end Tree

end AlertMigration.File
