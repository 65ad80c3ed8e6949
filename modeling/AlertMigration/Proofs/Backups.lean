import AlertMigration.Proofs.Visits

/-!
What the backups hold after a run.

The backup of a changed file holds what the file has held before the run, unless another visit of the same
run has touched the two (`Undisturbed.backedUp`). With simple and different extensions this does not happen
(`undisturbed_migratePath`), but an extension that is given twice is enough for the former content to be
lost.
-/

namespace AlertMigration.File

def BackedUp (tree last : Tree) (path : Path) : Prop :=
  ∃ content, tree.read path = .ok content ∧ last.read path.backup = .ok content

/-- Of the other outcomes of a run, none is a change to the file that an outcome is about; none before it
has this file as its backup, and none after it is a change to the backup of this file. -/
structure Undisturbed (tree : Tree) (before : List Outcome) (done : Outcome) (after : List Outcome) :
    Prop where
  once : ∀ other ∈ before ++ after, other.outcome.changed = true →
    tree.resolve other.path ≠ tree.resolve done.path
  fresh : ∀ other ∈ before, other.outcome.changed = true →
    tree.resolve other.path.backup ≠ tree.resolve done.path
  kept : ∀ other ∈ after, other.outcome.changed = true →
    tree.resolve other.path ≠ tree.resolve done.path.backup

section Backups

variable {job : Job} {tree last : Tree} {before after : List Outcome} {done : Outcome}

theorem Undisturbed.backedUp (undisturbed : Undisturbed tree before done after)
    (saving : job.backup = true) (changed : done.outcome.changed = true)
    (visits : Visits job tree (before ++ done :: after) last) :
    BackedUp tree last done.path := by
  obtain ⟨middle, next, place, former, migrated, early, file, replaced, late⟩ :=
    visits.split_of_changed changed
  have saved := replaced.saved saving
  have sinceMiddle := early.directories.symm
  have sinceNext := replaced.directories.symm.trans sinceMiddle
  have atFile := Tree.resolve_of_sameDirectories sinceMiddle file.resolved
  have atBackup := Tree.resolve_of_sameDirectories sinceNext saved.resolved
  have held : tree.lookup place = some (.file former) := by
    have untouched : ∀ other ∈ before, ¬ Touches tree other place := by
      rintro other member ⟨otherChanged, spot, _, resolved, rfl | ⟨_, backup⟩⟩
      · exact undisturbed.once other (List.mem_append_left _ member) otherChanged
          (resolved.trans atFile.symm)
      · exact undisturbed.fresh other member otherChanged (backup.trans atFile.symm)
    rcases early.lookup_cases saving untouched with same | ⟨gone, _⟩
    · rw [← same, file.found]
    · rw [file.found] at gone
      cases gone
  have holds : last.lookup place.backup = some (.file former) := by
    have untouched : ∀ other ∈ after, ¬ Touches next other place.backup := by
      rintro other member ⟨otherChanged, spot, present, resolved, same | ⟨same, _⟩⟩
      · rw [← same] at resolved
        exact undisturbed.kept other member otherChanged
          ((Tree.resolve_of_sameDirectories sinceNext resolved).trans atBackup.symm)
      · rw [← Location.beside_injective file.ne_nil present same] at resolved
        exact undisturbed.once other (List.mem_append_right _ member) otherChanged
          ((Tree.resolve_of_sameDirectories sinceNext resolved).trans atFile.symm)
    rcases late.lookup_cases saving untouched with same | ⟨_, spot, temporary⟩
    · rw [same, saved.found]
    · exact absurd temporary (place.backup_ne_temporary spot)
  exact ⟨former, Tree.read_eq_ok_iff.mpr ⟨place, atFile, held⟩, Tree.read_eq_ok_iff.mpr
    ⟨place.backup, Tree.resolve_of_sameDirectories late.directories saved.resolved, holds⟩⟩

variable {strictness : Strictness} {root : Path} {extensions : List Text}

private theorem undisturbed_of_yielded (saving : job.backup = true) {before after : List Outcome}
    {done : Outcome}
    (visits : Visits job tree (before ++ done :: after) last) (changed : done.outcome.changed = true)
    (simple : ∀ extension ∈ extensions, Simple extension) (unlike : ".bak".toList ∉ extensions)
    (yielded : ∀ other ∈ before ++ done :: after, ∃ extension ∈ extensions,
      Yielded root extension other.path)
    (distinct : ((before ++ done :: after).map Outcome.path).Nodup) :
    Undisturbed tree before done after := by
  have present : done ∈ before ++ done :: after := List.mem_append_right _ List.mem_cons_self
  obtain ⟨place, resolved, backup⟩ := visits.resolve_of_changed saving present changed
  obtain ⟨extension, listed, doneYielded⟩ := yielded done present
  have ne {extension : Text} (listed : extension ∈ extensions) : extension ≠ ".bak".toList := by
    rintro rfl
    exact unlike listed
  constructor
  · intro other member _ same
    have within : other ∈ before ++ done :: after := by
      rcases List.mem_append.mp member with early | late
      · exact List.mem_append_left _ early
      · exact List.mem_append_right _ (List.mem_cons_of_mem done late)
    obtain ⟨otherExtension, _, otherYielded⟩ := yielded other within
    have samePath := doneYielded.path_eq otherYielded resolved (same.trans resolved)
    rw [List.map_append, List.map_cons, List.nodup_middle, List.nodup_cons, ← List.map_append] at distinct
    apply distinct.1
    rw [samePath]
    exact List.mem_map_of_mem member
  · intro other member otherChanged same
    obtain ⟨_, _, otherYielded⟩ := yielded other (List.mem_append_left _ member)
    exact otherYielded.resolve_backup_ne (simple _ listed) (ne listed) doneYielded
      (same.trans resolved) resolved
  · intro other member otherChanged same
    obtain ⟨otherExtension, otherListed, otherYielded⟩ :=
      yielded other (List.mem_append_right _ (List.mem_cons_of_mem done member))
    exact doneYielded.resolve_backup_ne (simple _ otherListed) (ne otherListed) otherYielded
      backup (same.trans backup)

private theorem undisturbed_of_length_le_one {before after : List Outcome} {done : Outcome}
    (single : (before ++ done :: after).length ≤ 1) : Undisturbed tree before done after := by
  rw [List.length_append, List.length_cons] at single
  obtain rfl : before = [] := List.eq_nil_of_length_eq_zero (by omega)
  obtain rfl : after = [] := List.eq_nil_of_length_eq_zero (by omega)
  exact ⟨List.forall_mem_nil _, List.forall_mem_nil _, List.forall_mem_nil _⟩

theorem undisturbed_migratePath (wanted : job.write = true) (saving : job.backup = true)
    (simple : ∀ extension ∈ extensions, Simple extension) (distinct : extensions.Nodup)
    (unlike : ".bak".toList ∉ extensions) {before after : List Outcome} {done : Outcome}
    (finished : (migratePath strictness job tree root extensions).result = .ok (before ++ done :: after))
    (changed : done.outcome.changed = true) : Undisturbed tree before done after := by
  have visits := visits_migratePath wanted finished
  rcases migratePath_cases finished with ⟨paths, single, same⟩ | same
  · rw [same] at finished
    apply undisturbed_of_length_le_one
    rwa [← List.length_map Outcome.path, map_path_of_migrateAll finished]
  · rw [same] at finished
    obtain ⟨yielded, nodup⟩ := yielded_migrateBelow simple distinct finished
    exact undisturbed_of_yielded saving visits changed simple unlike yielded nodup

end Backups

/-- After a run that writes with backups, the backup of a changed file holds what the file has held before
the run if no other visit has disturbed the two. With simple extensions that are different from each other
and from that of the backups, no visit ever does. -/
theorem backup_holds_former {strictness : Strictness} {job : Job} {tree : Tree} {root : Path}
    {extensions : List Text} {outcomes : List Outcome} (wanted : job.write = true)
    (saving : job.backup = true)
    (finished : (migratePath strictness job tree root extensions).result = .ok outcomes) :
    (∀ before done after, outcomes = before ++ done :: after → done.outcome.changed = true →
      Undisturbed tree before done after →
      BackedUp tree (migratePath strictness job tree root extensions).tree done.path) ∧
    ((∀ extension ∈ extensions, Simple extension) → extensions.Nodup →
      ".bak".toList ∉ extensions → ∀ done ∈ outcomes, done.outcome.changed = true →
      BackedUp tree (migratePath strictness job tree root extensions).tree done.path) := by
  have visits := visits_migratePath wanted finished
  constructor
  · rintro before done after rfl changed undisturbed
    exact undisturbed.backedUp saving changed visits
  · intro simple distinct unlike done member changed
    obtain ⟨before, after, rfl⟩ := List.append_of_mem member
    have undisturbed := undisturbed_migratePath wanted saving simple distinct unlike finished changed
    exact undisturbed.backedUp saving changed visits

/-! ### A file that is visited twice -/

theorem migrateAll_singleton {job : Job} {tree : Tree} {path : Path} {done : Outcome}
    (here : (migrate job tree path).result = .ok done) :
    (migrateAll job tree [path]).result = .ok [done] ∧
      (migrateAll job tree [path]).tree = (migrate job tree path).tree :=
  migrateAll_cons here []

private theorem walked_sampleTree :
    sampleTree.withExtension .all .current ".m".toList = .ok [samplePath] ∧
      sampleTree.withExtension .all .current ".mm".toList = .ok [] := by
  decide +kernel

private theorem isFile_sampleTree : sampleTree.isFile .all .current = .ok false := by
  decide +kernel

private theorem visited_sampleTree {migrated : Text} {outcome : Source.Outcome}
    (rewritten : (Source.migrate .skip Source.nestedSource).result = .ok (migrated, outcome))
    (changed : outcome.changed = true) :
    (migrateAll (sampleJob false) sampleTree [samplePath]).result = .ok [⟨samplePath, outcome⟩] ∧
      Replaced (sampleJob false) sampleTree (migrateAll (sampleJob false) sampleTree [samplePath]).tree
        samplePath samplePlace (encode Source.nestedSource) (encode migrated) ∧
      ∀ extension ∈ Config.defaultExtensions, ∀ paths, sampleTree.withExtension .all .current extension = .ok paths →
        (migrateAll (sampleJob false) sampleTree [samplePath]).tree.withExtension .all .current extension =
          .ok paths := by
  have due : WriteDue (sampleJob false) sampleTree samplePath samplePlace
      (encode Source.nestedSource) migrated outcome :=
    ⟨fileAt_sampleTree.1, ⟨_, decode?_encode _, rewritten⟩, rfl, changed⟩
  obtain ⟨finished, replaced⟩ := (migrate_of_due due).1 storeAllowed_sampleTree
  obtain ⟨all, last⟩ := migrateAll_singleton finished
  rw [last]
  refine ⟨all, replaced, fun extension listed paths walked => ?_⟩
  have ofSources := ofSources_defaultExtensions extension listed
  exact Tree.withExtension_of_alike ofSources.simple
    ((visit_migrate rfl finished).alike ofSources).symm walked

private theorem exists_changed_twice :
    ∃ migrated outcome again later,
      (Source.migrate .skip Source.nestedSource).result = .ok (migrated, outcome) ∧
      outcome.changed = true ∧ migrated ≠ Source.nestedSource ∧
      (Source.migrate .skip migrated).result = .ok (again, later) ∧ later.changed = true := by
  obtain ⟨migrated, outcome, done, unstable⟩ := Source.exists_migrated_not_stable .skip
  obtain ⟨_, joined, lines, reported⟩ := Source.migrate_eq_of_ok done
  rw [Source.sections_nestedSource] at joined lines reported
  have short : ∀ line ∈ migrated.splitLines, line.length < Block.widthLimit := by
    rw [lines]
    decide +kernel
  obtain ⟨again, later, doneAgain⟩ := Source.exists_migrated_of_going short
    fun part _ => Edit.stops_eq_false_of_lenient (by decide : Policy.skip ≠ .error) part
  refine ⟨migrated, outcome, again, later, done, ?_, ?_, doneAgain,
    Source.changed_of_not_stable doneAgain unstable⟩
  · rw [reported]
    rfl
  · rw [joined]
    decide +kernel

theorem exists_migratePath_sampleTree :
    ∃ outcome, (migratePath .all (sampleJob false) sampleTree .current Config.defaultExtensions).result =
      .ok [⟨samplePath, outcome⟩] ∧ outcome.changed = true := by
  obtain ⟨migrated, outcome, rewritten, changed⟩ := exists_changed_nestedSource .skip
  obtain ⟨first, _, walkedAgain⟩ := visited_sampleTree rewritten changed
  refine ⟨outcome, ?_, changed⟩
  rw [migratePath, isFile_sampleTree]
  change (migrateBelow .all (sampleJob false) sampleTree .current [".m".toList, ".mm".toList]).result = _
  rw [(migrateBelow_cons walked_sampleTree.1 first _).1,
    (migrateBelow_cons (walkedAgain _ (by decide) _ walked_sampleTree.2) rfl []).1, (migrateBelow_nil ..).1]
  rfl

theorem backup_holds_former_sample :
    ∃ config outcomes, Config.load ⟨none, none, none, none⟩ = .ok config ∧
      (migratePath .all (sampleJob false) sampleTree .current config.extensions).result = .ok outcomes ∧
      (∃ done ∈ outcomes, done.outcome.changed = true) ∧ ∀ done ∈ outcomes, done.outcome.changed = true →
        BackedUp sampleTree (migratePath .all (sampleJob false) sampleTree .current config.extensions).tree
          done.path := by
  obtain ⟨outcome, finished, changed⟩ := exists_migratePath_sampleTree
  refine ⟨⟨.skip, Config.defaultExtensions, true, .warning⟩, _, by decide +kernel, finished,
    ⟨_, List.mem_singleton_self _, changed⟩, ?_⟩
  exact (backup_holds_former rfl rfl finished).2
    (fun extension listed => (ofSources_defaultExtensions extension listed).simple) (by decide) (by decide)

/-- A file that is visited twice can be changed twice, and the second backup replaces the first. -/
theorem repeated_extension_loses_former :
    ∃ environment config outcomes, Config.load environment = .ok config ∧
      (migratePath .all (sampleJob false) sampleTree .current config.extensions).result = .ok outcomes ∧
      ∃ done ∈ outcomes, done.outcome.changed = true ∧
        ¬ BackedUp sampleTree (migratePath .all (sampleJob false) sampleTree .current config.extensions).tree
          done.path := by
  obtain ⟨migrated, outcome, again, later, rewritten, changed, different, rewrittenAgain, changedAgain⟩ :=
    exists_changed_twice
  obtain ⟨first, replaced, walkedAgain⟩ := visited_sampleTree rewritten changed
  have due : WriteDue (sampleJob false) (migrateAll (sampleJob false) sampleTree [samplePath]).tree samplePath
      samplePlace (encode migrated) again later :=
    ⟨replaced.written, ⟨_, decode?_encode _, rewrittenAgain⟩, rfl, changedAgain⟩
  obtain ⟨finished, replacedAgain⟩ := (migrate_of_due due).1
    (storeAllowed_sampleTree.of_sameDirectories replaced.directories)
  obtain ⟨second, visitedAgain⟩ := migrateAll_singleton finished
  have begun : migratePath .all (sampleJob false) sampleTree .current [".m".toList, ".m".toList] =
      migrateBelow .all (sampleJob false) sampleTree .current [".m".toList, ".m".toList] := by
    rw [migratePath, isFile_sampleTree]
  obtain ⟨result, tree⟩ := migrateBelow_cons walked_sampleTree.1 first [".m".toList]
  obtain ⟨resultAgain, treeAgain⟩ := migrateBelow_cons
    (walkedAgain _ (by decide) _ walked_sampleTree.1) second []
  rw [resultAgain, (migrateBelow_nil ..).1] at result
  rw [treeAgain, (migrateBelow_nil ..).2] at tree
  refine ⟨⟨none, some ".m,.m".toList, none, none⟩,
    ⟨.skip, [".m".toList, ".m".toList], true, .warning⟩, [⟨samplePath, outcome⟩, ⟨samplePath, later⟩],
    by decide +kernel, ?_, ⟨samplePath, outcome⟩, List.mem_cons_self, changed, ?_⟩
  · rw [begun]
    exact result
  · rintro ⟨content, before, after⟩
    rw [begun, tree] at after
    have former := Tree.read_eq_ok_iff.mpr ⟨_, fileAt_sampleTree.1⟩
    have saved := Tree.read_eq_ok_iff.mpr ⟨_, replacedAgain.saved rfl⟩
    rw [← visitedAgain] at saved
    rw [saved] at after
    rw [former] at before
    have same : encode migrated = encode Source.nestedSource :=
      (Except.ok.inj after).trans (Except.ok.inj before).symm
    have decoded := decode?_encode migrated
    rw [same, decode?_encode] at decoded
    exact different (Option.some.inj decoded).symm

end AlertMigration.File
