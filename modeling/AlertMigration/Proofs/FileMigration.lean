import AlertMigration.Proofs.SecondMigration
import AlertMigration.Proofs.TreeLookup

/-!
What the migration of one file does to a tree.

Either the file holds its migrated text, with its former content beside it if a backup was wanted
(`store_of_allowed`), or it holds what it has held (`store_of_not_allowed`). Nothing but the file, its backup
and its temporary file is ever touched, and the temporary file does not stay.
-/

namespace AlertMigration.File

/-! ### Text and bytes -/

theorem encode_of_decode? {content : ByteArray} {text : Text} (decoded : decode? content = some text) :
    encode text = content := by
  obtain ⟨string, valid, rfl⟩ := Option.map_eq_some_iff.mp decoded
  rw [encode, String.ofList_toList]
  unfold String.fromUTF8? at valid
  split at valid
  · cases valid
    rfl
  · cases valid

theorem decode?_encode (text : Text) : decode? (encode text) = some text := by
  have valid : (encode text).IsValidUTF8 := (String.ofList text).isValidUTF8
  rw [decode?, String.fromUTF8?, dif_pos valid]
  exact congrArg some (String.toList_ofList)

/-! ### Writing to a tree -/

namespace Location

def backup (place : Location) : Location :=
  place.beside ".bak".toList

def temporary (place : Location) : Location :=
  place.beside ".tmp".toList

section Beside

variable (place other : Location)

theorem backup_ne_self : place.backup ≠ place :=
  beside_ne_self (by decide)

theorem temporary_ne_self : place.temporary ≠ place :=
  beside_ne_self (by decide)

theorem backup_ne_temporary : place.backup ≠ other.temporary :=
  beside_ne_beside (by decide) (by decide)

end Beside

end Location

namespace Tree

def Writable (tree : Tree) (path : Path) : Prop :=
  ∃ place, tree.resolve path = .ok place ∧ tree.lookup place ≠ some .directory

theorem Writable.of_sameDirectories {tree edited : Tree} (same : SameDirectories tree edited) {path : Path}
    (writable : tree.Writable path) : edited.Writable path := by
  obtain ⟨place, resolved, free⟩ := writable
  exact ⟨place, resolve_of_sameDirectories same resolved,
    fun directory => free ((same.lookup_iff place).mp directory)⟩

section Write

variable {tree : Tree} {path : Path} {place : Location}

theorem FileAt.writable {content : ByteArray} (file : FileAt tree path place content) :
    tree.Writable path :=
  ⟨place, file.resolved, file.not_directory⟩

theorem write_eq (resolved : tree.resolve path = .ok place) (fits : tree.Fits place) (content : ByteArray) :
    tree.write path content = .ok (tree.insert place (.file content) fits) := by
  unfold write
  split
  · rename_i failed
    rw [resolved] at failed
    cases failed
  · rename_i location found
    rw [resolved] at found
    cases found
    rw [dif_neg fits.free]

theorem exists_write_eq_error (refused : ¬ tree.Writable path) (content : ByteArray) :
    ∃ error, tree.write path content = .error error := by
  unfold write
  split
  · exact ⟨_, rfl⟩
  · rename_i place resolved
    split
    · exact ⟨_, rfl⟩
    · rename_i free
      exact absurd ⟨place, resolved, free⟩ refused

theorem discard_of_not_writable (refused : ¬ tree.Writable path) {cleared : Tree}
    (discarded : tree.discard path = .ok cleared) : cleared = tree := by
  unfold discard at discarded
  split at discarded
  · cases discarded
    rfl
  · cases discarded
  · rename_i place resolved
    split at discarded
    · cases discarded
      rfl
    · split at discarded
      · cases discarded
      · rename_i free
        exact absurd ⟨place, resolved, free⟩ refused

theorem discard_eq {content : ByteArray} (file : FileAt tree path place content) :
    tree.discard path = .ok (tree.erase place file.not_directory) := by
  unfold discard
  rw [file.resolved]
  have present : tree.lookup place ≠ none := by
    rw [file.found]
    exact Option.some_ne_none _
  simp only [if_neg present, dif_neg file.not_directory]

theorem sameDirectories_insert (fits : tree.Fits place) (content : ByteArray) :
    SameDirectories tree (tree.insert place (.file content) fits) := by
  refine ⟨rfl, fun other => ?_⟩
  rw [lookup_insert]
  split
  · rename_i same
    rw [same]
    exact iff_of_false (fun directory => by cases directory) fits.free
  · exact Iff.rfl

theorem sameDirectories_erase (free : tree.lookup place ≠ some .directory) :
    SameDirectories tree (tree.erase place free) := by
  refine ⟨rfl, fun other => ?_⟩
  rw [lookup_erase]
  split
  · rename_i same
    rw [same]
    exact iff_of_false (fun directory => by cases directory) free
  · exact Iff.rfl

theorem FileAt.edited {content later : ByteArray} {edited : Tree} (file : FileAt tree path place content)
    (same : SameDirectories tree edited) (found : edited.lookup place = some (.file later)) :
    FileAt edited path place later :=
  ⟨resolve_of_sameDirectories same file.resolved, found⟩

theorem rename_eq {target : Path} {old new : Location} {content former : ByteArray}
    (source : FileAt tree path old content) (file : FileAt tree target new former)
    (fits : (tree.erase old source.not_directory).Fits new) :
    tree.rename path target = .ok ((tree.erase old source.not_directory).insert new (.file content) fits) := by
  unfold rename
  rw [source.resolved]
  dsimp only
  split
  · rename_i missing
    rw [source.found] at missing
    cases missing
  · rename_i directory
    exact absurd directory source.not_directory
  · rename_i other found
    rw [source.found] at found
    cases found
    split
    · rename_i failed
      rw [file.resolved] at failed
      cases failed
    · rename_i location resolved
      rw [file.resolved] at resolved
      cases resolved
      rw [dif_neg file.not_directory]

end Write

end Tree

open File.Tree (FileAt SameDirectories)

/-! ### The temporary file -/

section Swap

variable {job : Job} {tree : Tree} {path : Path} {place : Location} {former : ByteArray}

private theorem swap_of_not_writable (job : Job) (refused : ¬ tree.Writable path.temporary)
    (content : ByteArray) :
    ∃ error, swap job tree path content = (.error error, tree) := by
  obtain ⟨error, failed⟩ := Tree.exists_write_eq_error refused content
  unfold swap abandon
  rw [failed]
  cases discarded : tree.discard path.temporary with
  | error later => exact ⟨later, rfl⟩
  | ok cleared =>
      rw [Tree.discard_of_not_writable refused discarded]
      exact ⟨error, rfl⟩

variable (file : FileAt tree path place former) (writable : tree.Writable path.temporary)

include file writable

private theorem exists_write_temporary (content : ByteArray) :
    ∃ written, tree.write path.temporary content = .ok written ∧ SameDirectories tree written ∧
      FileAt written path.temporary place.temporary content ∧ FileAt written path place former ∧
      ∀ other, written.lookup other =
        if other = place.temporary then some (.file content) else tree.lookup other := by
  obtain ⟨spare, resolved, free⟩ := writable
  obtain rfl : spare = place.temporary := file.resolve_withEnding (by decide) resolved
  have fits := Tree.fits_of_resolve resolved free
  have same := Tree.sameDirectories_insert fits content
  have found := tree.lookup_insert place.temporary (.file content) fits
  refine ⟨_, Tree.write_eq resolved fits content, same, ⟨Tree.resolve_of_sameDirectories same resolved, ?_⟩,
    file.edited same ?_, found⟩
  · rw [found, if_pos rfl]
  · rw [found, if_neg place.temporary_ne_self.symm]
    exact file.found

private theorem swap_of_refused (refused : job.renameRefused = true) (content : ByteArray) :
    ∃ last, swap job tree path content = (.error .renameRefused, last) ∧ SameDirectories tree last ∧
      ∀ other, last.lookup other = if other = place.temporary then none else tree.lookup other := by
  obtain ⟨written, done, same, spare, _, found⟩ := exists_write_temporary file writable content
  refine ⟨written.erase place.temporary spare.not_directory, ?_,
    same.trans (Tree.sameDirectories_erase spare.not_directory), ?_⟩
  · unfold swap abandon
    rw [done]
    simp only [refused, if_true, Tree.discard_eq spare]
  · intro other
    rw [Tree.lookup_erase, found]
    split
    · rfl
    · rfl

private theorem swap_of_permitted (permitted : job.renameRefused = false) (content : ByteArray) :
    ∃ last, swap job tree path content = (.ok (), last) ∧ SameDirectories tree last ∧
      ∀ other, last.lookup other = if other = place then some (.file content)
        else if other = place.temporary then none else tree.lookup other := by
  obtain ⟨written, done, same, spare, target, found⟩ := exists_write_temporary file writable content
  have fits := (Tree.fits_of_resolve target.resolved target.not_directory).erase spare.not_directory
  refine ⟨_, ?_, (same.trans (Tree.sameDirectories_erase spare.not_directory)).trans
    (Tree.sameDirectories_insert fits content), ?_⟩
  · unfold swap
    rw [done]
    simp only [permitted, Bool.false_eq_true, if_false, Tree.rename_eq spare target fits]
  · intro other
    rw [Tree.lookup_insert, Tree.lookup_erase, found]
    split
    · rfl
    · split
      · rfl
      · rfl

end Swap

/-! ### Writing a migrated file -/

structure StoreAllowed (job : Job) (tree : Tree) (path : Path) : Prop where
  backup : job.backup = true → tree.Writable path.backup
  temporary : tree.Writable path.temporary
  permitted : job.renameRefused = false

theorem StoreAllowed.of_sameDirectories {job : Job} {tree edited : Tree} {path : Path}
    (same : SameDirectories tree edited) (allowed : StoreAllowed job tree path) :
    StoreAllowed job edited path :=
  ⟨fun wanted => (allowed.backup wanted).of_sameDirectories same,
    allowed.temporary.of_sameDirectories same, allowed.permitted⟩

/-- What is found after a file has been written. -/
structure Replaced (job : Job) (tree last : Tree) (path : Path) (place : Location)
    (former migrated : ByteArray) : Prop where
  directories : SameDirectories tree last
  written : FileAt last path place migrated
  saved : job.backup = true → FileAt last path.backup place.backup former
  unsaved : job.backup = false → last.lookup place.backup = tree.lookup place.backup
  cleared : last.lookup place.temporary = none
  elsewhere : ∀ other, other ≠ place → other ≠ place.backup → other ≠ place.temporary →
    last.lookup other = tree.lookup other

/-- What is found after the write of a file has failed. -/
structure Abandoned (job : Job) (tree last : Tree) (path : Path) (place : Location)
    (former : ByteArray) : Prop where
  directories : SameDirectories tree last
  kept : FileAt last path place former
  cleared : (job.backup = true → tree.Writable path.backup) →
    ∀ content, last.read path.temporary ≠ .ok content
  elsewhere : ∀ other, other ≠ place.backup → other ≠ place.temporary →
    last.lookup other = tree.lookup other

/-- The tree between the two stages of a write: only a backup may have been added. -/
structure Saved (job : Job) (tree saved : Tree) (path : Path) (place : Location)
    (former : ByteArray) : Prop where
  kept : FileAt saved path place former
  directories : SameDirectories tree saved
  backup : job.backup = true → FileAt saved path.backup place.backup former
  unsaved : job.backup = false → saved = tree
  elsewhere : ∀ other, other ≠ place.backup → saved.lookup other = tree.lookup other

section Store

variable {job : Job} {tree : Tree} {path : Path} {place : Location} {former : ByteArray}

private theorem exists_saveBackup_eq_error (wanted : job.backup = true)
    (refused : ¬ tree.Writable path.backup)
    (content : ByteArray) : ∃ error, saveBackup job tree path content = .error error := by
  obtain ⟨error, failed⟩ := Tree.exists_write_eq_error refused content
  refine ⟨error, ?_⟩
  rw [saveBackup, if_pos wanted, failed]
  rfl

theorem saveBackup_eq_ok (file : FileAt tree path place former)
    (allowed : job.backup = true → tree.Writable path.backup) :
    ∃ saved log, saveBackup job tree path former = .ok (saved, log) ∧
      Saved job tree saved path place former := by
  by_cases wanted : job.backup = true
  · obtain ⟨spot, resolved, free⟩ := allowed wanted
    obtain rfl : spot = place.backup := file.resolve_withEnding (by decide) resolved
    have fits := Tree.fits_of_resolve resolved free
    have same := Tree.sameDirectories_insert fits former
    have found := tree.lookup_insert place.backup (.file former) fits
    have others : ∀ other, other ≠ place.backup →
        (tree.insert place.backup (.file former) fits).lookup other = tree.lookup other := by
      intro other different
      rw [found, if_neg different]
    have saving : ∃ log, saveBackup job tree path former =
        .ok (tree.insert place.backup (.file former) fits, log) := by
      rw [saveBackup, if_pos wanted, Tree.write_eq resolved fits former]
      exact ⟨_, rfl⟩
    obtain ⟨log, saving⟩ := saving
    refine ⟨_, log, saving, ?_, same, ?_, ?_, others⟩
    · exact file.edited same ((others place place.backup_ne_self.symm).trans file.found)
    · intro _
      refine ⟨Tree.resolve_of_sameDirectories same resolved, ?_⟩
      rw [found, if_pos rfl]
    · intro unwanted
      rw [unwanted] at wanted
      cases wanted
  · refine ⟨tree, [], ?_, file, .refl tree, ?_, fun _ => rfl, fun _ _ => rfl⟩
    · rw [saveBackup, if_neg wanted]
    · exact fun backup => absurd backup wanted

theorem Saved.writable {saved : Tree} (stage : Saved job tree saved path place former) {other : Path} :
    saved.Writable other ↔ tree.Writable other :=
  ⟨.of_sameDirectories stage.directories.symm, .of_sameDirectories stage.directories⟩

theorem Saved.replaced {saved last : Tree} (stage : Saved job tree saved path place former)
    {migrated : ByteArray} (same : SameDirectories saved last)
    (swapped : ∀ other, last.lookup other = if other = place then some (.file migrated)
      else if other = place.temporary then none else saved.lookup other) :
    Replaced job tree last path place former migrated := by
  have atBackup : last.lookup place.backup = saved.lookup place.backup := by
    rw [swapped, if_neg place.backup_ne_self, if_neg (place.backup_ne_temporary place)]
  constructor
  · exact stage.directories.trans same
  · apply stage.kept.edited same
    rw [swapped, if_pos rfl]
  · intro wanted
    exact (stage.backup wanted).edited same (atBackup.trans (stage.backup wanted).found)
  · intro unwanted
    rw [atBackup, stage.unsaved unwanted]
  · rw [swapped, if_neg place.temporary_ne_self, if_pos rfl]
  · intro other target backup temporary
    rw [swapped, if_neg target, if_neg temporary]
    exact stage.elsewhere other backup

theorem Saved.abandoned {saved last : Tree} (stage : Saved job tree saved path place former)
    (same : SameDirectories saved last)
    (kept : ∀ other, other ≠ place.temporary → last.lookup other = saved.lookup other)
    (cleared : last.resolve path.temporary = .ok place.temporary →
      ∀ content, last.lookup place.temporary ≠ some (.file content)) :
    Abandoned job tree last path place former := by
  have file : FileAt last path place former :=
    stage.kept.edited same ((kept place place.temporary_ne_self.symm).trans stage.kept.found)
  constructor
  · exact stage.directories.trans same
  · exact file
  · intro _ content done
    obtain ⟨spare, temporary⟩ := Tree.read_eq_ok_iff.mp done
    obtain rfl : spare = place.temporary := file.resolve_withEnding (by decide) temporary.resolved
    exact cleared temporary.resolved content temporary.found
  · intro other backup temporary
    rw [kept other temporary]
    exact stage.elsewhere other backup

theorem store_of_allowed {source : Text} (file : FileAt tree path place (encode source))
    (allowed : StoreAllowed job tree path) (migrated : Text) (converted : Nat) :
    ∃ last log, store job tree path source migrated converted = ⟨.ok (), last, log⟩ ∧
      Replaced job tree last path place (encode source) (encode migrated) := by
  obtain ⟨saved, log, saving, stage⟩ := saveBackup_eq_ok file allowed.backup
  obtain ⟨last, swapping, same, swapped⟩ :=
    swap_of_permitted stage.kept (stage.writable.mpr allowed.temporary) allowed.permitted (encode migrated)
  unfold store
  rw [saving]
  simp only [swapping]
  exact ⟨_, _, rfl, stage.replaced same swapped⟩

theorem store_of_not_allowed {source : Text} (file : FileAt tree path place (encode source))
    (refused : ¬ StoreAllowed job tree path) (migrated : Text) (converted : Nat) :
    ∃ error last log, store job tree path source migrated converted = ⟨.error (.file error), last, log⟩ ∧
      Abandoned job tree last path place (encode source) := by
  unfold store
  by_cases backup : job.backup = true → tree.Writable path.backup
  · obtain ⟨saved, log, saving, stage⟩ := saveBackup_eq_ok file backup
    rw [saving]
    by_cases temporary : tree.Writable path.temporary
    · have renameRefused : job.renameRefused = true := by
        apply Bool.of_not_eq_false
        exact fun permitted => refused ⟨backup, temporary, permitted⟩
      obtain ⟨last, swapping, same, swapped⟩ :=
        swap_of_refused stage.kept (stage.writable.mpr temporary) renameRefused (encode migrated)
      simp only [swapping]
      refine ⟨_, last, log, rfl, stage.abandoned same ?_ ?_⟩
      · intro other different
        rw [swapped, if_neg different]
      · intro _ content found
        rw [swapped, if_pos rfl] at found
        cases found
    · have unwritable := fun also => temporary (stage.writable.mp also)
      obtain ⟨error, swapping⟩ := swap_of_not_writable job unwritable (encode migrated)
      simp only [swapping]
      refine ⟨error, _, log, rfl, stage.abandoned (.refl _) (fun _ _ => rfl) ?_⟩
      intro resolved content found
      exact unwritable (FileAt.writable ⟨resolved, found⟩)
  · obtain ⟨wanted, unwritable⟩ := Classical.not_imp.mp backup
    obtain ⟨error, saving⟩ := exists_saveBackup_eq_error wanted unwritable (encode source)
    rw [saving]
    exact ⟨error, tree, [], rfl, .refl tree, file, fun allowed => absurd allowed backup, fun _ _ _ => rfl⟩

end Store

/-! ### Migrating a file -/

/-- A file is to be written: it can be read as text, and its migration succeeds with a change. -/
structure WriteDue (job : Job) (tree : Tree) (path : Path) (place : Location) (former : ByteArray)
    (migrated : Text) (outcome : Source.Outcome) : Prop where
  file : FileAt tree path place former
  rewritten : ∃ source, decode? former = some source ∧
    (Source.migrate job.policy source).result = .ok (migrated, outcome)
  wanted : job.write = true
  changed : outcome.changed = true

section Migrate

variable {job : Job} {tree : Tree} {path : Path}

theorem migrate_of_not_due
    (idle : ∀ place former migrated outcome, ¬ WriteDue job tree path place former migrated outcome) :
    (migrate job tree path).tree = tree ∧
      ∀ done, (migrate job tree path).result = .ok done →
        done.path = path ∧ ¬ (job.write = true ∧ done.outcome.changed = true) := by
  unfold migrate
  split
  · exact ⟨rfl, fun done failed => by cases failed⟩
  · rename_i former readable
    split
    · exact ⟨rfl, fun done failed => by cases failed⟩
    · rename_i source decoded
      dsimp only
      split
      · exact ⟨rfl, fun done failed => by cases failed⟩
      · rename_i migrated outcome rewritten
        obtain ⟨place, file⟩ := Tree.read_eq_ok_iff.mp readable
        have unwanted : ¬ (job.write = true ∧ outcome.changed = true) := fun ⟨wanted, changed⟩ =>
          idle place former migrated outcome ⟨file, ⟨source, decoded, rewritten⟩, wanted, changed⟩
        rw [if_neg (fun both => unwanted (Bool.and_eq_true_iff.mp both))]
        refine ⟨rfl, fun done finished => ?_⟩
        cases finished
        exact ⟨rfl, unwanted⟩

section Read

variable {content : ByteArray} {source : Text} (readable : tree.read path = .ok content)
  (decoded : decode? content = some source)

include readable decoded

theorem migrate_of_idle {migrated : Text} {outcome : Source.Outcome}
    (rewritten : (Source.migrate job.policy source).result = .ok (migrated, outcome))
    (idle : (job.write && outcome.changed) = false) :
    (migrate job tree path).result = .ok ⟨path, outcome⟩ ∧ (migrate job tree path).tree = tree := by
  unfold migrate
  simp only [readable, decoded, rewritten, idle, Bool.false_eq_true, if_false, and_self]

theorem migrate_of_stopped {error : Edit.Error}
    (stopped : (Source.migrate job.policy source).result = .error error) :
    (migrate job tree path).result = .error (.edit path error) ∧ (migrate job tree path).tree = tree := by
  unfold migrate
  simp only [readable, decoded, stopped, and_self]

end Read

variable {place : Location} {former : ByteArray} {migrated : Text} {outcome : Source.Outcome}

theorem migrate_of_due (due : WriteDue job tree path place former migrated outcome) :
    (StoreAllowed job tree path → (migrate job tree path).result = .ok ⟨path, outcome⟩ ∧
      Replaced job tree (migrate job tree path).tree path place former (encode migrated)) ∧
    (¬ StoreAllowed job tree path → (∃ error, (migrate job tree path).result = .error (.file error)) ∧
      Abandoned job tree (migrate job tree path).tree path place former) := by
  obtain ⟨file, ⟨source, decoded, rewritten⟩, wanted, changed⟩ := due
  have readable := Tree.read_eq_ok_iff.mpr ⟨place, file⟩
  unfold migrate
  simp only [readable, decoded, rewritten, wanted, changed, Bool.and_self, if_true]
  obtain rfl := encode_of_decode? decoded
  refine ⟨fun allowed => ?_, fun refused => ?_⟩
  · obtain ⟨last, log, stored, replaced⟩ := store_of_allowed file allowed migrated outcome.converted
    rw [stored]
    exact ⟨rfl, replaced⟩
  · obtain ⟨error, last, log, stored, abandoned⟩ :=
      store_of_not_allowed file refused migrated outcome.converted
    rw [stored]
    exact ⟨⟨error, rfl⟩, abandoned⟩

theorem allowed_of_migrate_eq_ok (due : WriteDue job tree path place former migrated outcome)
    {done : Outcome} (finished : (migrate job tree path).result = .ok done) :
    StoreAllowed job tree path ∧ done = ⟨path, outcome⟩ := by
  obtain ⟨written, failed⟩ := migrate_of_due due
  by_cases allowed : StoreAllowed job tree path
  · refine ⟨allowed, ?_⟩
    have same := (written allowed).1
    rw [finished] at same
    exact Except.ok.inj same
  · obtain ⟨⟨error, stopped⟩, _⟩ := failed allowed
    rw [finished] at stopped
    cases stopped

theorem path_of_migrate_eq_ok {done : Outcome} (finished : (migrate job tree path).result = .ok done) :
    done.path = path := by
  by_cases idle : ∀ place former migrated outcome, ¬ WriteDue job tree path place former migrated outcome
  · exact ((migrate_of_not_due idle).2 done finished).1
  · push Not at idle
    obtain ⟨place, former, migrated, outcome, due⟩ := idle
    rw [(allowed_of_migrate_eq_ok due finished).2]

theorem exists_due_of_changed {done : Outcome} (finished : (migrate job tree path).result = .ok done)
    (wanted : job.write = true) (changed : done.outcome.changed = true) :
    ∃ place former migrated, WriteDue job tree path place former migrated done.outcome ∧ done.path = path ∧
      Replaced job tree (migrate job tree path).tree path place former (encode migrated) := by
  by_cases idle : ∀ place former migrated outcome, ¬ WriteDue job tree path place former migrated outcome
  · exact absurd ⟨wanted, changed⟩ ((migrate_of_not_due idle).2 done finished).2
  · push Not at idle
    obtain ⟨place, former, migrated, outcome, due⟩ := idle
    obtain ⟨allowed, rfl⟩ := allowed_of_migrate_eq_ok due finished
    exact ⟨place, former, migrated, due, rfl, ((migrate_of_due due).1 allowed).2⟩

end Migrate

/-- The migration of a file replaces it or leaves it alone. If there is nothing to write, the tree stays as
it is; otherwise the file is written exactly if nothing stands in the way, and a write that fails leaves the
file as it was. -/
theorem migrate_all_or_nothing (job : Job) (tree : Tree) (path : Path) :
    ((∀ place former migrated outcome, ¬ WriteDue job tree path place former migrated outcome) →
      (migrate job tree path).tree = tree) ∧
    (∀ done, (migrate job tree path).result = .ok done → job.write = true → done.outcome.changed = true →
      ∃ place former migrated, WriteDue job tree path place former migrated done.outcome ∧ done.path = path ∧
        Replaced job tree (migrate job tree path).tree path place former (encode migrated)) ∧
    ∀ place former migrated outcome, WriteDue job tree path place former migrated outcome →
      (StoreAllowed job tree path → (migrate job tree path).result = .ok ⟨path, outcome⟩) ∧
      (¬ StoreAllowed job tree path → (∃ error, (migrate job tree path).result = .error (.file error)) ∧
        Abandoned job tree (migrate job tree path).tree path place former) := by
  refine ⟨fun idle => (migrate_of_not_due idle).1, fun done => exists_due_of_changed, ?_⟩
  intro place former migrated outcome due
  obtain ⟨written, failed⟩ := migrate_of_due due
  exact ⟨fun allowed => (written allowed).1, failed⟩

/-! ### A file to be written -/

theorem exists_changed_nestedSource (policy : Policy) :
    ∃ migrated outcome, (Source.migrate policy Source.nestedSource).result = .ok (migrated, outcome) ∧
      outcome.changed = true := by
  obtain ⟨migrated, outcome, done⟩ := Source.exists_migrated_nestedSource policy
  obtain ⟨_, _, _, rfl⟩ := Source.migrate_eq_of_ok done
  refine ⟨migrated, _, done, ?_⟩
  rw [Source.sections_nestedSource]
  rfl

private theorem migrate_sampleCall :
    (Source.migrate .error (Edit.sampleCall [])).result = .error (.unterminatedBlock 1) := by
  obtain ⟨short, located⟩ :
      (∀ line ∈ (Edit.sampleCall []).splitLines, line.length < Block.widthLimit) ∧
        positions Edit.Section.isUnclosed 0 (Edit.sections (Edit.sampleCall []).splitLines) = [0] := by
    decide +kernel
  apply Source.result_migrate_of_error
  rcases Edit.result_error_cases short with ⟨none, _⟩ | ⟨first, later, found, stopped⟩
  · rw [located] at none
    cases none
  · rw [located] at found
    cases found
    exact stopped

theorem migrate_of_sampleCall (job : Job) {tree : Tree} {path : Path} {place : Location}
    (strict : job.policy = .error) (file : FileAt tree path place (encode (Edit.sampleCall []))) :
    (migrate job tree path).result = .error (.edit path (.unterminatedBlock 1)) ∧
      (migrate job tree path).tree = tree := by
  have unclosed := migrate_sampleCall
  rw [← strict] at unclosed
  exact migrate_of_stopped (Tree.read_eq_ok_iff.mpr ⟨place, file⟩) (decode?_encode _) unclosed

def workplace : Location :=
  ["work".toList]

def Tree.ofFiles (files : List (Text × ByteArray)) (distinct : (files.map Prod.fst).Nodup)
    (named : ∀ file ∈ files, isEntryName file.1 = true) : Tree where
  entries := (workplace, .directory) :: files.map fun file => (workplace ++ [file.1], .file file.2)
  workingDirectory := workplace
  distinct := by
    rw [List.map_cons, List.map_map, List.nodup_cons]
    constructor
    · intro member
      obtain ⟨file, _, same⟩ := List.mem_map.mp member
      exact absurd (List.append_right_eq_self.mp same) (List.cons_ne_nil _ _)
    · rw [show (Prod.fst ∘ fun file : Text × ByteArray => (workplace ++ [file.1], Entry.file file.2)) =
        (fun name => workplace ++ [name]) ∘ Prod.fst from rfl, ← List.map_map]
      exact distinct.map fun name other same => List.singleton_inj.mp (List.append_cancel_left same)
  named := by
    intro entry member
    rcases List.mem_cons.mp member with rfl | member
    · decide +kernel
    · obtain ⟨file, listed, rfl⟩ := List.mem_map.mp member
      refine ⟨List.cons_ne_nil _ _, ?_⟩
      rw [List.all_append, List.all_cons, named file listed]
      decide +kernel
  housed := by
    intro entry member
    rcases List.mem_cons.mp member with rfl | member
    · rfl
    · obtain ⟨file, _, rfl⟩ := List.mem_map.mp member
      rw [List.dropLast_concat]
      rfl
  home := rfl

theorem Tree.lookup_ofFiles {files : List (Text × ByteArray)} {distinct : (files.map Prod.fst).Nodup}
    {named : ∀ file ∈ files, isEntryName file.1 = true} {name : Text} {content : ByteArray}
    (member : (name, content) ∈ files) :
    (ofFiles files distinct named).lookup (workplace ++ [name]) = some (.file content) :=
  lookup_of_mem (List.mem_cons_of_mem _ (List.mem_map.mpr ⟨_, member, rfl⟩))

def samplePath : Path :=
  ⟨[], ["a.m".toList]⟩

def rootedPath : Path :=
  ⟨['/'], ["work".toList, "a.m".toList]⟩

def samplePlace : Location :=
  workplace ++ ["a.m".toList]

def sampleJob (renameRefused : Bool) : Job :=
  ⟨.skip, true, true, renameRefused⟩

def sampleTree : Tree :=
  .ofFiles [("a.m".toList, encode Source.nestedSource)] (by decide +kernel) (by decide +kernel)

theorem fileAt_sampleTree :
    FileAt sampleTree samplePath samplePlace (encode Source.nestedSource) ∧
      FileAt sampleTree rootedPath samplePlace (encode Source.nestedSource) :=
  ⟨⟨by decide +kernel, Tree.lookup_ofFiles List.mem_cons_self⟩,
    ⟨by decide +kernel, Tree.lookup_ofFiles List.mem_cons_self⟩⟩

theorem storeAllowed_sampleTree : StoreAllowed (sampleJob false) sampleTree samplePath :=
  ⟨fun _ => ⟨samplePlace.backup, by decide +kernel, by decide +kernel⟩,
    ⟨samplePlace.temporary, by decide +kernel, by decide +kernel⟩, rfl⟩

/-- With a disk that renames, the file of the sample is replaced; with one that refuses to, it is kept,
here with the path from the root. -/
theorem migrate_all_or_nothing_sample :
    (∃ place former migrated outcome,
      WriteDue (sampleJob false) sampleTree samplePath place former migrated outcome ∧
      Replaced (sampleJob false) sampleTree
        (migrate (sampleJob false) sampleTree samplePath).tree samplePath place former
        (encode migrated)) ∧
    ∃ place former migrated outcome,
      WriteDue (sampleJob true) sampleTree rootedPath place former migrated outcome ∧
      Abandoned (sampleJob true) sampleTree
        (migrate (sampleJob true) sampleTree rootedPath).tree rootedPath place former := by
  obtain ⟨migrated, outcome, rewritten, changed⟩ := exists_changed_nestedSource .skip
  obtain ⟨_, written, permitted⟩ := migrate_all_or_nothing (sampleJob false) sampleTree samplePath
  obtain ⟨_, _, refused⟩ := migrate_all_or_nothing (sampleJob true) sampleTree rootedPath
  constructor
  · have due : WriteDue (sampleJob false) sampleTree samplePath samplePlace
        (encode Source.nestedSource) migrated outcome :=
      ⟨fileAt_sampleTree.1, ⟨_, decode?_encode _, rewritten⟩, rfl, changed⟩
    have finished := (permitted _ _ _ _ due).1 storeAllowed_sampleTree
    obtain ⟨place, former, migrated, written, _, replaced⟩ := written _ finished rfl changed
    exact ⟨place, former, migrated, _, written, replaced⟩
  · have due : WriteDue (sampleJob true) sampleTree rootedPath samplePlace
        (encode Source.nestedSource) migrated outcome :=
      ⟨fileAt_sampleTree.2, ⟨_, decode?_encode _, rewritten⟩, rfl, changed⟩
    have unable : ¬ StoreAllowed (sampleJob true) sampleTree rootedPath :=
      fun allowed => by cases allowed.permitted
    exact ⟨_, _, _, _, due, ((refused _ _ _ _ due).2 unable).2⟩

end AlertMigration.File
