import AlertMigration.Proofs.Backups

/-!
A dry run tells what a run that writes will return.

The migration of a file is settled by what is read from it (`exists_of_migrate_eq_ok`, `migrate_of_dry`). A
run that writes reads each file as it has been at the beginning: what it has written so far is the files
already visited, their backups and their temporary files, and with the extensions of sources none of these
is still to be visited.
-/

namespace AlertMigration.File

open File.Tree (FileAt SameDirectories Alike)

/-! ### The migration of a file without writing it -/

def Job.dry (job : Job) : Job :=
  { job with write := false }

section Dry

variable {job : Job} {tree : Tree} {path : Path}

theorem exists_of_migrate_eq_ok {done : Outcome} (finished : (migrate job tree path).result = .ok done) :
    ∃ content source migrated, tree.read path = .ok content ∧ decode? content = some source ∧
      (Source.migrate job.policy source).result = .ok (migrated, done.outcome) ∧ done.path = path := by
  unfold migrate at finished
  split at finished
  · cases finished
  · rename_i content readable
    split at finished
    · cases finished
    · rename_i source decoded
      dsimp only at finished
      split at finished
      · cases finished
      · rename_i migrated outcome rewritten
        split at finished
        · obtain ⟨_, _, rfl⟩ := map_eq_ok_iff.mp finished
          exact ⟨content, source, migrated, readable, decoded, rewritten, rfl⟩
        · cases finished
          exact ⟨content, source, migrated, readable, decoded, rewritten, rfl⟩

theorem migrate_of_dry (idle : job.write = false) {content : ByteArray} {source migrated : Text}
    {outcome : Source.Outcome} (readable : tree.read path = .ok content)
    (decoded : decode? content = some source)
    (rewritten : (Source.migrate job.policy source).result = .ok (migrated, outcome)) :
    (migrate job tree path).result = .ok ⟨path, outcome⟩ :=
  (migrate_of_idle readable decoded rewritten (by rw [idle, Bool.false_and])).1

private theorem migrate_dry_of_read {edited : Tree} {done : Outcome}
    (finished : (migrate job edited path).result = .ok done)
    (same : ∀ content, edited.read path = .ok content → tree.read path = .ok content) :
    (migrate job.dry tree path).result = .ok done := by
  obtain ⟨content, source, migrated, readable, decoded, rewritten, rfl⟩ := exists_of_migrate_eq_ok finished
  exact migrate_of_dry (rfl : job.dry.write = false) (same content readable) decoded rewritten

theorem tree_migrate_of_dry (idle : job.write = false) : (migrate job tree path).tree = tree := by
  refine (migrate_of_not_due fun place former migrated outcome due => ?_).1
  have wanted := due.wanted
  rw [idle] at wanted
  cases wanted

theorem migrateAll_of_dry (idle : job.write = false) {paths : List Path} {outcomes : List Outcome}
    (each : List.Forall₂ (fun path done => (migrate job tree path).result = .ok done) paths outcomes) :
    (migrateAll job tree paths).result = .ok outcomes ∧ (migrateAll job tree paths).tree = tree := by
  induction each with
  | nil => exact ⟨rfl, rfl⟩
  | cons here _ ih =>
      obtain ⟨result, last⟩ := migrateAll_cons here _
      rw [tree_migrate_of_dry idle] at result last
      rw [result, last, ih.1]
      exact ⟨rfl, ih.2⟩

end Dry

/-! ### What a visit leaves to be read -/

/-- Two trees have the same directories, and the same entries with a name that ends in the extension. -/
structure Agrees (extension : Text) (tree edited : Tree) : Prop where
  directories : SameDirectories tree edited
  named : ∀ here name, extension <:+ name → edited.lookup (here ++ [name]) = tree.lookup (here ++ [name])

theorem Agrees.trans {extension : Text} {first second third : Tree} (early : Agrees extension first second)
    (late : Agrees extension second third) : Agrees extension first third :=
  ⟨early.directories.trans late.directories,
    fun here name suffix => (late.named here name suffix).trans (early.named here name suffix)⟩

theorem Agrees.alike {extension : Text} {tree edited : Tree} (agrees : Agrees extension tree edited) :
    Alike extension tree edited :=
  ⟨agrees.directories, fun here name suffix => by rw [agrees.named here name suffix]⟩

theorem Tree.FileAt.name_eq {tree : Tree} {path : Path} {here : Location} {name : Text} {content : ByteArray}
    (file : FileAt tree path (here ++ [name]) content) : path.name = name := by
  obtain ⟨front, last, there, parts, _, _, same⟩ := file.split
  rw [Path.name, parts, List.getLast?_concat, Option.getD_some]
  exact (List.singleton_inj.mp (List.append_inj_right' same rfl)).symm

theorem Yielded.suffix_name {root path : Path} {extension : Text} (yielded : Yielded root extension path) :
    extension <:+ path.name := by
  obtain ⟨names, name, rfl, suffix, _⟩ := yielded
  rwa [Path.name, Path.parts_descend_snoc, List.getLast?_concat, Option.getD_some]

theorem Yielded.read_of_read {root path : Path} {extension : Text} (yielded : Yielded root extension path)
    {tree edited : Tree} (same : SameDirectories tree edited)
    (kept : ∀ here name, extension <:+ name → tree.resolve path = .ok (here ++ [name]) →
      edited.lookup (here ++ [name]) = tree.lookup (here ++ [name]))
    {content : ByteArray} (readable : edited.read path = .ok content) : tree.read path = .ok content := by
  obtain ⟨place, file⟩ := Tree.read_eq_ok_iff.mp readable
  obtain ⟨_, name, here, _, _, _, rfl⟩ := file.split
  have resolved := Tree.resolve_of_sameDirectories same.symm file.resolved
  have suffix := yielded.suffix_name
  rw [file.name_eq] at suffix
  refine Tree.read_eq_ok_iff.mpr ⟨_, resolved, ?_⟩
  rw [← kept here name suffix resolved, file.found]

section Visit

variable {job : Job} {tree last : Tree} {done : Outcome} {extension : Text}

theorem Visit.lookup_of_apart (visit : Visit job tree done last) (ofSources : OfSources extension)
    {here : Location} {name : Text} (suffix : extension <:+ name)
    (apart : ∀ content, ¬ FileAt tree done.path (here ++ [name]) content) :
    last.lookup (here ++ [name]) = tree.lookup (here ++ [name]) := by
  cases visit with
  | idle unchanged => rfl
  | @written _ place former migrated changed file replaced =>
      refine ofSources.lookup_of_replaced replaced suffix ?_
      rintro rfl
      exact apart former file

theorem Visit.read_of_read (visit : Visit job tree done last) (ofSources : OfSources extension)
    {root path : Path} (visited : Yielded root extension done.path) (yielded : Yielded root extension path)
    (different : done.path ≠ path) {content : ByteArray} (readable : last.read path = .ok content) :
    tree.read path = .ok content := by
  refine yielded.read_of_read visit.directories (fun here name suffix resolved => ?_) readable
  apply visit.lookup_of_apart ofSources suffix
  intro former same
  exact different (visited.path_eq yielded same.resolved resolved)

theorem Visits.agrees {other : Text} (ofSources : OfSources other) (simple : Simple extension)
    (unlike : extension ≠ other) {outcomes : List Outcome} (visits : Visits job tree outcomes last)
    (visited : ∀ done ∈ outcomes, extension <:+ done.path.name) : Agrees other tree last := by
  induction visits with
  | nil tree => exact ⟨.refl tree, fun _ _ _ => rfl⟩
  | cons first _ ih =>
      obtain ⟨here, later⟩ := List.forall_mem_cons.mp visited
      refine .trans ⟨first.directories, fun place name suffix => ?_⟩ (ih later)
      apply first.lookup_of_apart ofSources suffix
      intro content file
      rw [file.name_eq] at here
      exact unlike (simple.eq_of_suffix ofSources.simple here suffix)

end Visit

/-! ### Whole runs -/

section Runs

variable {strictness : Strictness} {job : Job} (wanted : job.write = true) {tree : Tree} {root : Path}

include wanted

/-- While files with one extension are visited, those still to be visited are read as at the beginning. -/
theorem dry_migrateAll {extension : Text} (ofSources : OfSources extension) {edited : Tree}
    {paths : List Path} {outcomes : List Outcome} (distinct : paths.Nodup)
    (yielded : ∀ path ∈ paths, Yielded root extension path)
    (unread : ∀ path ∈ paths, ∀ content, edited.read path = .ok content → tree.read path = .ok content)
    (finished : (migrateAll job edited paths).result = .ok outcomes) :
    List.Forall₂ (fun path done => (migrate job.dry tree path).result = .ok done) paths outcomes := by
  induction paths generalizing edited outcomes with
  | nil =>
      cases finished
      exact .nil
  | cons path rest ih =>
      obtain ⟨done, others, here, later, rfl⟩ := exists_of_migrateAll_cons finished
      obtain ⟨yieldedHere, yieldedLater⟩ := List.forall_mem_cons.mp yielded
      obtain ⟨unreadHere, unreadLater⟩ := List.forall_mem_cons.mp unread
      obtain ⟨absent, distinctLater⟩ := List.nodup_cons.mp distinct
      have visit := visit_migrate wanted here
      obtain rfl := path_of_migrate_eq_ok here
      refine .cons (migrate_dry_of_read here unreadHere) (ih distinctLater yieldedLater ?_ later)
      intro other member content readable
      refine unreadLater other member content
        (visit.read_of_read ofSources yieldedHere (yieldedLater other member) ?_ readable)
      rintro rfl
      exact absent member

theorem dry_migrateBelow {extensions : List Text}
    (ofSources : ∀ extension ∈ extensions, OfSources extension) (distinct : extensions.Nodup)
    {edited : Tree} (agrees : ∀ extension ∈ extensions, Agrees extension tree edited)
    {outcomes : List Outcome}
    (finished : (migrateBelow strictness job edited root extensions).result = .ok outcomes) :
    (migrateBelow strictness job.dry tree root extensions).result = .ok outcomes ∧
      (migrateBelow strictness job.dry tree root extensions).tree = tree := by
  induction extensions generalizing edited outcomes with
  | nil =>
      cases finished
      exact ⟨rfl, rfl⟩
  | cons extension rest ih =>
      obtain ⟨source, sourcesLater⟩ := List.forall_mem_cons.mp ofSources
      obtain ⟨agreesHere, agreesLater⟩ := List.forall_mem_cons.mp agrees
      obtain ⟨absent, distinctLater⟩ := List.nodup_cons.mp distinct
      obtain ⟨paths, first, others, walked, here, later, rfl⟩ := exists_of_migrateBelow_cons finished
      have yielded : ∀ path ∈ paths, Yielded root extension path := fun path member =>
        yielded_of_mem_withExtension source.simple walked member
      have each := dry_migrateAll wanted source (Tree.nodup_withExtension source.simple walked) yielded
        (fun path member content => (yielded path member).read_of_read agreesHere.directories
          fun place name suffix _ => agreesHere.named place name suffix) here
      obtain ⟨dryFirst, unchanged⟩ := migrateAll_of_dry rfl each
      have visited : ∀ done ∈ first, extension <:+ done.path.name := by
        intro done member
        apply (yielded done.path _).suffix_name
        rw [← map_path_of_migrateAll here]
        exact List.mem_map_of_mem member
      obtain ⟨dryOthers, kept⟩ := ih sourcesLater distinctLater
        (fun other member => (agreesLater other member).trans
          ((visits_migrateAll wanted here).agrees (sourcesLater other member) source.simple
            (fun same => absent (same ▸ member)) visited)) later
      obtain ⟨result, last⟩ := migrateBelow_cons
        (Tree.withExtension_of_alike source.simple agreesHere.alike walked) dryFirst rest
      rw [unchanged] at result last
      rw [result, last, dryOthers]
      exact ⟨rfl, kept⟩

end Runs

/-- Whatever a run that writes returns is what a dry run returns on the tree at its beginning, and the dry run
leaves this tree as it is. -/
theorem dry_run_predicts {strictness : Strictness} {job : Job} {tree : Tree} {root : Path}
    {outcomes : List Outcome} (wanted : job.write = true)
    (finished : (migratePath strictness job tree root Config.defaultExtensions).result = .ok outcomes) :
    (migratePath strictness job.dry tree root Config.defaultExtensions).result = .ok outcomes ∧
      (migratePath strictness job.dry tree root Config.defaultExtensions).tree = tree := by
  rw [migratePath] at finished ⊢
  cases kind : tree.isFile strictness root with
  | error error =>
      rw [kind] at finished
      cases finished
  | ok file =>
      rw [kind] at finished
      cases file with
      | true =>
          dsimp only at finished ⊢
          by_cases listed : Config.defaultExtensions.contains root.suffix = true
          · rw [if_pos listed] at finished ⊢
            obtain ⟨done, others, here, later, rfl⟩ := exists_of_migrateAll_cons finished
            cases later
            exact migrateAll_of_dry rfl (.cons (migrate_dry_of_read here fun _ => id) .nil)
          · rw [if_neg listed] at finished ⊢
            cases finished
            exact ⟨rfl, rfl⟩
      | false =>
          exact dry_migrateBelow wanted ofSources_defaultExtensions (by decide)
            (fun _ _ => ⟨.refl tree, fun _ _ _ => rfl⟩) finished

theorem dry_run_predicts_sample :
    ∃ outcomes,
      (migratePath .all (sampleJob false) sampleTree .current Config.defaultExtensions).result = .ok outcomes ∧
      (∃ done ∈ outcomes, done.outcome.changed = true) ∧
      (migratePath .all (sampleJob false).dry sampleTree .current Config.defaultExtensions).result = .ok outcomes ∧
      (migratePath .all (sampleJob false).dry sampleTree .current Config.defaultExtensions).tree = sampleTree := by
  obtain ⟨outcome, finished, changed⟩ := exists_migratePath_sampleTree
  exact ⟨_, finished, ⟨_, List.mem_singleton_self _, changed⟩, dry_run_predicts rfl finished⟩

end AlertMigration.File
