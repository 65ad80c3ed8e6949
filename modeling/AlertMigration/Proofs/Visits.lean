import AlertMigration.Proofs.FileMigration
import AlertMigration.Proofs.WalkAgreement

/-!
Runs over many files, as visits of one file after the other.

Each visit touches a file, its backup and its temporary file at most; all else stays as it is over a whole
run (`Visits.lookup_cases`). A run over simple and different extensions visits no path twice
(`yielded_migrateBelow`).
-/

namespace AlertMigration.File

open File.Tree (FileAt SameDirectories Alike)

/-! ### Visits -/

inductive Visit (job : Job) (tree : Tree) (done : Outcome) : Tree → Prop
  | idle (unchanged : done.outcome.changed = false) : Visit job tree done tree
  | written {last : Tree} {place : Location} {former migrated : ByteArray}
      (changed : done.outcome.changed = true) (file : FileAt tree done.path place former)
      (replaced : Replaced job tree last done.path place former migrated) : Visit job tree done last

inductive Visits (job : Job) : Tree → List Outcome → Tree → Prop
  | nil (tree : Tree) : Visits job tree [] tree
  | cons {tree middle last : Tree} {done : Outcome} {rest : List Outcome}
      (first : Visit job tree done middle) (later : Visits job middle rest last) :
      Visits job tree (done :: rest) last

section Visits

variable {job : Job} {tree middle last : Tree}

theorem Visits.append {early late : List Outcome} (first : Visits job tree early middle)
    (second : Visits job middle late last) : Visits job tree (early ++ late) last := by
  induction first with
  | nil tree => exact second
  | cons visit _ ih => exact .cons visit (ih second)

theorem Visits.split {before after : List Outcome} {done : Outcome}
    (visits : Visits job tree (before ++ done :: after) last) :
    ∃ middle next, Visits job tree before middle ∧ Visit job middle done next ∧
      Visits job next after last := by
  induction before generalizing tree with
  | nil =>
      cases visits with
      | cons visit later => exact ⟨tree, _, .nil tree, visit, later⟩
  | cons first before ih =>
      cases visits with
      | cons visit later =>
          obtain ⟨middle, next, early, here, late⟩ := ih later
          exact ⟨middle, next, .cons visit early, here, late⟩

theorem Visits.split_of_changed {before after : List Outcome} {done : Outcome}
    (visits : Visits job tree (before ++ done :: after) last) (changed : done.outcome.changed = true) :
    ∃ middle next place former migrated, Visits job tree before middle ∧
      FileAt middle done.path place former ∧ Replaced job middle next done.path place former migrated ∧
      Visits job next after last := by
  obtain ⟨middle, next, early, visit, late⟩ := visits.split
  cases visit with
  | idle unchanged =>
      rw [unchanged] at changed
      cases changed
  | @written _ place former migrated _ file replaced =>
      exact ⟨middle, next, place, former, migrated, early, file, replaced, late⟩

end Visits

/-! ### Runs -/

section Inversion

variable {job : Job} {tree : Tree}

theorem migrateAll_cons {path : Path} {done : Outcome} (here : (migrate job tree path).result = .ok done)
    (rest : List Path) :
    (migrateAll job tree (path :: rest)).result =
        (migrateAll job (migrate job tree path).tree rest).result.map (done :: ·) ∧
      (migrateAll job tree (path :: rest)).tree =
      (migrateAll job (migrate job tree path).tree rest).tree := by
  rw [migrateAll]
  simp only [here, and_self]

theorem migrateAll_cons_of_error {path : Path} {failure : Failure}
    (here : (migrate job tree path).result = .error failure) (rest : List Path) :
    (migrateAll job tree (path :: rest)).result = .error failure ∧
      (migrateAll job tree (path :: rest)).tree = (migrate job tree path).tree := by
  rw [migrateAll]
  simp only [here, and_self]

theorem exists_of_migrateAll_cons {path : Path} {rest : List Path} {outcomes : List Outcome}
    (finished : (migrateAll job tree (path :: rest)).result = .ok outcomes) :
    ∃ done others, (migrate job tree path).result = .ok done ∧
      (migrateAll job (migrate job tree path).tree rest).result = .ok others ∧ outcomes = done :: others := by
  cases here : (migrate job tree path).result with
  | error failure =>
      rw [(migrateAll_cons_of_error here rest).1] at finished
      cases finished
  | ok done =>
      rw [(migrateAll_cons here rest).1] at finished
      obtain ⟨others, later, rfl⟩ := map_eq_ok_iff.mp finished
      exact ⟨done, others, rfl, later, rfl⟩

variable {strictness : Strictness} {root : Path} {extension : Text}

theorem migrateBelow_nil (strictness : Strictness) (job : Job) (tree : Tree) (root : Path) :
    (migrateBelow strictness job tree root []).result = .ok [] ∧
    (migrateBelow strictness job tree root []).tree = tree :=
  ⟨rfl, rfl⟩

theorem migrateBelow_cons {paths : List Path} {first : List Outcome}
    (walked : tree.withExtension strictness root extension = .ok paths)
    (here : (migrateAll job tree paths).result = .ok first) (rest : List Text) :
    (migrateBelow strictness job tree root (extension :: rest)).result =
        (migrateBelow strictness job (migrateAll job tree paths).tree root rest).result.map (first ++ ·) ∧
      (migrateBelow strictness job tree root (extension :: rest)).tree =
        (migrateBelow strictness job (migrateAll job tree paths).tree root rest).tree := by
  rw [migrateBelow]
  simp only [walked, here, and_self]

theorem exists_of_migrateBelow_cons {rest : List Text} {outcomes : List Outcome}
    (finished : (migrateBelow strictness job tree root (extension :: rest)).result = .ok outcomes) :
    ∃ paths first others, tree.withExtension strictness root extension = .ok paths ∧
      (migrateAll job tree paths).result = .ok first ∧
      (migrateBelow strictness job (migrateAll job tree paths).tree root rest).result = .ok others ∧
      outcomes = first ++ others := by
  cases walked : tree.withExtension strictness root extension with
  | error error =>
      rw [migrateBelow, walked] at finished
      cases finished
  | ok paths =>
      cases here : (migrateAll job tree paths).result with
      | error failure =>
          rw [migrateBelow] at finished
          simp only [walked, here] at finished
          cases finished
      | ok first =>
          rw [(migrateBelow_cons walked here rest).1] at finished
          obtain ⟨others, later, rfl⟩ := map_eq_ok_iff.mp finished
          exact ⟨paths, first, others, rfl, here, later, rfl⟩

theorem migratePath_cases {extensions : List Text} {outcomes : List Outcome}
    (finished : (migratePath strictness job tree root extensions).result = .ok outcomes) :
    (∃ paths, paths.length ≤ 1 ∧ migratePath strictness job tree root extensions = migrateAll job tree paths) ∨
      migratePath strictness job tree root extensions = migrateBelow strictness job tree root extensions := by
  rw [migratePath] at finished ⊢
  cases kind : tree.isFile strictness root with
  | error error =>
      rw [kind] at finished
      cases finished
  | ok file =>
      cases file with
      | true =>
          refine .inl ⟨_, ?_, rfl⟩
          split
          · exact Nat.le_refl 1
          · exact Nat.zero_le 1
      | false => exact .inr rfl

end Inversion

section Runs

variable {strictness : Strictness} {job : Job} (wanted : job.write = true)

include wanted

theorem visit_migrate {tree : Tree} {path : Path} {done : Outcome}
    (finished : (migrate job tree path).result = .ok done) :
    Visit job tree done (migrate job tree path).tree := by
  by_cases changed : done.outcome.changed = true
  · obtain ⟨place, former, migrated, due, rfl, replaced⟩ := exists_due_of_changed finished wanted changed
    exact .written changed due.file replaced
  · have idle : ∀ place former migrated outcome,
        ¬ WriteDue job tree path place former migrated outcome := by
      intro place former migrated outcome due
      obtain ⟨_, rfl⟩ := allowed_of_migrate_eq_ok due finished
      exact changed due.changed
    rw [(migrate_of_not_due idle).1]
    exact .idle (Bool.eq_false_iff.mpr changed)

theorem visits_migrateAll {tree : Tree} {paths : List Path} {outcomes : List Outcome}
    (finished : (migrateAll job tree paths).result = .ok outcomes) :
    Visits job tree outcomes (migrateAll job tree paths).tree := by
  induction paths generalizing tree outcomes with
  | nil =>
      cases finished
      exact .nil tree
  | cons path rest ih =>
      obtain ⟨done, others, here, later, rfl⟩ := exists_of_migrateAll_cons finished
      rw [(migrateAll_cons here rest).2]
      exact .cons (visit_migrate wanted here) (ih later)

theorem visits_migrateBelow {tree : Tree} {root : Path} {extensions : List Text} {outcomes : List Outcome}
    (finished : (migrateBelow strictness job tree root extensions).result = .ok outcomes) :
    Visits job tree outcomes (migrateBelow strictness job tree root extensions).tree := by
  induction extensions generalizing tree outcomes with
  | nil =>
      cases finished
      exact .nil tree
  | cons extension rest ih =>
      obtain ⟨paths, first, others, walked, here, later, rfl⟩ := exists_of_migrateBelow_cons finished
      rw [(migrateBelow_cons walked here rest).2]
      exact (visits_migrateAll wanted here).append (ih later)

theorem visits_migratePath {tree : Tree} {root : Path} {extensions : List Text} {outcomes : List Outcome}
    (finished : (migratePath strictness job tree root extensions).result = .ok outcomes) :
    Visits job tree outcomes (migratePath strictness job tree root extensions).tree := by
  rcases migratePath_cases finished with ⟨paths, _, same⟩ | same
  · rw [same] at finished ⊢
    exact visits_migrateAll wanted finished
  · rw [same] at finished ⊢
    exact visits_migrateBelow wanted finished

end Runs

theorem map_path_of_migrateAll {job : Job} {tree : Tree} {paths : List Path} {outcomes : List Outcome}
    (finished : (migrateAll job tree paths).result = .ok outcomes) : outcomes.map Outcome.path = paths := by
  induction paths generalizing tree outcomes with
  | nil =>
      cases finished
      rfl
  | cons path rest ih =>
      obtain ⟨done, others, here, later, rfl⟩ := exists_of_migrateAll_cons finished
      rw [List.map_cons, path_of_migrate_eq_ok here, ih later]

/-! ### What visits leave alone -/

/-- A file that is changed, or its backup, is at this location. -/
def Touches (tree : Tree) (done : Outcome) (location : Location) : Prop :=
  done.outcome.changed = true ∧ ∃ place : Location, place ≠ [] ∧ tree.resolve done.path = .ok place ∧
    (location = place ∨ location = place.backup ∧ tree.resolve done.path.backup = .ok location)

section Untouched

variable {job : Job} {tree last : Tree}

theorem Touches.of_sameDirectories {edited : Tree} (same : SameDirectories tree edited) {done : Outcome}
    {location : Location} (touches : Touches tree done location) : Touches edited done location := by
  obtain ⟨changed, place, present, resolved, meets⟩ := touches
  refine ⟨changed, place, present, Tree.resolve_of_sameDirectories same resolved, ?_⟩
  rcases meets with here | ⟨beside, backup⟩
  · exact .inl here
  · exact .inr ⟨beside, Tree.resolve_of_sameDirectories same backup⟩

theorem Visit.directories {done : Outcome} (visit : Visit job tree done last) :
    SameDirectories tree last := by
  cases visit with
  | idle unchanged => exact .refl tree
  | written changed file replaced => exact replaced.directories

theorem Visits.directories {outcomes : List Outcome} (visits : Visits job tree outcomes last) :
    SameDirectories tree last := by
  induction visits with
  | nil tree => exact .refl tree
  | cons first _ ih => exact first.directories.trans ih

variable (saving : job.backup = true) {location : Location}

include saving

theorem Visit.lookup_cases {done : Outcome} (visit : Visit job tree done last)
    (untouched : ¬ Touches tree done location) :
    last.lookup location = tree.lookup location ∨
      last.lookup location = none ∧ ∃ place : Location, location = place.temporary := by
  cases visit with
  | idle unchanged => exact .inl rfl
  | @written _ place former migrated changed file replaced =>
      by_cases temporary : location = place.temporary
      · rw [temporary]
        exact .inr ⟨replaced.cleared, place, rfl⟩
      · refine .inl (replaced.elsewhere location ?_ ?_ temporary)
        · rintro rfl
          exact untouched ⟨changed, location, file.ne_nil, file.resolved, .inl rfl⟩
        · rintro rfl
          have resolved := Tree.resolve_of_sameDirectories replaced.directories.symm
            (replaced.saved saving).resolved
          exact untouched ⟨changed, place, file.ne_nil, file.resolved, .inr ⟨rfl, resolved⟩⟩

theorem Visits.lookup_cases {outcomes : List Outcome} (visits : Visits job tree outcomes last)
    (untouched : ∀ done ∈ outcomes, ¬ Touches tree done location) :
    last.lookup location = tree.lookup location ∨
      last.lookup location = none ∧ ∃ place : Location, location = place.temporary := by
  induction visits with
  | nil tree => exact .inl rfl
  | cons first _ ih =>
      obtain ⟨here, others⟩ := List.forall_mem_cons.mp untouched
      have later := ih fun done member touches =>
        others done member (touches.of_sameDirectories first.directories.symm)
      rcases later with same | gone
      · rw [same]
        exact first.lookup_cases saving here
      · exact .inr gone

end Untouched

/-! ### Runs over simple extensions -/

section Simple

variable {job : Job} {tree last : Tree}

/-- A simple extension that is not one of those a run gives to its own files. -/
structure OfSources (extension : Text) : Prop where
  simple : Simple extension
  notBackup : extension ≠ ".bak".toList
  notTemporary : extension ≠ ".tmp".toList

theorem ofSources_defaultExtensions : ∀ extension ∈ Config.defaultExtensions, OfSources extension := by
  intro extension member
  rcases List.mem_pair.mp member with rfl | rfl
  · exact ⟨.of_all (by decide) rfl, by decide, by decide⟩
  · exact ⟨.of_all (by decide) rfl, by decide, by decide⟩

theorem Simple.snoc_ne_beside {extension ending name : Text} (simple : Simple extension)
    (endingSimple : Simple ending) (unlike : extension ≠ ending) (suffix : extension <:+ name)
    (here place : Location) : here ++ [name] ≠ place.beside ending := by
  intro same
  have last := List.singleton_inj.mp (List.append_inj_right' same rfl)
  rw [last] at suffix
  exact unlike (simple.eq_of_suffix endingSimple suffix (List.suffix_append _ _))

theorem OfSources.lookup_of_replaced {extension : Text} (ofSources : OfSources extension) {path : Path}
    {place : Location} {former migrated : ByteArray}
    (replaced : Replaced job tree last path place former migrated) {here : Location} {name : Text}
    (suffix : extension <:+ name) (apart : here ++ [name] ≠ place) :
    last.lookup (here ++ [name]) = tree.lookup (here ++ [name]) :=
  replaced.elsewhere _ apart (ofSources.simple.snoc_ne_beside .bak ofSources.notBackup suffix here place)
    (ofSources.simple.snoc_ne_beside .tmp ofSources.notTemporary suffix here place)

theorem Visit.alike {done : Outcome} (visit : Visit job tree done last) {extension : Text}
    (ofSources : OfSources extension) : Alike extension tree last := by
  refine ⟨visit.directories, fun here name suffix => ?_⟩
  cases visit with
  | idle unchanged => exact Iff.rfl
  | @written _ place former migrated changed file replaced =>
      by_cases target : here ++ [name] = place
      · rw [target, replaced.written.found, file.found]
        exact iff_of_false (Option.some_ne_none _) (Option.some_ne_none _)
      · rw [ofSources.lookup_of_replaced replaced suffix target]

variable {strictness : Strictness} {root : Path} {extensions : List Text} {outcomes : List Outcome}

/-- With simple extensions, each path that a run visits is yielded for one of them. With different ones, no
path is visited twice. -/
theorem yielded_migrateBelow (simple : ∀ extension ∈ extensions, Simple extension)
    (distinct : extensions.Nodup)
    (finished : (migrateBelow strictness job tree root extensions).result = .ok outcomes) :
    (∀ done ∈ outcomes, ∃ extension ∈ extensions, Yielded root extension done.path) ∧
      (outcomes.map Outcome.path).Nodup := by
  induction extensions generalizing tree outcomes with
  | nil =>
      cases finished
      exact ⟨List.forall_mem_nil _, List.nodup_nil⟩
  | cons extension rest ih =>
      obtain ⟨simpleHere, simpleLater⟩ := List.forall_mem_cons.mp simple
      obtain ⟨absent, distinctLater⟩ := List.nodup_cons.mp distinct
      obtain ⟨paths, first, others, walked, here, later, rfl⟩ := exists_of_migrateBelow_cons finished
      have visited := map_path_of_migrateAll here
      have yieldedHere : ∀ done ∈ first, Yielded root extension done.path := by
        intro done member
        apply yielded_of_mem_withExtension simpleHere walked
        rw [← visited]
        exact List.mem_map_of_mem member
      obtain ⟨yieldedLater, nodupLater⟩ := ih simpleLater distinctLater later
      constructor
      · intro done member
        rcases List.mem_append.mp member with early | late
        · exact ⟨extension, List.mem_cons_self, yieldedHere done early⟩
        · obtain ⟨other, listed, yielded⟩ := yieldedLater done late
          exact ⟨other, List.mem_cons_of_mem extension listed, yielded⟩
      · rw [List.map_append, List.nodup_append]
        refine ⟨?_, nodupLater, ?_⟩
        · rw [visited]
          exact Tree.nodup_withExtension simpleHere walked
        · intro path early other late same
          obtain ⟨done, member, rfl⟩ := List.mem_map.mp early
          obtain ⟨done', member', rfl⟩ := List.mem_map.mp late
          obtain ⟨other, listed, yielded⟩ := yieldedLater done' member'
          rw [← same] at yielded
          apply absent
          rw [(yieldedHere done member).extension_eq simpleHere (simpleLater other listed) yielded]
          exact listed

theorem Visits.resolve_of_changed (saving : job.backup = true) (visits : Visits job tree outcomes last)
    {done : Outcome} (member : done ∈ outcomes) (changed : done.outcome.changed = true) :
    ∃ place : Location, tree.resolve done.path = .ok place ∧
      tree.resolve done.path.backup = .ok place.backup := by
  obtain ⟨before, after, rfl⟩ := List.append_of_mem member
  obtain ⟨middle, next, place, former, migrated, early, file, replaced, _⟩ :=
    visits.split_of_changed changed
  have since := early.directories.symm
  exact ⟨place, Tree.resolve_of_sameDirectories since file.resolved,
    Tree.resolve_of_sameDirectories (replaced.directories.symm.trans since)
      (replaced.saved saving).resolved⟩

end Simple

end AlertMigration.File
