import AlertMigration.Proofs.CheckCommand

/-!
What a command line can do to the tree.

Only a migration that is to be written touches the tree, and then only the files it was asked for, their backups
and their temporary files. Each operation on a tree is framed by the places that its paths lead to; no operation
makes or removes a directory, so that the paths of later operations still lead where they have led at the
beginning (`framed_migrateAll`).
-/

namespace AlertMigration.File

open File.Tree (FileAt SameDirectories)

/-! ### Frames -/

/-- An edit has made no directory and removed none, and has changed nothing at a place that it does not reach. -/
structure Framed (reaches : Location → Prop) (tree last : Tree) : Prop where
  directories : SameDirectories tree last
  elsewhere : ∀ place, ¬ reaches place → last.lookup place = tree.lookup place

section Framed

variable {reaches farther : Location → Prop} {tree middle last : Tree}

theorem Framed.refl (reaches : Location → Prop) (tree : Tree) : Framed reaches tree tree :=
  ⟨.refl tree, fun _ _ => rfl⟩

theorem Framed.trans (first : Framed reaches tree middle) (second : Framed reaches middle last) :
    Framed reaches tree last :=
  ⟨first.directories.trans second.directories, fun place untouched =>
    (second.elsewhere place untouched).trans (first.elsewhere place untouched)⟩

theorem Framed.widen (framed : Framed reaches tree last) (wider : ∀ place, reaches place → farther place) :
    Framed farther tree last :=
  ⟨framed.directories, fun place untouched =>
    framed.elsewhere place fun reached => untouched (wider place reached)⟩

private theorem resolve_eq_ok_iff_of_directories (same : SameDirectories tree last) {path : Path}
    {place : Location} : last.resolve path = .ok place ↔ tree.resolve path = .ok place :=
  ⟨Tree.resolve_of_sameDirectories same.symm, Tree.resolve_of_sameDirectories same⟩

end Framed

section Operations

variable {tree last : Tree} {path : Path}

private theorem framed_insert {place : Location} (fits : tree.Fits place) (content : ByteArray) :
    Framed (· = place) tree (tree.insert place (.file content) fits) := by
  refine ⟨Tree.sameDirectories_insert fits content, fun other different => ?_⟩
  rw [Tree.lookup_insert, if_neg different]

private theorem framed_erase {place : Location} (free : tree.lookup place ≠ some .directory) :
    Framed (· = place) tree (tree.erase place free) := by
  refine ⟨Tree.sameDirectories_erase free, fun other different => ?_⟩
  rw [Tree.lookup_erase, if_neg different]

theorem framed_write {content : ByteArray} (written : tree.write path content = .ok last) :
    Framed (fun place => tree.resolve path = .ok place) tree last := by
  unfold Tree.write at written
  split at written
  · cases written
  · rename_i place resolved
    split at written
    · cases written
    · rename_i free
      cases written
      refine (framed_insert (Tree.fits_of_resolve resolved free) content).widen fun other same => ?_
      rw [same, resolved]

private theorem framed_discard (discarded : tree.discard path = .ok last) :
    Framed (fun place => tree.resolve path = .ok place) tree last := by
  unfold Tree.discard at discarded
  split at discarded
  · cases discarded
    exact .refl _ tree
  · cases discarded
  · rename_i place resolved
    split at discarded
    · cases discarded
      exact .refl _ tree
    · split at discarded
      · cases discarded
      · rename_i free
        cases discarded
        refine (framed_erase free).widen fun other same => ?_
        rw [same, resolved]

theorem framed_rename {target : Path} (renamed : tree.rename path target = .ok last) :
    Framed (fun place => tree.resolve path = .ok place ∨ tree.resolve target = .ok place) tree last := by
  unfold Tree.rename at renamed
  split at renamed
  · cases renamed
  · rename_i old resolved
    split at renamed
    · cases renamed
    · cases renamed
    · rename_i content found
      have source : FileAt tree path old content := ⟨resolved, found⟩
      split at renamed
      · cases renamed
      · rename_i new targeted
        split at renamed
        · cases renamed
        · rename_i free
          cases renamed
          have fits := (Tree.fits_of_resolve targeted free).erase source.not_directory
          refine ((framed_erase source.not_directory).widen ?_).trans ((framed_insert fits content).widen ?_)
          · exact fun place same => .inl (by rw [same, resolved])
          · exact fun place same => .inr (by rw [same, targeted])

end Operations

/-! ### The migration of files -/

/-- The places that the migration of a file may write to. -/
inductive Reaches (job : Job) (tree : Tree) (path : Path) (place : Location) : Prop
  | file (resolved : tree.resolve path = .ok place)
  | backup (wanted : job.backup = true) (resolved : tree.resolve path.backup = .ok place)
  | temporary (resolved : tree.resolve path.temporary = .ok place)

section Migration

variable {job : Job} {tree : Tree} {path : Path}

theorem Reaches.of_directories {edited : Tree} (same : SameDirectories tree edited) {place : Location}
    (reaches : Reaches job edited path place) : Reaches job tree path place := by
  cases reaches with
  | file resolved => exact .file ((resolve_eq_ok_iff_of_directories same).mp resolved)
  | backup wanted resolved => exact .backup wanted ((resolve_eq_ok_iff_of_directories same).mp resolved)
  | temporary resolved => exact .temporary ((resolve_eq_ok_iff_of_directories same).mp resolved)

private theorem framed_abandon (tree : Tree) (path : Path) (error : Error) :
    Framed (fun place => tree.resolve path.temporary = .ok place) tree (abandon tree path error).2 := by
  unfold abandon
  split
  · rename_i cleared discarded
    exact framed_discard discarded
  · exact .refl _ tree

theorem framed_swap (job : Job) (tree : Tree) (path : Path) (content : ByteArray) :
    Framed (Reaches job tree path) tree (swap job tree path content).2 := by
  unfold swap
  split
  · exact (framed_abandon tree path _).widen fun place resolved => .temporary resolved
  · rename_i written done
    have begun : Framed (Reaches job tree path) tree written :=
      (framed_write done).widen fun place resolved => .temporary resolved
    refine begun.trans ?_
    split
    · refine (framed_abandon written path _).widen fun place resolved => ?_
      exact .of_directories begun.directories (.temporary resolved)
    · rename_i renamed ended
      have moved : written.rename path.temporary path = .ok renamed := by
        split at ended
        · cases ended
        · exact ended
      refine (framed_rename moved).widen fun place resolved => .of_directories begun.directories ?_
      rcases resolved with spare | target
      · exact .temporary spare
      · exact .file target

private theorem framed_saveBackup {content : ByteArray} {last : Tree} {log : List LogRecord}
    (saved : saveBackup job tree path content = .ok (last, log)) :
    Framed (Reaches job tree path) tree last := by
  unfold saveBackup at saved
  split at saved
  · rename_i wanted
    obtain ⟨written, done, same⟩ := map_eq_ok_iff.mp saved
    cases same
    exact (framed_write done).widen fun place resolved => .backup wanted resolved
  · cases saved
    exact .refl _ tree

theorem framed_store (job : Job) (tree : Tree) (path : Path) (former migrated : Text) (converted : Nat) :
    Framed (Reaches job tree path) tree (store job tree path former migrated converted).tree := by
  unfold store
  split
  · exact .refl _ tree
  · rename_i saved log done
    have begun := framed_saveBackup done
    have swapped := (framed_swap job saved path (encode migrated)).widen
      fun place reaches => Reaches.of_directories begun.directories reaches
    split
    · rename_i error last ended
      rw [ended] at swapped
      exact begun.trans swapped
    · rename_i last ended
      rw [ended] at swapped
      exact begun.trans swapped

theorem framed_migrate (job : Job) (tree : Tree) (path : Path) :
    Framed (Reaches job tree path) tree (migrate job tree path).tree := by
  unfold migrate
  split
  · exact .refl _ tree
  · split
    · exact .refl _ tree
    · dsimp only
      split
      · exact .refl _ tree
      · split
        · exact framed_store ..
        · exact .refl _ tree

theorem framed_migrateAll (job : Job) (tree : Tree) (paths : List Path) :
    Framed (fun place => ∃ path ∈ paths, Reaches job tree path place) tree
      (migrateAll job tree paths).tree := by
  induction paths generalizing tree with
  | nil => exact .refl _ tree
  | cons path rest ih =>
      have here : Framed (fun place => ∃ other ∈ path :: rest, Reaches job tree other place) tree
          (migrate job tree path).tree :=
        (framed_migrate job tree path).widen fun place reaches => ⟨path, List.mem_cons_self, reaches⟩
      rw [migrateAll]
      dsimp only
      split
      · exact here
      · refine here.trans ((ih _).widen fun place later => ?_)
        obtain ⟨other, member, reaches⟩ := later
        exact ⟨other, List.mem_cons_of_mem path member, reaches.of_directories here.directories⟩

/-! ### Runs that stop -/

private theorem exists_of_migrate_eq_edit {other : Path} {error : Edit.Error}
    (stopped : (migrate job tree path).result = .error (.edit other error)) :
    ∃ content source, tree.read path = .ok content ∧ decode? content = some source ∧
      (Source.migrate job.policy source).result = .error error ∧ other = path := by
  unfold migrate at stopped
  split at stopped
  · cases stopped
  · rename_i content readable
    split at stopped
    · cases stopped
    · rename_i source decoded
      dsimp only at stopped
      split at stopped
      · rename_i failed
        cases stopped
        exact ⟨content, source, readable, decoded, failed, rfl⟩
      · split at stopped
        · unfold store at stopped
          split at stopped
          · cases stopped
          · split at stopped
            · cases stopped
            · cases stopped
        · cases stopped

private theorem tree_migrate_of_edit {other : Path} {error : Edit.Error}
    (stopped : (migrate job tree path).result = .error (.edit other error)) :
    (migrate job tree path).tree = tree := by
  obtain ⟨content, source, readable, decoded, failed, _⟩ := exists_of_migrate_eq_edit stopped
  exact (migrate_of_stopped readable decoded failed).2

private theorem migrateAll_of_failed {before : List Path} {outcomes : List Outcome} {failure : Failure}
    (passed : (migrateAll job tree before).result = .ok outcomes)
    (failed : (migrate job (migrateAll job tree before).tree path).result = .error failure)
    (after : List Path) :
    (migrateAll job tree (before ++ path :: after)).result = .error failure ∧
      (migrateAll job tree (before ++ path :: after)).tree =
        (migrate job (migrateAll job tree before).tree path).tree := by
  induction before generalizing tree outcomes with
  | nil => exact migrateAll_cons_of_error failed after
  | cons first before ih =>
      obtain ⟨done, others, here, later, _⟩ := exists_of_migrateAll_cons passed
      rw [(migrateAll_cons here before).2] at failed ⊢
      obtain ⟨result, last⟩ := ih later failed
      rw [List.cons_append, (migrateAll_cons here _).1, (migrateAll_cons here _).2, result, last]
      exact ⟨rfl, rfl⟩

private theorem exists_of_migrateAll_eq_error {paths : List Path} {failure : Failure}
    (failed : (migrateAll job tree paths).result = .error failure) :
    ∃ before path after outcomes, paths = before ++ path :: after ∧
      (migrateAll job tree before).result = .ok outcomes ∧
      (migrate job (migrateAll job tree before).tree path).result = .error failure := by
  induction paths generalizing tree with
  | nil => cases failed
  | cons path rest ih =>
      cases here : (migrate job tree path).result with
      | error fault =>
          rw [(migrateAll_cons_of_error here rest).1] at failed
          cases failed
          exact ⟨[], path, rest, [], rfl, rfl, here⟩
      | ok done =>
          obtain ⟨result, _⟩ := migrateAll_cons here rest
          rw [result] at failed
          cases later : (migrateAll job (migrate job tree path).tree rest).result with
          | ok outcomes =>
              rw [later] at failed
              cases failed
          | error fault =>
              rw [later] at failed
              cases failed
              obtain ⟨before, other, after, outcomes, rfl, passed, stopped⟩ := ih later
              obtain ⟨resultBefore, lastBefore⟩ := migrateAll_cons here before
              refine ⟨path :: before, other, after, done :: outcomes, rfl, ?_, ?_⟩
              · rw [resultBefore, passed]
                rfl
              · rw [lastBefore]
                exact stopped

structure StopsAt (job : Job) (tree : Tree) (paths before : List Path) (path : Path)
    (diagnostic : Diagnostic) : Prop where
  divided : ∃ after, paths = before ++ path :: after
  passed : ∃ outcomes, (migrateAll job tree before).result = .ok outcomes
  stopped : ∃ error, (migrate job (migrateAll job tree before).tree path).result = .error (.edit path error) ∧
    error.diagnostic? = some diagnostic

theorem exists_stopsAt_iff {paths : List Path} :
    (∃ before path diagnostic, StopsAt job tree paths before path diagnostic) ↔
      ∃ path error diagnostic, (migrateAll job tree paths).result = .error (.edit path error) ∧
        error.diagnostic? = some diagnostic := by
  constructor
  · rintro ⟨before, path, diagnostic, ⟨after, rfl⟩, ⟨outcomes, passed⟩, error, stopped, known⟩
    exact ⟨path, error, diagnostic, (migrateAll_of_failed passed stopped after).1, known⟩
  · rintro ⟨path, error, diagnostic, failed, known⟩
    obtain ⟨before, other, after, outcomes, divided, passed, stopped⟩ := exists_of_migrateAll_eq_error failed
    obtain ⟨_, _, _, _, _, rfl⟩ := exists_of_migrate_eq_edit stopped
    exact ⟨before, path, diagnostic, ⟨after, divided⟩, ⟨outcomes, passed⟩, error, stopped, known⟩

theorem StopsAt.tree_eq {paths before : List Path} {diagnostic : Diagnostic}
    (stops : StopsAt job tree paths before path diagnostic) :
    (migrateAll job tree paths).tree = (migrateAll job tree before).tree := by
  obtain ⟨⟨after, rfl⟩, ⟨outcomes, passed⟩, error, stopped, _⟩ := stops
  rw [(migrateAll_of_failed passed stopped after).2, tree_migrate_of_edit stopped]

theorem tree_migrateAll_of_dry (idle : job.write = false) (tree : Tree) (paths : List Path) :
    (migrateAll job tree paths).tree = tree := by
  induction paths generalizing tree with
  | nil => rfl
  | cons path rest ih =>
      cases here : (migrate job tree path).result with
      | error failure => rw [(migrateAll_cons_of_error here rest).2, tree_migrate_of_dry idle]
      | ok done => rw [(migrateAll_cons here rest).2, ih, tree_migrate_of_dry idle]

end Migration

/-! ### Backups and temporary files -/

section Beside

variable {tree : Tree} {path other : Path} {place : Location}

private theorem exists_beside_of_resolve {ending : Text} (long : 2 < ending.length)
    (resolved : tree.resolve (path.withEnding ending) = .ok place) :
    ∃ spot : Location, place = spot.beside ending := by
  obtain ⟨_, _, led⟩ := Tree.resolve_eq_ok_iff.mp resolved
  obtain ⟨there, _, _, followed⟩ := Tree.resolveFrom_snoc_eq_ok_iff.mp led
  rcases Tree.follow_cases followed with ⟨upward, _⟩ | ⟨_, _, same⟩
  · exact absurd upward (Location.ne_parentName long)
  · exact ⟨there ++ [path.name], by rw [same, Location.beside_snoc]⟩

theorem resolve_temporary_ne (saved : tree.resolve path.backup = .ok place) :
    tree.resolve other.temporary ≠ .ok place := by
  intro spare
  obtain ⟨first, rfl⟩ := exists_beside_of_resolve (by decide) saved
  obtain ⟨second, same⟩ := exists_beside_of_resolve (by decide) spare
  exact first.backup_ne_temporary second same

end Beside

end AlertMigration.File

namespace AlertMigration.Command

/-! ### Commands -/

/-- A command line asks for a migration that is to be written, and these are the files that it stands for. -/
structure Writes (host : Host) (environment : Environment) (texts : List Text) (tree : File.Tree)
    (arguments : Arguments) (config : Config) (targets : List File.Path) : Prop where
  parsed : parse host.dialect texts = .ok (.migrateAlerts, arguments)
  wanted : arguments.write = true
  loaded : Config.load environment = .ok config
  collected : (collect host.strictness tree config.extensions .empty arguments.roots).2 = .ok targets

section Commands

variable {strictness : File.Strictness} {config : Config} {arguments : Arguments} {tree : File.Tree}

theorem tree_check (strictness : File.Strictness) (config : Config) (arguments : Arguments)
    (tree : File.Tree) :
    (check strictness config arguments tree).tree = tree := by
  unfold check
  split
  · rfl
  · split
    · rfl
    · rfl
    · rfl

theorem migrateAlerts_of_collected {targets : List File.Path}
    (collected : (collect strictness tree config.extensions .empty arguments.roots).2 = .ok targets)
    (threshold : LogLevel) :
    (migrateAlerts strictness config threshold arguments tree).tree =
        (File.migrateAll (arguments.job config) tree targets).tree ∧
      ((migrateAlerts strictness config threshold arguments tree).exit = .ok 1 ↔
        ∃ path error diagnostic, (File.migrateAll (arguments.job config) tree targets).result =
          .error (.edit path error) ∧ error.diagnostic? = some diagnostic) := by
  have paired : collect strictness tree config.extensions .empty arguments.roots = (_, .ok targets) :=
    Prod.ext rfl collected
  unfold migrateAlerts
  rw [paired]
  dsimp only
  split
  · rename_i outcomes finished
    refine ⟨rfl, iff_of_false (fun ended => by cases ended) ?_⟩
    rintro ⟨path, error, diagnostic, failed, _⟩
    rw [finished] at failed
    cases failed
  · rename_i path error failed
    split
    · rename_i diagnostic known
      exact ⟨rfl, iff_of_true rfl ⟨path, error, diagnostic, failed, known⟩⟩
    · rename_i unknown
      refine ⟨rfl, iff_of_false (fun ended => by cases ended) ?_⟩
      rintro ⟨other, fault, diagnostic, same, known⟩
      rw [failed] at same
      cases same
      rw [unknown] at known
      cases known
  · rename_i failure unlike failed
    refine ⟨rfl, iff_of_false (fun ended => by cases ended) ?_⟩
    rintro ⟨path, error, diagnostic, same, _⟩
    rw [failed] at same
    cases same
    exact unlike path error rfl

private theorem tree_migrateAlerts_of_not_collected {failure : File.Failure}
    (failed : (collect strictness tree config.extensions .empty arguments.roots).2 = .error failure)
    (threshold : LogLevel) : (migrateAlerts strictness config threshold arguments tree).tree = tree := by
  have paired : collect strictness tree config.extensions .empty arguments.roots = (_, .error failure) :=
    Prod.ext rfl failed
  unfold migrateAlerts
  rw [paired]
  rfl

end Commands

section Run

variable {host : Host} {environment : Environment} {texts : List Text} {tree : File.Tree}

private theorem tree_run_of_not_writes (quiet : host.Quiet)
    (idle : ∀ arguments config targets, ¬ Writes host environment texts tree arguments config targets) :
    (run host environment texts tree).tree = tree := by
  unfold run
  split
  · rename_i stop _
    cases stop with
    | help scope => rfl
    | version => rfl
    | misuse scope message => rfl
  · rename_i task arguments parsed
    split
    · rfl
    · rename_i config loaded
      cases task with
      | check => exact tree_check host.strictness config arguments tree
      | serve => exact quiet _ _
      | migrateAlerts =>
          dsimp only
          cases collected : (collect host.strictness tree config.extensions .empty arguments.roots).2 with
          | error failure => exact tree_migrateAlerts_of_not_collected collected _
          | ok targets =>
              have dry : (arguments.job config).write = false := by
                apply Bool.eq_false_iff.mpr
                exact fun wanted => idle arguments config targets ⟨parsed, wanted, loaded, collected⟩
              rw [(migrateAlerts_of_collected collected _).1, File.tree_migrateAll_of_dry dry]

variable {arguments : Arguments} {config : Config} {targets : List File.Path}

theorem Writes.run_eq (writes : Writes host environment texts tree arguments config targets) :
    run host environment texts tree =
      migrateAlerts host.strictness config (arguments.logLevel.getD config.logLevel) arguments tree := by
  rw [run, writes.parsed]
  simp only [writes.loaded]

private theorem backup_of_load (loaded : Config.load environment = .ok config) :
    config.backup = Config.readSwitch environment.backup true := by
  unfold Config.load at loaded
  split at loaded
  · cases loaded
  · split at loaded
    · cases loaded
    · cases loaded
      rfl

private theorem job_backup_eq_false (loaded : Config.load environment = .ok config)
    (unwanted : arguments.noBackup = true ∨ Config.readSwitch environment.backup true = false) :
    (arguments.job config).backup = false := by
  change (config.backup && !arguments.noBackup) = false
  rw [backup_of_load loaded]
  rcases unwanted with given | off
  · rw [given, Bool.not_true, Bool.and_false]
  · rw [off, Bool.false_and]

end Run

/-- A command line changes the tree only if it asks for a migration that is to be written. No path leads
elsewhere afterwards, and nothing is changed but at its targets, their backups and their temporary files.
Without backups, the backup of a target is changed only if it is itself a target. Where the run stops with a
diagnostic, it leaves what the targets before have led to. -/
theorem run_changes_targets_only {host : Host} (quiet : host.Quiet) (environment : Environment)
    (texts : List Text) (tree : File.Tree) :
    ((∀ arguments config targets, ¬ Writes host environment texts tree arguments config targets) →
      (run host environment texts tree).tree = tree) ∧
    ∀ arguments config targets, Writes host environment texts tree arguments config targets →
      File.Tree.SameDirectories tree (run host environment texts tree).tree ∧
      (∀ place, (∀ target ∈ targets, tree.resolve target ≠ .ok place ∧
          tree.resolve target.backup ≠ .ok place ∧ tree.resolve target.temporary ≠ .ok place) →
        (run host environment texts tree).tree.lookup place = tree.lookup place) ∧
      (arguments.noBackup = true ∨ Config.readSwitch environment.backup true = false →
        ∀ target ∈ targets, ∀ place, tree.resolve target.backup = .ok place →
          (∀ other ∈ targets, tree.resolve other ≠ .ok place) →
          (run host environment texts tree).tree.lookup place = tree.lookup place) ∧
      ((run host environment texts tree).exit = .ok 1 ↔ ∃ before target diagnostic,
        File.StopsAt (arguments.job config) tree targets before target diagnostic) ∧
      ∀ before target diagnostic, File.StopsAt (arguments.job config) tree targets before target diagnostic →
        (run host environment texts tree).tree =
          (File.migrateAll (arguments.job config) tree before).tree := by
  refine ⟨tree_run_of_not_writes quiet, fun arguments config targets writes => ?_⟩
  obtain ⟨left, exit⟩ := migrateAlerts_of_collected writes.collected (arguments.logLevel.getD config.logLevel)
  have framed := File.framed_migrateAll (arguments.job config) tree targets
  rw [writes.run_eq, left, exit]
  refine ⟨framed.directories, ?_, ?_, File.exists_stopsAt_iff.symm,
    fun before target diagnostic stops => stops.tree_eq⟩
  · intro place apart
    apply framed.elsewhere
    rintro ⟨target, member, reaches⟩
    obtain ⟨notFile, notBackup, notTemporary⟩ := apart target member
    cases reaches with
    | file resolved => exact notFile resolved
    | backup wanted resolved => exact notBackup resolved
    | temporary resolved => exact notTemporary resolved
  · intro unwanted target _ place saved apart
    apply framed.elsewhere
    rintro ⟨other, member, reaches⟩
    cases reaches with
    | file resolved => exact apart other member resolved
    | backup wanted resolved =>
        rw [job_backup_eq_false writes.loaded unwanted] at wanted
        cases wanted
    | temporary resolved => exact File.resolve_temporary_ne saved resolved

def openPath : File.Path :=
  ⟨[], ["..".toList, "work".toList, "b.m".toList]⟩

def openPlace : File.Location :=
  File.workplace ++ ["b.m".toList]

def twoFiles : File.Tree :=
  .ofFiles [("a.m".toList, File.encode Source.nestedSource), ("b.m".toList, File.encode (Edit.sampleCall []))]
    (by decide +kernel) (by decide +kernel)

def strictTexts : List Text :=
  ["migrate".toList, "alerts".toList, "--write".toList, "--no-backup".toList, "--on-unterminated".toList,
    "error".toList, "/work/a.m".toList, "../work/b.m".toList]

def strictArguments : Arguments :=
  { Arguments.default with
    paths := [File.rootedPath, openPath], write := true, noBackup := true, policy := some .error }

def strictJob : File.Job :=
  ⟨.error, true, false, false⟩

private theorem writes_twoFiles :
    Writes sampleHost ⟨none, none, none, none⟩ strictTexts twoFiles strictArguments
      ⟨.skip, Config.defaultExtensions, true, .warning⟩ [File.rootedPath, openPath] where
  parsed := parse_eq_of_toOption (by decide +kernel)
  wanted := rfl
  loaded := by decide +kernel
  collected := by decide +kernel

private theorem stopsAt_twoFiles :
    ∃ diagnostic, File.StopsAt strictJob twoFiles [File.rootedPath, openPath] [File.rootedPath] openPath
      diagnostic := by
  obtain ⟨migrated, outcome, rewritten, changed⟩ := File.exists_changed_nestedSource .error
  have file : File.Tree.FileAt twoFiles File.rootedPath File.samplePlace
      (File.encode Source.nestedSource) :=
    ⟨by decide +kernel, File.Tree.lookup_ofFiles List.mem_cons_self⟩
  have other : File.Tree.FileAt twoFiles openPath openPlace (File.encode (Edit.sampleCall [])) :=
    ⟨by decide +kernel, File.Tree.lookup_ofFiles (List.mem_cons_of_mem _ List.mem_cons_self)⟩
  have allowed : File.StoreAllowed strictJob twoFiles File.rootedPath :=
    ⟨(by intro wanted; cases wanted),
      ⟨File.samplePlace.temporary, by decide +kernel, by decide +kernel⟩, rfl⟩
  have due : File.WriteDue strictJob twoFiles File.rootedPath File.samplePlace
      (File.encode Source.nestedSource) migrated outcome :=
    ⟨file, ⟨_, File.decode?_encode _, rewritten⟩, rfl, changed⟩
  obtain ⟨finished, replaced⟩ := (File.migrate_of_due due).1 allowed
  obtain ⟨passed, last⟩ := File.migrateAll_singleton finished
  have kept := other.edited replaced.directories
    ((replaced.elsewhere _ (by decide) (by decide) (by decide)).trans other.found)
  rw [← last] at kept
  obtain ⟨stopped, _⟩ := File.migrate_of_sampleCall strictJob rfl kept
  exact ⟨_, ⟨[], rfl⟩, ⟨_, passed⟩, _, stopped, rfl⟩

/-- The run over the two files stops at the second. It has written the first, without a backup. -/
theorem run_changes_targets_only_sample :
    Writes sampleHost ⟨none, none, none, none⟩ strictTexts twoFiles strictArguments
        ⟨.skip, Config.defaultExtensions, true, .warning⟩ [File.rootedPath, openPath] ∧
      (run sampleHost ⟨none, none, none, none⟩ strictTexts twoFiles).exit = .ok 1 ∧
      (run sampleHost ⟨none, none, none, none⟩ strictTexts twoFiles).tree =
        (File.migrateAll strictJob twoFiles [File.rootedPath]).tree ∧
      (run sampleHost ⟨none, none, none, none⟩ strictTexts twoFiles).tree.lookup
        File.samplePlace.backup = none := by
  obtain ⟨diagnostic, stops⟩ := stopsAt_twoFiles
  have quiet : sampleHost.Quiet := fun _ _ => rfl
  obtain ⟨_, _, unsaved, status, left⟩ :=
    (run_changes_targets_only quiet ⟨none, none, none, none⟩ strictTexts twoFiles).2 _ _ _ writes_twoFiles
  refine ⟨writes_twoFiles, status.mpr ⟨_, _, diagnostic, stops⟩, left _ _ diagnostic stops, ?_⟩
  refine unsaved (.inl rfl) File.rootedPath List.mem_cons_self _ (by decide +kernel) ?_
  decide +kernel

end AlertMigration.Command
