import AlertMigration.Command.Run
import AlertMigration.Proofs.DryRuns
import AlertMigration.Proofs.Sessions
import AlertMigration.Proofs.UnifiedBreaks

/-!
The check agrees with a dry run of the migration.

The check reads a source with unified line breaks and looks for calls; the migration reads it as it is and
edits it. A source holds no call exactly if its migration, which may not stop at an unterminated call, changes
nothing and warns of nothing (`legacyLines_eq_nil_iff`), and what the check prints is one entry for each call
in the sources as they are (`listCalls_eq`).
-/

namespace AlertMigration

/-! ### Sources without calls -/

theorem Edit.resting_of_inert {policy : Policy} {buffer : List Text}
    (inert : ∀ line ∈ buffer, Alert.isCall line = false) : Resting policy buffer := by
  induction buffer with
  | nil => exact trivial
  | cons line rest ih =>
      obtain ⟨here, later⟩ := List.forall_mem_cons.mp inert
      exact (resting_cons_of_inert here).mpr (ih later)

theorem Source.legacyLines_eq_nil_iff {policy : Policy} {source migrated : Text} {outcome : Source.Outcome}
    (done : (migrate policy source).result = .ok (migrated, outcome)) :
    legacyLines source = [] ↔ outcome.changed = false ∧ outcome.warnings = [] := by
  obtain ⟨report, finished, _, rfl⟩ := exists_report_of_ok done
  obtain ⟨_, consistent⟩ := Edit.consistent_run finished
  have quiet : report.warnings = [] ↔ report.unterminated = [] := by
    rw [← List.length_eq_zero_iff, ← List.length_eq_zero_iff, consistent.warnings]
  have accounted (resting : Edit.Resting policy source.splitLines) :
      report.converted = 0 ∧ report.unterminated = positions Alert.isCall 0 source.splitLines := by
    obtain ⟨also, again, _, converted, _, unterminated⟩ := Edit.run_of_resting resting
    rw [finished] at again
    cases again
    exact ⟨converted, unterminated⟩
  rw [legacyLines_eq_positions, positions_eq_nil_iff]
  constructor
  · intro inert
    obtain ⟨converted, unterminated⟩ := accounted (Edit.resting_of_inert inert)
    rw [positions_eq_nil_iff.mpr inert] at unterminated
    exact ⟨decide_eq_false (Nat.not_lt.mpr converted.le), quiet.mpr unterminated⟩
  · rintro ⟨unchanged, silent⟩
    have converted : report.converted = 0 := Nat.eq_zero_of_not_pos (of_decide_eq_false unchanged)
    obtain ⟨_, unterminated⟩ := accounted (Edit.resting_of_converted_eq_zero finished converted)
    rw [quiet.mp silent] at unterminated
    exact positions_eq_nil_iff.mp unterminated.symm

/-! ### Sources in a tree -/

def File.Tree.textAt? (tree : File.Tree) (path : File.Path) : Option Text :=
  (tree.read path).toOption.bind File.decode?

theorem File.Tree.textAt?_eq_some_iff {tree : File.Tree} {path : File.Path} {source : Text} :
    tree.textAt? path = some source ↔
      ∃ content, tree.read path = .ok content ∧ File.decode? content = some source := by
  unfold textAt?
  cases tree.read path with
  | error error => simp [Except.toOption]
  | ok content => simp [Except.toOption]

namespace Command

/-! ### Printing -/

def printed (texts : List String) : String :=
  String.join (texts.map (· ++ "\n"))

private theorem out_lines (console : Console) (texts : List String) :
    (console.lines texts).out = console.out ++ printed texts := by
  induction texts generalizing console with
  | nil => exact String.append_empty.symm
  | cons text rest ih =>
      change ((console.line text).lines rest).out = _
      rw [ih]
      simp only [printed, List.map_cons, String.join_cons, Console.line, String.append_assoc]

private theorem lines_append (console : Console) (texts others : List String) :
    console.lines (texts ++ others) = (console.lines texts).lines others :=
  List.foldl_append

private theorem out_errorLines (console : Console) (texts : List String) :
    (console.errorLines texts).out = console.out := by
  induction texts generalizing console with
  | nil => rfl
  | cons text rest ih => exact ih (console.errorLine text)

private theorem out_collect (strictness : File.Strictness) (tree : File.Tree) (extensions : List Text)
    (console : Console) (paths : List File.Path) :
    (collect strictness tree extensions console paths).1.out = console.out := by
  induction paths generalizing console with
  | nil => rfl
  | cons path rest ih =>
      rw [collect]
      split
      · rfl
      · exact ih _
      · split
        · rfl
        · exact ih console

/-! ### Listing the calls -/

def callEntries (tree : File.Tree) (path : File.Path) : List String :=
  (Source.legacyLines ((tree.textAt? path).getD [])).map fun number =>
    s!"{path.render}:{number}: legacy UIAlertView call"

private theorem legacyLinesOf_eq {tree : File.Tree} {path : File.Path} {source : Text}
    (readable : tree.textAt? path = some source) :
    legacyLinesOf tree path = .ok (Source.legacyLines source) := by
  obtain ⟨content, done, decoded⟩ := File.Tree.textAt?_eq_some_iff.mp readable
  unfold legacyLinesOf
  simp only [done, decoded, Source.legacyLines_unifyBreaks]

theorem listCalls_eq {tree : File.Tree} {paths : List File.Path}
    (readable : ∀ path ∈ paths, ∃ source, tree.textAt? path = some source) (console : Console) (found : Nat) :
    listCalls tree console found paths =
      (console.lines (paths.flatMap (callEntries tree)),
        .ok (found + (paths.flatMap (callEntries tree)).length)) := by
  induction paths generalizing console found with
  | nil => rfl
  | cons path rest ih =>
      obtain ⟨⟨source, here⟩, later⟩ := List.forall_mem_cons.mp readable
      have entries : callEntries tree path = (Source.legacyLines source).map fun number =>
          s!"{path.render}:{number}: legacy UIAlertView call" := by
        rw [callEntries, here, Option.getD_some]
      rw [listCalls, legacyLinesOf_eq here]
      dsimp only
      rw [ih later, ← entries, List.flatMap_cons, lines_append, List.length_append, entries,
        List.length_map, Nat.add_assoc]

theorem check_eq {strictness : File.Strictness} {config : Config} {arguments : Arguments} {tree : File.Tree}
    {console : Console} {targets : List File.Path}
    (collected : collect strictness tree config.extensions .empty arguments.roots = (console, .ok targets))
    (readable : ∀ path ∈ targets, ∃ source, tree.textAt? path = some source) :
    check strictness config arguments tree =
      if targets.flatMap (callEntries tree) = [] then
        .unchanged (.ok 0) (console.line "No legacy alert calls found.") tree
      else
        .unchanged (.ok 1)
          ((console.lines (targets.flatMap (callEntries tree))).line
            s!"Found {(targets.flatMap (callEntries tree)).length} legacy alert call(s).") tree := by
  rw [check, collected]
  dsimp only
  rw [listCalls_eq readable, Nat.zero_add]
  cases targets.flatMap (callEntries tree) with
  | nil => rfl
  | cons entry rest => rfl

/-! ### The two commands side by side -/

/-- A command line that checks and one that tries a migration, without writing and under a policy that does
not stop, have the same paths, and these stand for sources that can be read, with lines below the width limit. -/
structure SameTargets (host : Host) (environment : Environment) (tree : File.Tree)
    (checking migrating : List Text) (config : Config) (arguments dry : Arguments)
    (targets : List File.Path) : Prop where
  loaded : Config.load environment = .ok config
  checks : parse host.dialect checking = .ok (.check, arguments)
  migrates : parse host.dialect migrating = .ok (.migrateAlerts, dry)
  paths : dry.paths = arguments.paths
  unwritten : dry.write = false
  lenient : (dry.job config).policy ≠ .error
  collected : (collect host.strictness tree config.extensions .empty arguments.roots).2 = .ok targets
  readable : ∀ path ∈ targets, ∃ source, tree.textAt? path = some source ∧
    ∀ line ∈ source.splitLines, line.length < Block.widthLimit

private theorem exists_forall₂ {α β : Type} {relates : α → β → Prop} {items : List α}
    (each : ∀ item ∈ items, ∃ other, relates item other) : ∃ others, List.Forall₂ relates items others := by
  induction items with
  | nil => exact ⟨[], .nil⟩
  | cons item rest ih =>
      obtain ⟨⟨other, here⟩, later⟩ := List.forall_mem_cons.mp each
      obtain ⟨others, related⟩ := ih later
      exact ⟨other :: others, .cons here related⟩

/-- The outcome of a file is that of a source without calls. -/
def Uneventful (done : File.Outcome) : Prop :=
  done.outcome.changed = false ∧ done.outcome.warnings = []

private theorem exists_dry_outcome {job : File.Job} (unwritten : job.write = false)
    (lenient : job.policy ≠ .error) {tree : File.Tree} {path : File.Path} {source : Text}
    (readable : tree.textAt? path = some source)
    (short : ∀ line ∈ source.splitLines, line.length < Block.widthLimit) :
    ∃ done, (File.migrate job tree path).result = .ok done ∧
      (callEntries tree path = [] ↔ Uneventful done) := by
  obtain ⟨content, contained, decoded⟩ := File.Tree.textAt?_eq_some_iff.mp readable
  obtain ⟨migrated, outcome, rewritten⟩ := Source.exists_migrated_of_going short
    fun part _ => Edit.stops_eq_false_of_lenient lenient part
  refine ⟨⟨path, outcome⟩, File.migrate_of_dry unwritten contained decoded rewritten, ?_⟩
  rw [callEntries, readable, Option.getD_some, List.map_eq_nil_iff]
  exact Source.legacyLines_eq_nil_iff rewritten

private theorem uneventful_iff {job : File.Job} {tree : File.Tree} {targets : List File.Path}
    {outcomes : List File.Outcome}
    (each : List.Forall₂ (fun path done => (File.migrate job tree path).result = .ok done ∧
      (callEntries tree path = [] ↔ Uneventful done)) targets outcomes) :
    targets.flatMap (callEntries tree) = [] ↔ ∀ done ∈ outcomes, Uneventful done := by
  induction each with
  | nil => exact iff_of_true rfl (List.forall_mem_nil _)
  | cons here _ ih => rw [List.flatMap_cons, List.append_eq_nil_iff, List.forall_mem_cons, here.2, ih]

namespace SameTargets

variable {host : Host} {environment : Environment} {tree : File.Tree} {checking migrating : List Text}
  {config : Config} {arguments dry : Arguments} {targets : List File.Path}
  (same : SameTargets host environment tree checking migrating config arguments dry targets)

include same

theorem exists_console : ∃ console, console.out = "" ∧
    collect host.strictness tree config.extensions .empty arguments.roots = (console, .ok targets) :=
  ⟨_, out_collect .., Prod.ext rfl same.collected⟩

theorem run_checking : run host environment checking tree = check host.strictness config arguments tree := by
  rw [run, same.checks]
  simp only [same.loaded]

theorem run_migrating {outcomes : List File.Outcome}
    (finished : (File.migrateAll (dry.job config) tree targets).result = .ok outcomes)
    (kept : (File.migrateAll (dry.job config) tree targets).tree = tree) :
    (run host environment migrating tree).exit = .ok 0 ∧
      (run host environment migrating tree).console.out = printed (migrationLines false outcomes) ∧
      (run host environment migrating tree).tree = tree := by
  obtain ⟨console, blank, collected⟩ := same.exists_console
  have roots : dry.roots = arguments.roots := by
    rw [Arguments.roots, Arguments.roots, same.paths]
  rw [run, same.migrates]
  simp only [same.loaded, migrateAlerts, roots, collected, finished, same.unwritten]
  refine ⟨trivial, ?_, kept⟩
  rw [out_lines, Console.log, out_errorLines, blank, String.empty_append]

end SameTargets

/-- The calls of a source do not depend on its line breaks; so, over the same paths, the check ends with status
0 exactly if a dry run of the migration would change nothing and warn of nothing. Otherwise it ends with status
1 and has printed one entry for each call in the sources as they are, and their number. -/
theorem check_agrees_with_dry_run :
    (∀ source : Text, Source.legacyLines source.unifyBreaks = Source.legacyLines source) ∧
    ∀ (host : Host) {environment : Environment} {tree : File.Tree} {checking migrating : List Text}
      {config : Config} {arguments dry : Arguments} {targets : List File.Path},
      SameTargets host environment tree checking migrating config arguments dry targets →
      ∃ outcomes, (File.migrateAll (dry.job config) tree targets).result = .ok outcomes ∧
        ((run host environment migrating tree).exit = .ok 0 ∧
          (run host environment migrating tree).console.out = printed (migrationLines false outcomes) ∧
          (run host environment migrating tree).tree = tree) ∧
        ((run host environment checking tree).exit = .ok 0 ↔ ∀ done ∈ outcomes, Uneventful done) ∧
        ((run host environment checking tree).exit ≠ .ok 0 →
          (run host environment checking tree).exit = .ok 1 ∧
          (run host environment checking tree).console.out =
            printed (targets.flatMap (callEntries tree) ++
              [s!"Found {(targets.flatMap (callEntries tree)).length} legacy alert call(s)."])) := by
  refine ⟨Source.legacyLines_unifyBreaks, fun host _ tree _ _ config arguments dry targets same => ?_⟩
  have migrated : ∀ path ∈ targets, ∃ done, (File.migrate (dry.job config) tree path).result = .ok done ∧
      (callEntries tree path = [] ↔ Uneventful done) := by
    intro path member
    obtain ⟨source, readable, short⟩ := same.readable path member
    exact exists_dry_outcome same.unwritten same.lenient readable short
  obtain ⟨outcomes, each⟩ := exists_forall₂ migrated
  obtain ⟨finished, kept⟩ := File.migrateAll_of_dry same.unwritten (each.imp fun _ _ related => related.1)
  obtain ⟨console, blank, collected⟩ := same.exists_console
  have readable : ∀ path ∈ targets, ∃ source, tree.textAt? path = some source := fun path member =>
    (same.readable path member).imp fun _ known => known.1
  refine ⟨outcomes, finished, same.run_migrating finished kept, ?_⟩
  rw [same.run_checking, check_eq collected readable, ← uneventful_iff each]
  by_cases empty : targets.flatMap (callEntries tree) = []
  · rw [if_pos empty]
    exact ⟨iff_of_true rfl empty, fun failed => absurd rfl failed⟩
  · rw [if_neg empty]
    refine ⟨iff_of_false (fun ended => ?_) empty, fun _ => ⟨rfl, ?_⟩⟩
    · cases ended
    · change ((console.lines _).lines [_]).out = _
      rw [← lines_append, out_lines, blank, String.empty_append]

theorem parse_eq_of_toOption {dialect : Dialect} {texts : List Text} {reading : Task × Arguments}
    (read : (parse dialect texts).toOption = some reading) : parse dialect texts = .ok reading := by
  cases parsed : parse dialect texts with
  | error stop =>
      rw [parsed] at read
      cases read
  | ok other =>
      rw [parsed] at read
      exact congrArg Except.ok (Option.some.inj read)

def sampleHost : Host :=
  ⟨"", .early, .all, fun _ tree => ⟨.ok (), tree, []⟩⟩

def sampleArguments : Arguments :=
  { Arguments.default with paths := [File.samplePath, File.rootedPath] }

def sampleChecking : List Text :=
  ["check".toList, "a.m".toList, "/work/a.m".toList]

def sampleMigrating : List Text :=
  ["migrate".toList, "alerts".toList, "a.m".toList, "/work/a.m".toList]

private theorem sameTargets_sampleTree :
    SameTargets sampleHost ⟨none, none, none, none⟩ File.sampleTree sampleChecking sampleMigrating
      ⟨.skip, Config.defaultExtensions, true, .warning⟩ sampleArguments sampleArguments
      [File.samplePath, File.rootedPath] where
  loaded := by decide +kernel
  checks := parse_eq_of_toOption (by decide +kernel)
  migrates := parse_eq_of_toOption (by decide +kernel)
  paths := rfl
  unwritten := rfl
  lenient := by decide
  collected := by decide +kernel
  readable := by
    have file : ∀ path ∈ [File.samplePath, File.rootedPath],
        File.Tree.FileAt File.sampleTree path File.samplePlace (File.encode Source.nestedSource) :=
      List.forall_mem_cons.mpr ⟨File.fileAt_sampleTree.1, List.forall_mem_singleton.mpr File.fileAt_sampleTree.2⟩
    intro path member
    refine ⟨Source.nestedSource, File.Tree.textAt?_eq_some_iff.mpr
      ⟨_, File.Tree.read_eq_ok_iff.mpr ⟨_, file path member⟩, File.decode?_encode _⟩, ?_⟩
    decide +kernel

theorem check_agrees_with_dry_run_sample :
    SameTargets sampleHost ⟨none, none, none, none⟩ File.sampleTree sampleChecking sampleMigrating
        ⟨.skip, Config.defaultExtensions, true, .warning⟩ sampleArguments sampleArguments
        [File.samplePath, File.rootedPath] ∧
      (run sampleHost ⟨none, none, none, none⟩ sampleChecking File.sampleTree).exit = .ok 1 := by
  obtain ⟨outcomes, finished, _, passes,
    fails⟩ := check_agrees_with_dry_run.2 sampleHost sameTargets_sampleTree
  refine ⟨sameTargets_sampleTree, (fails fun passed => ?_).1⟩
  obtain ⟨done, others, here, _, rfl⟩ := File.exists_of_migrateAll_cons finished
  obtain ⟨content, source, _, readable, decoded, rewritten, _⟩ := File.exists_of_migrate_eq_ok here
  obtain ⟨_, outcome, known, changed⟩ := File.exists_changed_nestedSource .skip
  have unchanged := (passes.mp passed done List.mem_cons_self).1
  have contents := (File.Tree.read_eq_ok_iff.mpr ⟨_, File.fileAt_sampleTree.1⟩).symm.trans readable
  rw [← Except.ok.inj contents, File.decode?_encode] at decoded
  rw [← Option.some.inj decoded] at rewritten
  have same := (Prod.mk.inj (Except.ok.inj (rewritten.symm.trans known))).2
  rw [← same, unchanged] at changed
  cases changed

end Command

end AlertMigration
