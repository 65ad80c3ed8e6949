import AlertMigration.Proofs.ChangedTexts
import AlertMigration.Proofs.Sessions
import AlertMigration.Proofs.StoppedRuns
import AlertMigration.Service.Http

/-!
The service and the migration of files agree.

A request that a framework takes for an order is compared with the migration of a file that holds the source in
UTF-8, under the same policy. Both rest on the migration of the source; the endpoint copies its counts into a
summary by the names of the fields, and the file is written only if there is something to change. Of the
framework it matters only that it hands the order over and presents what the endpoint has ended with.
-/

namespace AlertMigration

open File.Tree (FileAt)

namespace Source

theorem converted_of_ok {policy : Policy} {source migrated : Text} {outcome : Outcome}
    (done : (migrate policy source).result = .ok (migrated, outcome)) :
    outcome.converted = outcome.inlineConverted + outcome.blockConverted := by
  obtain ⟨report, finished, _, rfl⟩ := exists_report_of_ok done
  obtain ⟨_, consistent⟩ := Edit.consistent_run finished
  exact consistent.converted

theorem migrate_cases_of_short {source : Text}
    (short : ∀ line ∈ source.splitLines, line.length < Block.widthLimit) (policy : Policy) :
    (∃ migrated outcome, (migrate policy source).result = .ok (migrated, outcome)) ∨
      ∃ number, (migrate policy source).result = .error (.unterminatedBlock number) := by
  rcases Edit.result_cases_of_short short policy with ⟨report, finished⟩ | ⟨number, stopped⟩
  · exact .inl ⟨_, _, result_migrate_of_ok finished⟩
  · exact .inr ⟨number, result_migrate_of_error stopped⟩

end Source

namespace Service

/-! ### Summaries -/

/-- A summary repeats what an outcome counts and lists. -/
structure Summary.Repeats (summary : Summary) (outcome : Source.Outcome) : Prop where
  alertsRewritten : summary.alertsRewritten = outcome.converted
  inlineRewritten : summary.inlineRewritten = outcome.inlineConverted
  blocksRewritten : summary.blocksRewritten = outcome.blockConverted
  unterminatedLines : summary.unterminatedLines = outcome.unterminated
  warnings : summary.warnings = outcome.warnings
  changed : summary.changed = outcome.changed

private theorem exists_summary (outcome : Source.Outcome) :
    ∃ summary, Summary.ofFields? outcome.summary = some summary ∧ summary.Repeats outcome :=
  ⟨_, rfl, rfl, rfl, rfl, rfl, rfl, rfl⟩

/-! ### Agreement -/

/-- The endpoint ends with a source as the migration of the file ends that held it in the tree. -/
inductive Agrees (tree : File.Tree) (path : File.Path) (place : File.Location) :
    Ending → File.Step File.Outcome → Prop
  | returned {step : File.Step File.Outcome} {response : Response} {outcome : Source.Outcome}
      (finished : step.result = .ok ⟨path, outcome⟩)
      (written : FileAt step.tree path place (File.encode response.source))
      (repeated : response.summary.Repeats outcome)
      (counted : outcome.converted = outcome.inlineConverted + outcome.blockConverted) :
      Agrees tree path place (.returned (.migration response)) step
  | refused {step : File.Step File.Outcome} {number : Nat} {diagnostic : Diagnostic}
      (stopped : step.result = .error (.edit path (.unterminatedBlock number)))
      (named : (Edit.Error.unterminatedBlock number).diagnostic? = some diagnostic)
      (untouched : step.tree = tree) :
      Agrees tree path place (.refused 400 diagnostic.text) step

section Migrate

variable {config : Config} {order : MigrationOrder}

private theorem migrate_of_ok {migrated : Text} {outcome : Source.Outcome}
    (done : (Source.migrate (order.policy.getD config.policy) order.source).result = .ok (migrated, outcome)) :
    ∃ summary, (migrate config order).1 = .returned (.migration ⟨migrated, summary⟩) ∧
      summary.Repeats outcome := by
  obtain ⟨summary, copied, repeated⟩ := exists_summary outcome
  refine ⟨summary, ?_, repeated⟩
  simp only [migrate, Source.migrateSummarized, done, Except.map, copied]

private theorem migrate_of_error {error : Edit.Error} {diagnostic : Diagnostic}
    (stopped : (Source.migrate (order.policy.getD config.policy) order.source).result = .error error)
    (named : error.diagnostic? = some diagnostic) :
    (migrate config order).1 = .refused 400 diagnostic.text := by
  simp only [migrate, Source.migrateSummarized, stopped, Except.map, named]

private theorem agrees_migrate (short : ∀ line ∈ order.source.splitLines, line.length < Block.widthLimit)
    {job : File.Job} {tree : File.Tree} {path : File.Path} {place : File.Location}
    (chosen : job.policy = order.policy.getD config.policy) (wanted : job.write = true)
    (file : FileAt tree path place (File.encode order.source)) (allowed : File.StoreAllowed job tree path) :
    Agrees tree path place (migrate config order).1 (File.migrate job tree path) := by
  rcases Source.migrate_cases_of_short short job.policy with ⟨migrated, outcome, done⟩ | ⟨number, stopped⟩
  · obtain ⟨finished, written⟩ := File.migrate_of_allowed file done wanted allowed
    obtain ⟨summary, returned, repeated⟩ := migrate_of_ok (chosen ▸ done)
    rw [returned]
    exact .returned finished written repeated (Source.converted_of_ok done)
  · have readable := File.Tree.read_eq_ok_iff.mpr ⟨place, file⟩
    obtain ⟨failed, untouched⟩ := File.migrate_of_stopped readable (File.decode?_encode order.source) stopped
    rw [migrate_of_error (chosen ▸ stopped) rfl]
    exact .refused failed rfl untouched

end Migrate

private theorem handle_of_received {Request Notice : Type} {framework : Framework Request Notice}
    {request : Request} {order : MigrationOrder}
    (received : framework.receive request = .ok (.migration order)) (config : Config) :
    (handle framework config request).1 = framework.present (migrate config order).1 := by
  simp only [handle, received, Call.run]

/-- The answer to an order has status 400 exactly if the migration of the file stops at an unterminated block.
Then it gives the text of the diagnostic, and the file is left alone. Otherwise it has status 200, with the text
that the file ends up with and a summary of the outcome that is returned for it. -/
theorem handle_agrees_with_file {Request Notice : Type} {framework : Framework Request Notice}
    (transparent : framework.Transparent) (config : Config) {request : Request} {order : MigrationOrder}
    (received : framework.receive request = .ok (.migration order))
    (short : ∀ line ∈ order.source.splitLines, line.length < Block.widthLimit)
    {job : File.Job} {tree : File.Tree} {path : File.Path} {place : File.Location}
    (chosen : job.policy = order.policy.getD config.policy) (wanted : job.write = true)
    (file : FileAt tree path place (File.encode order.source)) (allowed : File.StoreAllowed job tree path) :
    ∃ answer log, handle framework config request = (answer, log) ∧
      (answer.status = 400 ↔ ∃ number,
        (File.migrate job tree path).result = .error (.edit path (.unterminatedBlock number))) ∧
      (∀ number, (File.migrate job tree path).result = .error (.edit path (.unterminatedBlock number)) →
        (∃ diagnostic, (Edit.Error.unterminatedBlock number).diagnostic? = some diagnostic ∧
          answer.content = .detail diagnostic.text) ∧
        (File.migrate job tree path).tree = tree) ∧
      (answer.status ≠ 400 → answer.status = 200 ∧
        ∃ response outcome, answer.content = .result (.migration response) ∧
          (File.migrate job tree path).result = .ok ⟨path, outcome⟩ ∧
          (File.migrate job tree path).tree.read path = .ok (File.encode response.source) ∧
          response.summary.Repeats outcome ∧
          response.summary.alertsRewritten =
            response.summary.inlineRewritten + response.summary.blocksRewritten) := by
  have agrees := agrees_migrate short chosen wanted file allowed
  have handled := handle_of_received received config
  generalize (migrate config order).1 = ending at agrees handled
  refine ⟨framework.present ending, _, Prod.ext handled rfl, ?_⟩
  cases agrees with
  | returned finished written repeated counted =>
      rw [finished, transparent.returned]
      refine ⟨⟨fun given => ?_, fun ⟨_, given⟩ => ?_⟩, fun _ given => ?_, fun _ => ⟨rfl, ?_⟩⟩
      · cases given
      · cases given
      · cases given
      · refine ⟨_, _, rfl, rfl, File.Tree.read_eq_ok_iff.mpr ⟨place, written⟩, repeated, ?_⟩
        rw [repeated.alertsRewritten, repeated.inlineRewritten, repeated.blocksRewritten, counted]
  | refused stopped named untouched =>
      rw [stopped, transparent.refused]
      refine ⟨⟨fun _ => ⟨_, rfl⟩, fun _ => rfl⟩, fun _ same => ?_, fun other => absurd rfl other⟩
      cases same
      exact ⟨⟨_, named, rfl⟩, untouched⟩

/-! ### Requests over HTTP -/

def policyValue : Option Policy → Json.Value
  | none => .null
  | some policy => .text policy.name.toList

def MigrationOrder.request (order : MigrationOrder) : Request where
  method := "POST"
  target := Route.migration.path
  body := .content (.object
    [("source".toList, .text order.source), ("on_unterminated".toList, policyValue order.policy)])

private theorem readPolicy_policyValue (policy : Option Policy) (source : Json.Value) :
    Body.readPolicy [("source".toList, source), ("on_unterminated".toList, policyValue policy)] =
      .ok policy := by
  cases policy with
  | none => rfl
  | some policy => cases policy <;> rfl

theorem MigrationOrder.receive_request (order : MigrationOrder) :
    receive order.request = .ok (.migration order) := by
  have routed : Route.ofTarget? Route.migration.path = some .migration := by
    decide +kernel
  have posted : "POST".toUpper = "POST" := by
    decide +kernel
  have read : Body.readSource [("source".toList, .text order.source),
      ("on_unterminated".toList, policyValue order.policy)] = .ok order.source := rfl
  simp only [receive, MigrationOrder.request, routed, posted, Body.content?, readOrder, read,
    readPolicy_policyValue]

def oneFile (source : Text) : File.Tree :=
  .ofFiles [("a.m".toList, File.encode source)] (List.nodup_singleton _)
    (List.forall_mem_singleton.mpr (by decide +kernel : File.isEntryName "a.m".toList = true))

private theorem fileAt_oneFile (source : Text) :
    FileAt (oneFile source) File.samplePath File.samplePlace (File.encode source) :=
  ⟨by rfl, File.Tree.lookup_ofFiles List.mem_cons_self⟩

def writingJob (policy : Policy) : File.Job :=
  ⟨policy, true, true, false⟩

private theorem storeAllowed_oneFile (policy : Policy) (source : Text) :
    File.StoreAllowed (writingJob policy) (oneFile source) File.samplePath where
  backup _ := ⟨File.samplePlace.backup, rfl, by intro found; cases found⟩
  temporary := ⟨File.samplePlace.temporary, rfl, by intro found; cases found⟩
  permitted := rfl

def skippingConfig : Config :=
  ⟨.skip, Config.defaultExtensions, true, .warning⟩

/-- A source with closed tap blocks, under the configured policy, and a call that is never closed, under a
policy of its own. -/
theorem handle_agrees_with_file_sample :
    (∃ answer log response, handle http skippingConfig (MigrationOrder.request ⟨Source.nestedSource, none⟩) =
        (answer, log) ∧ answer = ⟨200, .result (.migration response)⟩ ∧
      (File.migrate (writingJob .skip) (oneFile Source.nestedSource) File.samplePath).tree.read
        File.samplePath = .ok (File.encode response.source)) ∧
    ∃ answer log detail,
      handle http skippingConfig (MigrationOrder.request ⟨Edit.sampleCall [], some .error⟩) =
        (answer, log) ∧ answer = ⟨400, .detail detail⟩ ∧
      (File.migrate (writingJob .error) (oneFile (Edit.sampleCall [])) File.samplePath).tree =
        oneFile (Edit.sampleCall []) := by
  obtain ⟨shortNested, shortCall⟩ :
      (∀ line ∈ Source.nestedSource.splitLines, line.length < Block.widthLimit) ∧
        ∀ line ∈ (Edit.sampleCall []).splitLines, line.length < Block.widthLimit := by
    decide +kernel
  constructor
  · have file := fileAt_oneFile Source.nestedSource
    have allowed := storeAllowed_oneFile .skip Source.nestedSource
    obtain ⟨⟨status, content⟩, log, handled, refused, _, served⟩ :=
      handle_agrees_with_file http_transparent skippingConfig
        (MigrationOrder.receive_request ⟨_, none⟩) shortNested rfl rfl file allowed
    obtain ⟨_, _, done⟩ := Source.exists_migrated_nestedSource .skip
    obtain ⟨finished, _⟩ := File.migrate_of_allowed file done rfl allowed
    have accepted : status ≠ 400 := by
      intro given
      obtain ⟨number, stopped⟩ := refused.mp given
      rw [finished] at stopped
      cases stopped
    obtain ⟨rfl, response, outcome, rfl, _, written, _⟩ := served accepted
    exact ⟨_, log, response, handled, rfl, written⟩
  · have file := fileAt_oneFile (Edit.sampleCall [])
    obtain ⟨⟨status, content⟩, log, handled, refused, stops, _⟩ :=
      handle_agrees_with_file http_transparent skippingConfig
        (MigrationOrder.receive_request ⟨_, some .error⟩) shortCall rfl rfl file
        (storeAllowed_oneFile .error (Edit.sampleCall []))
    obtain ⟨stopped, _⟩ := File.migrate_of_sampleCall (writingJob .error) rfl file
    obtain rfl : status = 400 := refused.mpr ⟨1, stopped⟩
    obtain ⟨⟨diagnostic, _, rfl⟩, untouched⟩ := stops 1 stopped
    exact ⟨_, log, _, handled, rfl, untouched⟩

end Service

end AlertMigration
