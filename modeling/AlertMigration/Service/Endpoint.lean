import AlertMigration.Edit

/-!
The endpoints of the migration service.

An endpoint is called with what a request was understood to ask for and ends by returning a result, by
refusing with a status and a text, or by an error that it does not handle. How requests become calls and
how endings become answers is the business of a framework, which is a parameter here.
-/

namespace AlertMigration.Service

/-! ### Summaries -/

structure Summary where
  alertsRewritten : Nat
  inlineRewritten : Nat
  blocksRewritten : Nat
  unterminatedLines : List Nat
  warnings : List String
  changed : Bool
deriving DecidableEq, Repr

namespace Summary

/-- The value of a field; a missing field has its default, and a value of another kind is refused. -/
def read? {α : Type} (fields : Source.SummaryFields) (name : String)
    (convert : Source.SummaryValue → Option α)
    (missing : α) : Option α :=
  match fields.lookup name with
  | none => some missing
  | some value => convert value

def count? : Source.SummaryValue → Option Nat
  | .count value => some value
  | _ => none

def numbers? : Source.SummaryValue → Option (List Nat)
  | .numbers values => some values
  | _ => none

def texts? : Source.SummaryValue → Option (List String)
  | .texts values => some values
  | _ => none

def flag? : Source.SummaryValue → Option Bool
  | .flag value => some value
  | _ => none

def ofFields? (fields : Source.SummaryFields) : Option Summary := do
  let alertsRewritten ← read? fields "alerts_rewritten" count? 0
  let inlineRewritten ← read? fields "inline_rewritten" count? 0
  let blocksRewritten ← read? fields "blocks_rewritten" count? 0
  let unterminatedLines ← read? fields "unterminated_lines" numbers? []
  let warnings ← read? fields "warnings" texts? []
  let changed ← read? fields "changed" flag? false
  return ⟨alertsRewritten, inlineRewritten, blocksRewritten, unterminatedLines, warnings, changed⟩

end Summary

/-! ### Endpoints -/

structure MigrationOrder where
  source : Text
  policy : Option Policy
deriving DecidableEq, Repr

structure Response where
  source : Text
  summary : Summary
deriving DecidableEq, Repr

inductive Call where
  | health
  | migration (order : MigrationOrder)
deriving DecidableEq, Repr

inductive Result where
  | health (status : String)
  | migration (response : Response)
deriving DecidableEq, Repr

inductive Fault where
  | edit (error : Edit.Error)
  | summary (fields : Source.SummaryFields)
deriving DecidableEq, Repr

inductive Ending where
  | returned (result : Result)
  | refused (status : Nat) (detail : String)
  | failed (fault : Fault)
deriving DecidableEq, Repr

/-- Migrates the source of an order, under its own policy or else the configured one. -/
def migrate (config : Config) (order : MigrationOrder) : Ending × List LogRecord :=
  let migration := Source.migrateSummarized (order.policy.getD config.policy) order.source
  match migration.result with
  | .ok (migrated, _, fields) =>
      match Summary.ofFields? fields with
      | some summary => (.returned (.migration ⟨migrated, summary⟩), migration.log)
      | none => (.failed (.summary fields), migration.log)
  | .error error =>
      match error.diagnostic? with
      | some diagnostic =>
          (.refused 400 diagnostic.text,
            migration.log ++ [⟨.info, .endpoint, s!"Alert migration rejected: {diagnostic.text}"⟩])
      | none => (.failed (.edit error), migration.log)

def Call.run (config : Config) : Call → Ending × List LogRecord
  | .health => (.returned (.health "ok"), [])
  | .migration order => migrate config order

/-! ### Frameworks -/

inductive Content (Notice : Type) where
  | result (result : Result)
  | detail (text : String)
  | notice (notice : Notice)
deriving DecidableEq, Repr

structure Answer (Notice : Type) where
  status : Nat
  content : Content Notice
deriving DecidableEq, Repr

structure Framework (Request Notice : Type) where
  receive : Request → Except (Answer Notice) Call
  present : Ending → Answer Notice

/-- Results and refusals reach the client as the endpoints gave them. -/
structure Framework.Transparent {Request Notice : Type} (framework : Framework Request Notice) : Prop where
  returned : ∀ result, framework.present (.returned result) = ⟨200, .result result⟩
  refused : ∀ status detail, framework.present (.refused status detail) = ⟨status, .detail detail⟩

def handle {Request Notice : Type} (framework : Framework Request Notice) (config : Config)
    (request : Request) : Answer Notice × List LogRecord :=
  match framework.receive request with
  | .error answer => (answer, [])
  | .ok call =>
      let (ending, log) := call.run config
      (framework.present ending, log)

def startLog (config : Config) : List LogRecord :=
  [⟨.debug, .service, s!"AlertFixer API ready (on_unterminated={config.policy.name})"⟩]

def answerAll {Request Notice : Type} (framework : Framework Request Notice) (config : Config)
    (requests : List Request) : List (Answer Notice) × List LogRecord :=
  let answers := requests.map (handle framework config)
  (answers.map Prod.fst, startLog config ++ answers.flatMap Prod.snd)

end AlertMigration.Service
