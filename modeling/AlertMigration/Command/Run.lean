import AlertMigration.Command.Line
import AlertMigration.File.Migration
import AlertMigration.Service.Endpoint

/-!
Running a command on a directory tree.

A command returns what it printed, the tree it left, and its exit status; a failure that it does not
report itself takes the place of the status. Log records from the chosen level on go to the error
output, between the other lines in the order of events.
-/

namespace AlertMigration.Command

structure Console where
  out : String
  err : String
deriving DecidableEq, Repr

namespace Console

def empty : Console :=
  ⟨"", ""⟩

def line (console : Console) (text : String) : Console :=
  { console with out := console.out ++ text ++ "\n" }

def lines (console : Console) (texts : List String) : Console :=
  texts.foldl line console

def errorLine (console : Console) (text : String) : Console :=
  { console with err := console.err ++ text ++ "\n" }

def errorLines (console : Console) (texts : List String) : Console :=
  texts.foldl errorLine console

def log (console : Console) (threshold : LogLevel) (records : List LogRecord) : Console :=
  console.errorLines ((records.filter (·.passes threshold)).map LogRecord.render)

end Console

structure Serving where
  host : Option Text
  tcpPort : Option Int
  logLevel : Text
  title : String
  policy : Policy
deriving DecidableEq, Repr

structure Host where
  platform : String
  dialect : Dialect
  strictness : File.Strictness
  listen : Serving → File.Tree → File.Step Unit

/-- The service leaves the disk alone. -/
def Host.Quiet (host : Host) : Prop :=
  ∀ serving tree, (host.listen serving tree).tree = tree

structure Outcome where
  exit : Except File.Failure Nat
  console : Console
  tree : File.Tree
  served : List Serving

def Outcome.unchanged (exit : Except File.Failure Nat) (console : Console) (tree : File.Tree) : Outcome :=
  ⟨exit, console, tree, []⟩

/-- The files that the paths of a command stand for. A path that does not exist is noted and passed
over; a failure ends the collection. -/
def collect (strictness : File.Strictness) (tree : File.Tree) (extensions : List Text) (console : Console) :
    List File.Path → Console × Except File.Failure (List File.Path)
  | [] => (console, .ok [])
  | path :: rest =>
      match tree.entry? strictness path with
      | .error error => (console, .error (.file error))
      | .ok none =>
          collect strictness tree extensions (console.errorLine s!"Path '{path.render}' does not exist.") rest
      | .ok (some _) =>
          match tree.sources strictness path extensions with
          | .error error => (console, .error (.ofWalk error))
          | .ok found =>
              let (console, others) := collect strictness tree extensions console rest
              (console, others.map (found ++ ·))

/-- The paths of a command; none means the working directory. -/
def Arguments.roots (arguments : Arguments) : List File.Path :=
  if arguments.paths.isEmpty then [.current] else arguments.paths

def migrationLines (write : Bool) (outcomes : List File.Outcome) : List String :=
  let changed := outcomes.filter (·.outcome.changed)
  let inlineTotal := outcomes.foldl (fun total done => total + done.outcome.inlineConverted) 0
  let blockTotal := outcomes.foldl (fun total done => total + done.outcome.blockConverted) 0
  let head :=
    if write then
      [s!"Migrated {changed.length} file(s). Inline: {inlineTotal}, with tap block: {blockTotal}."]
    else
      "Dry run. Re-run with --write to apply changes." :: changed.map fun done =>
        let counts := done.outcome
        s!"- {done.path.render}: inline={counts.inlineConverted}, tap_block={counts.blockConverted}"
  head ++ outcomes.flatMap fun done =>
    (done.outcome.details ++ done.outcome.warnings).map fun text => s!"- {done.path.render}: {text}"

def Arguments.job (arguments : Arguments) (config : Config) : File.Job where
  policy := arguments.policy.getD config.policy
  write := arguments.write
  backup := config.backup && !arguments.noBackup
  renameRefused := false

def migrateAlerts (strictness : File.Strictness) (config : Config) (threshold : LogLevel)
    (arguments : Arguments)
    (tree : File.Tree) : Outcome :=
  match collect strictness tree config.extensions .empty arguments.roots with
  | (console, .error failure) => .unchanged (.error failure) console tree
  | (console, .ok targets) =>
      let migration := File.migrateAll (arguments.job config) tree targets
      let console := console.log threshold migration.log
      match migration.result with
      | .ok outcomes =>
          ⟨.ok 0, console.lines (migrationLines arguments.write outcomes), migration.tree, []⟩
      | .error (.edit path error) =>
          match error.diagnostic? with
          | some diagnostic =>
              ⟨.ok 1, console.errorLine s!"- {path.render}: {diagnostic.text}", migration.tree, []⟩
          | none => ⟨.error (.edit path error), console, migration.tree, []⟩
      | .error failure => ⟨.error failure, console, migration.tree, []⟩

/-- The lines of a file that hold a legacy call. Every terminator counts as a line feed. -/
def legacyLinesOf (tree : File.Tree) (path : File.Path) : Except File.Failure (List Nat) :=
  match tree.read path with
  | .error error => .error (.file error)
  | .ok content =>
      match File.decode? content with
      | none => .error (.file .notText)
      | some source => .ok (Source.legacyLines source.unifyBreaks)

def listCalls (tree : File.Tree) (console : Console) (found : Nat) :
    List File.Path → Console × Except File.Failure Nat
  | [] => (console, .ok found)
  | path :: rest =>
      match legacyLinesOf tree path with
      | .error failure => (console, .error failure)
      | .ok numbers =>
          let entries := numbers.map fun number => s!"{path.render}:{number}: legacy UIAlertView call"
          listCalls tree (console.lines entries) (found + numbers.length) rest

def check (strictness : File.Strictness) (config : Config) (arguments : Arguments)
    (tree : File.Tree) : Outcome :=
  match collect strictness tree config.extensions .empty arguments.roots with
  | (console, .error failure) => .unchanged (.error failure) console tree
  | (console, .ok targets) =>
      match listCalls tree console 0 targets with
      | (console, .error failure) => .unchanged (.error failure) console tree
      | (console, .ok 0) => .unchanged (.ok 0) (console.line "No legacy alert calls found.") tree
      | (console, .ok found) =>
          .unchanged (.ok 1) (console.line s!"Found {found} legacy alert call(s).") tree

def serving (config : Config) (arguments : Arguments) : Serving where
  host := arguments.host
  tcpPort := arguments.tcpPort
  logLevel := Text.lower config.logLevel.name.toList
  title := "AlertFixer"
  policy := config.policy

def serve (host : Host) (config : Config) (threshold : LogLevel) (arguments : Arguments) (tree : File.Tree) :
    Outcome :=
  let ended := host.listen (serving config arguments) tree
  { exit := ended.result.map fun _ => 0
    console := Console.empty.log threshold (Service.startLog config ++ ended.log)
    tree := ended.tree
    served := [serving config arguments] }

/-- The version line; the text in parentheses names what the program runs on. -/
def versionLine (platform : String) : String :=
  s!"AlertFixer 1.0.0 ({platform})"

def Stop.outcome (platform : String) (tree : File.Tree) : Stop → Outcome
  | .help scope => .unchanged (.ok 0) ⟨scope.help, ""⟩ tree
  | .version => .unchanged (.ok 0) (Console.empty.line (versionLine platform)) tree
  | .misuse scope message =>
      .unchanged (.ok 2) ⟨"", scope.usage ++ s!"{scope.program}: error: {message}\n"⟩ tree

def run (host : Host) (environment : Environment) (texts : List Text) (tree : File.Tree) : Outcome :=
  match parse host.dialect texts with
  | .error stop => stop.outcome host.platform tree
  | .ok (task, arguments) =>
      match Config.load environment with
      | .error error =>
          .unchanged (.ok 2)
            (Console.empty.errorLine s!"Configuration error: {error.diagnostic.text}") tree
      | .ok config =>
          let threshold := arguments.logLevel.getD config.logLevel
          match task with
          | .migrateAlerts => migrateAlerts host.strictness config threshold arguments tree
          | .check => check host.strictness config arguments tree
          | .serve => serve host config threshold arguments tree

end AlertMigration.Command
