import AlertMigration.Config
import AlertMigration.File.Tree
import AlertMigration.Text.Quoted

/-!
The command line: its levels and their switches, and how it is read.

What an argument is depends on the level that sees it. A switch may be shortened to any beginning that no
other switch of the level shares, and may carry its value after an equals sign. After a double dash nothing
is a switch any more. Switches take effect in the order in which they stand. The paths of a command are one
run of arguments without a dash; what comes after a later switch, and every unknown switch, is left over
and refused at the end.
-/

namespace AlertMigration.Command

/-! ### Levels -/

inductive Scope where
  | top
  | migrate
  | alerts
  | check
  | serve
deriving DecidableEq, Repr

inductive Switch where
  | help
  | version
  | logLevel
  | write
  | noBackup
  | onUnterminated
  | host
  | tcpPort
deriving DecidableEq, Repr

namespace Switch

def spellings : Switch → List String
  | .help => ["-h", "--help"]
  | .version => ["--version"]
  | .logLevel => ["--log-level"]
  | .write => ["--write"]
  | .noBackup => ["--no-backup"]
  | .onUnterminated => ["--on-unterminated"]
  | .host => ["--host"]
  | .tcpPort => ["--port"]

def name (switch : Switch) : String :=
  "/".intercalate switch.spellings

def takesValue : Switch → Bool
  | .logLevel | .onUnterminated | .host | .tcpPort => true
  | .help | .version | .write | .noBackup => false

end Switch

namespace Scope

def switches : Scope → List Switch
  | .top => [.help, .version, .logLevel]
  | .migrate => [.help]
  | .alerts => [.help, .write, .noBackup, .onUnterminated]
  | .check => [.help]
  | .serve => [.help, .host, .tcpPort]

def spellings (scope : Scope) : List (Text × Switch) :=
  scope.switches.flatMap fun switch => switch.spellings.map fun spelling => (spelling.toList, switch)

def program : Scope → String
  | .top => "alertfixer"
  | .migrate => "alertfixer migrate"
  | .alerts => "alertfixer migrate alerts"
  | .check => "alertfixer check"
  | .serve => "alertfixer serve"

private def lines (texts : List String) : String :=
  String.join (texts.map (· ++ "\n"))

def usage : Scope → String
  | .top => lines [
      "usage: alertfixer [-h] [--version]",
      "                  [--log-level \x7bCRITICAL,ERROR,WARNING,INFO,DEBUG\x7d]",
      "                  \x7bmigrate,check,serve\x7d ..."]
  | .migrate => lines [
      "usage: alertfixer migrate [-h] \x7balerts\x7d ..."]
  | .alerts => lines [
      "usage: alertfixer migrate alerts [-h] [--write] [--no-backup]",
      "                                 [--on-unterminated \x7bskip,collapse,error\x7d]",
      "                                 [paths ...]"]
  | .check => lines [
      "usage: alertfixer check [-h] [paths ...]"]
  | .serve => lines [
      "usage: alertfixer serve [-h] [--host HOST] [--port PORT]"]

private def explanation : Scope → String
  | .top => lines [
      "",
      "Rewrite UIAlertView calls to UIAlertController",
      "",
      "positional arguments:",
      "  \x7bmigrate,check,serve\x7d",
      "    migrate             Migration helpers",
      "    check               List legacy UIAlertView calls without changing",
      "                        anything",
      "    serve               Run the migration HTTP API",
      "",
      "options:",
      "  -h, --help            show this help message and exit",
      "  --version             show program's version number and exit",
      "  --log-level \x7bCRITICAL,ERROR,WARNING,INFO,DEBUG\x7d",
      "                        Logging level (default: ALERTFIXER_LOG_LEVEL or",
      "                        WARNING)"]
  | .migrate => lines [
      "",
      "positional arguments:",
      "  \x7balerts\x7d",
      "    alerts    Rewrite [UIAlertView showWithTitle:...] calls to",
      "              [UIAlertController showAlertInViewController:...].",
      "",
      "options:",
      "  -h, --help  show this help message and exit"]
  | .alerts => lines [
      "",
      "positional arguments:",
      "  paths                 Files or directories containing Objective-C sources",
      "                        (defaults to current directory)",
      "",
      "options:",
      "  -h, --help            show this help message and exit",
      "  --write               Apply changes in place",
      "  --no-backup           Skip writing .bak backups when --write is used",
      "  --on-unterminated \x7bskip,collapse,error\x7d",
      "                        What to do when a tap block has no matching '\x7d];' line",
      "                        (default: skip)"]
  | .check => lines [
      "",
      "positional arguments:",
      "  paths       Files or directories to scan (defaults to current directory)",
      "",
      "options:",
      "  -h, --help  show this help message and exit"]
  | .serve => lines [
      "",
      "options:",
      "  -h, --help   show this help message and exit",
      "  --host HOST",
      "  --port PORT"]

def help (scope : Scope) : String :=
  scope.usage ++ scope.explanation

end Scope

/-! ### Arguments of a level -/

inductive Stop where
  | help (scope : Scope)
  | version
  | misuse (scope : Scope) (message : String)
deriving DecidableEq, Repr

structure Attachment where
  text : Text
  afterEquals : Bool
deriving DecidableEq, Repr

inductive Token.Kind where
  | operand
  | separator
  | switch (switch : Switch) (isLong : Bool) (attached : Option Attachment)
  | unknown
deriving DecidableEq, Repr

structure Token where
  text : Text
  kind : Token.Kind
deriving DecidableEq, Repr

namespace Token

def isLong (spelling : Text) : Bool :=
  "--".toList.isPrefixOf spelling

def splitEquals? (text : Text) : Option (Text × Text) :=
  match text.dropWhile (· != '=') with
  | _ :: value => some (text.takeWhile (· != '='), value)
  | [] => none

/-- The switches that an argument can stand for, each with its spelling. A long one may be shortened;
a short one may be followed by its value at once. -/
def candidates (scope : Scope) (text : Text) : List (Text × Kind) :=
  if isLong text then
    let name := text.takeWhile (· != '=')
    let attached := (splitEquals? text).map fun (_, value) => Attachment.mk value true
    scope.spellings.filterMap fun (spelling, switch) =>
      if name.isPrefixOf spelling then some (spelling, .switch switch true attached) else none
  else
    scope.spellings.filterMap fun (spelling, switch) =>
      if spelling == text.take 2 then
        some (spelling, .switch switch false (some ⟨text.drop 2, false⟩))
      else if text.isPrefixOf spelling then
        some (spelling, .switch switch (isLong spelling) none)
      else
        none

/-- Whether an argument is a number below zero. A line feed at its end is overlooked. -/
def isNegativeNumber (text : Text) : Bool :=
  match text with
  | '-' :: rest =>
      let digits := if rest.getLast? == some '\n' then rest.dropLast else rest
      match digits.dropWhile Text.isDigit with
      | [] => !digits.isEmpty
      | '.' :: fraction => !fraction.isEmpty && fraction.all Text.isDigit
      | _ => false
  | _ => false

def classify (scope : Scope) (text : Text) : Except Stop Kind :=
  if text.head? != some '-' || text == ['-'] then
    .ok .operand
  else
    match scope.spellings.lookup text with
    | some switch => .ok (.switch switch (isLong text) none)
    | none =>
        let exact :=
          (splitEquals? text).bind fun (name, value) =>
            (scope.spellings.lookup name).map fun switch =>
              Kind.switch switch (isLong name) (some ⟨value, true⟩)
        match exact, candidates scope text with
        | some kind, _ => .ok kind
        | none, [(_, kind)] => .ok kind
        | none, [] =>
            if isNegativeNumber text || text.contains ' ' then .ok .operand else .ok .unknown
        | none, several =>
            let shown := String.ofList text
            let names := ", ".intercalate (several.map fun (spelling, _) => String.ofList spelling)
            .error (.misuse scope s!"ambiguous option: {shown} could match {names}")

def ofArguments (scope : Scope) : List Text → Except Stop (List Token)
  | [] => .ok []
  | text :: rest =>
      if text == "--".toList then
        .ok (⟨text, .separator⟩ :: rest.map (⟨·, .operand⟩))
      else do
        let kind ← classify scope text
        return ⟨text, kind⟩ :: (← ofArguments scope rest)

end Token

/-! ### Reading a command line -/

structure Arguments where
  logLevel : Option LogLevel
  paths : List File.Path
  write : Bool
  noBackup : Bool
  policy : Option Policy
  /-- Nothing, if the switch was given without a value. -/
  host : Option Text
  tcpPort : Option Int
deriving DecidableEq, Repr

def Arguments.default : Arguments :=
  ⟨none, [], false, false, none, some "127.0.0.1".toList, some 8000⟩

inductive Task where
  | migrateAlerts
  | check
  | serve
deriving DecidableEq, Repr

structure Reading where
  task : Task
  arguments : Arguments
  unrecognized : List Text
deriving DecidableEq, Repr

private def quote (text : Text) : String :=
  String.ofList text.quoted

private def invalidChoice (value : Text) (choices : List String) : String :=
  let offered := ", ".intercalate (choices.map fun choice => quote choice.toList)
  s!"invalid choice: {quote value} (choose from {offered})"

private def refuse (scope : Scope) (argument message : String) : Stop :=
  .misuse scope s!"argument {argument}: {message}"

def applyFlag (scope : Scope) (switch : Switch) (arguments : Arguments) : Except Stop Arguments :=
  match switch with
  | .help => .error (.help scope)
  | .version => .error .version
  | .write => .ok { arguments with write := true }
  | .noBackup => .ok { arguments with noBackup := true }
  | .logLevel | .onUnterminated | .host | .tcpPort =>
      .error (refuse scope switch.name "expected one argument")

def applyValue (scope : Scope) (switch : Switch) (value : Text) (arguments : Arguments) :
    Except Stop Arguments :=
  match switch with
  | .logLevel =>
      match LogLevel.offered.find? (·.name.toList == value.upper) with
      | some level => .ok { arguments with logLevel := some level }
      | none =>
          .error (refuse scope switch.name
            (invalidChoice value.upper (LogLevel.offered.map LogLevel.name)))
  | .onUnterminated =>
      match Policy.ofName? value with
      | some policy => .ok { arguments with policy := some policy }
      | none =>
          .error (refuse scope switch.name (invalidChoice value (Policy.all.map Policy.name)))
  | .host => .ok { arguments with host := some value }
  | .tcpPort =>
      match value.integer? with
      | some number => .ok { arguments with tcpPort := some number }
      | none => .error (refuse scope switch.name s!"invalid int value: {quote value}")
  | .help | .version | .write | .noBackup =>
      .error (refuse scope switch.name s!"ignored explicit argument {quote value}")

def applyNothing (switch : Switch) (arguments : Arguments) : Arguments :=
  match switch with
  | .logLevel => { arguments with logLevel := none }
  | .onUnterminated => { arguments with policy := none }
  | .host => { arguments with host := none }
  | .tcpPort => { arguments with tcpPort := none }
  | .help | .version | .write | .noBackup => arguments

inductive Dialect where
  /-- All characters behind a short switch count as switches, and a double dash is no value. -/
  | early
  /-- What follows an equals sign is a value, and a double dash is one like any other. -/
  | late
deriving DecidableEq, Repr

namespace Dialect

def earlyRefusal? (scope : Scope) : Text → Option Text
  | [] => some []
  | c :: rest =>
      if (scope.spellings.lookup ['-', c]).isNone then some (c :: rest)
      else if rest.isEmpty then none
      else earlyRefusal? scope rest

/-- The first character that is no switch is left over and ends the search, so nothing is refused then. -/
def lateRefusal? (scope : Scope) : Text → Option Text
  | [] => some []
  | '-' :: rest => some ('-' :: rest)
  | c :: rest =>
      if (scope.spellings.lookup ['-', c]).isNone then none
      else
        match rest with
        | [] => none
        | '=' :: value => some value
        | more => lateRefusal? scope more

def refusal? (scope : Scope) (attached : Attachment) : Dialect → Option Text
  | early => earlyRefusal? scope attached.text
  | late => if attached.afterEquals then some attached.text else lateRefusal? scope attached.text

end Dialect

def applyAttached (dialect : Dialect) (scope : Scope) (switch : Switch) (isLong : Bool)
    (attached : Attachment)
    (arguments : Arguments) : Except Stop Arguments :=
  if switch.takesValue then
    if dialect == .early && attached.text == "--".toList then .ok (applyNothing switch arguments)
    else applyValue scope switch attached.text arguments
  else if isLong then
    applyValue scope switch attached.text arguments
  else
    match dialect.refusal? scope attached with
    | some refused => applyValue scope switch refused arguments
    | none => applyFlag scope switch arguments

inductive PathRun where
  | ahead
  | open
  | closed
deriving DecidableEq, Repr

def PathRun.interrupted : PathRun → PathRun
  | .ahead => .ahead
  | .open | .closed => .closed

structure Progress where
  arguments : Arguments
  run : PathRun
  unrecognized : List Text
deriving DecidableEq, Repr

namespace Progress

def withArguments (progress : Progress) (arguments : Arguments) : Progress :=
  { progress with arguments := arguments, run := progress.run.interrupted }

def leaveOver (progress : Progress) (text : Text) : Progress :=
  { progress with unrecognized := progress.unrecognized ++ [text] }

def takePath (progress : Progress) (text : Text) : Progress :=
  match progress.run with
  | .closed => progress.leaveOver text
  | _ =>
      { progress with
        run := .open
        arguments :=
          { progress.arguments with paths := progress.arguments.paths ++ [File.Path.ofText text] } }

/-- Takes a double dash, which is part of the run of paths but no path. -/
def takeSeparator (progress : Progress) (text : Text) : Progress :=
  match progress.run with
  | .closed => progress.leaveOver text
  | _ => { progress with run := .open }

end Progress

inductive Operands where
  | nothing (task : Task)
  | paths (task : Task)
  /-- A subcommand, which reads all arguments after it. It has to be there, and is called by this name
  in messages. -/
  | subcommand (name : String)
      (choices : List (String × (List Text → Arguments → Except Stop Reading)))

def readTokens (dialect : Dialect) (scope : Scope)
    (operands : Operands) : List Token → Progress → Except Stop Reading
  | [], progress =>
      match operands with
      | .nothing task | .paths task => .ok ⟨task, progress.arguments, progress.unrecognized⟩
      | .subcommand name _ =>
          .error (.misuse scope s!"the following arguments are required: {name}")
  | token :: rest, progress =>
      match token.kind with
      | .unknown =>
          readTokens dialect scope operands rest
            ((progress.withArguments progress.arguments).leaveOver token.text)
      | .switch switch isLong (some attached) => do
          let arguments ← applyAttached dialect scope switch isLong attached progress.arguments
          readTokens dialect scope operands rest (progress.withArguments arguments)
      | .switch switch _ none =>
          if switch.takesValue then
            match rest with
            | ⟨value, .operand⟩ :: later => do
                let arguments ← applyValue scope switch value progress.arguments
                readTokens dialect scope operands later (progress.withArguments arguments)
            | _ => .error (refuse scope switch.name "expected one argument")
          else do
            let arguments ← applyFlag scope switch progress.arguments
            readTokens dialect scope operands rest (progress.withArguments arguments)
      | .operand =>
          match operands with
          | .nothing _ => readTokens dialect scope operands rest (progress.leaveOver token.text)
          | .paths _ => readTokens dialect scope operands rest (progress.takePath token.text)
          | .subcommand name choices =>
              match choices.find? (·.1.toList == token.text) with
              | some (_, enter) => do
                  let reading ← enter (rest.map Token.text) progress.arguments
                  return { reading with unrecognized := progress.unrecognized ++ reading.unrecognized }
              | none =>
                  .error (refuse scope name (invalidChoice token.text (choices.map Prod.fst)))
      | .separator =>
          match operands with
          | .nothing _ => readTokens dialect scope operands rest (progress.leaveOver token.text)
          | .paths _ => readTokens dialect scope operands rest (progress.takeSeparator token.text)
          | .subcommand name choices =>
              if rest.isEmpty then
                readTokens dialect scope operands rest (progress.leaveOver token.text)
              else
                .error (refuse scope name (invalidChoice token.text (choices.map Prod.fst)))

def readLevel (dialect : Dialect) (scope : Scope) (operands : Operands) (texts : List Text)
    (arguments : Arguments) :
    Except Stop Reading := do
  let tokens ← Token.ofArguments scope texts
  readTokens dialect scope operands tokens ⟨arguments, .ahead, []⟩

def migrateOperands (dialect : Dialect) : Operands :=
  .subcommand "migrate_command" [("alerts", readLevel dialect .alerts (.paths .migrateAlerts))]

def topOperands (dialect : Dialect) : Operands :=
  .subcommand "command" [
    ("migrate", readLevel dialect .migrate (migrateOperands dialect)),
    ("check", readLevel dialect .check (.paths .check)),
    ("serve", readLevel dialect .serve (.nothing .serve))]

def parse (dialect : Dialect) (texts : List Text) : Except Stop (Task × Arguments) := do
  let reading ← readLevel dialect .top (topOperands dialect) texts .default
  if reading.unrecognized.isEmpty then
    return (reading.task, reading.arguments)
  let leftOver := " ".intercalate (reading.unrecognized.map String.ofList)
  .error (.misuse .top s!"unrecognized arguments: {leftOver}")

end AlertMigration.Command
