import AlertMigration.Text.Case

/-!
The configuration, read from environment variables, and what the program reports while it works.

An absent or empty variable means the default, except that an empty backup switch is off. Blanks around
a value and its case do not matter, apart from the case of extensions. Log records are values that the
operations return.
-/

namespace AlertMigration

/-! ### Diagnostics and log records -/

/-- A message, and the line and column that it is about. A column alone is not shown. -/
structure Diagnostic where
  message : String
  line : Option Int
  column : Option Int
deriving DecidableEq, Repr

namespace Diagnostic

def ofMessage (message : String) : Diagnostic :=
  ⟨message, none, none⟩

def text (diagnostic : Diagnostic) : String :=
  match diagnostic.line, diagnostic.column with
  | none, _ => diagnostic.message
  | some line, none => s!"{diagnostic.message} (line {line})"
  | some line, some column => s!"{diagnostic.message} (line {line}, column {column})"

end Diagnostic

inductive LogLevel where
  | critical
  | fatal
  | error
  | warn
  | warning
  | info
  | debug
  | notset
deriving DecidableEq, Repr

namespace LogLevel

def all : List LogLevel :=
  [.critical, .fatal, .error, .warn, .warning, .info, .debug, .notset]

def name : LogLevel → String
  | .critical => "CRITICAL"
  | .fatal => "FATAL"
  | .error => "ERROR"
  | .warn => "WARN"
  | .warning => "WARNING"
  | .info => "INFO"
  | .debug => "DEBUG"
  | .notset => "NOTSET"

/-- How severe a level is. Two pairs of names stand for the same severity. -/
def severity : LogLevel → Nat
  | .critical | .fatal => 50
  | .error => 40
  | .warn | .warning => 30
  | .info => 20
  | .debug => 10
  | .notset => 0

def ofName? (text : Text) : Option LogLevel :=
  all.find? (·.name.toList == text)

def offered : List LogLevel :=
  [.critical, .error, .warning, .info, .debug]

end LogLevel

inductive Component where
  | editor
  | files
  | service
  | endpoint
deriving DecidableEq, Repr

def Component.name : Component → String
  | .editor => "alertfixer.migration.editor"
  | .files => "alertfixer.migration.alerts"
  | .service => "alertfixer.server.app.factory"
  | .endpoint => "alertfixer.server.routes.migrate"

structure LogRecord where
  level : LogLevel
  component : Component
  message : String
deriving DecidableEq, Repr

namespace LogRecord

def render (record : LogRecord) : String :=
  s!"{record.level.name} {record.component.name}: {record.message}"

def passes (threshold : LogLevel) (record : LogRecord) : Bool :=
  threshold.severity ≤ record.level.severity

end LogRecord

/-! ### Unterminated tap blocks -/

inductive Policy where
  /-- Leave the call as it is and warn. -/
  | skip
  /-- Replace the call by one with an empty tap block and warn. -/
  | collapse
  | error
deriving DecidableEq, Repr

namespace Policy

def all : List Policy :=
  [.skip, .collapse, .error]

def name : Policy → String
  | .skip => "skip"
  | .collapse => "collapse"
  | .error => "error"

def ofName? (text : Text) : Option Policy :=
  all.find? (·.name.toList == text)

end Policy

/-! ### The configuration -/

structure Environment where
  onUnterminated : Option Text
  extensions : Option Text
  backup : Option Text
  logLevel : Option Text
deriving DecidableEq, Repr

namespace Environment

def onUnterminatedName : String := "ALERTFIXER_ON_UNTERMINATED"
def extensionsName : String := "ALERTFIXER_EXTENSIONS"
def backupName : String := "ALERTFIXER_BACKUP"
def logLevelName : String := "ALERTFIXER_LOG_LEVEL"

def names : List String :=
  [onUnterminatedName, extensionsName, backupName, logLevelName]

def ofLookup (lookup : String → Option Text) : Environment where
  onUnterminated := lookup onUnterminatedName
  extensions := lookup extensionsName
  backup := lookup backupName
  logLevel := lookup logLevelName

end Environment

structure Config where
  policy : Policy
  extensions : List Text
  backup : Bool
  logLevel : LogLevel
deriving DecidableEq, Repr

namespace Config

inductive Error where
  | unknownPolicy (value : Text)
  | unknownLogLevel (value : Text)
deriving DecidableEq, Repr

private def listed (names : List String) : String :=
  ", ".intercalate names

def Error.message : Error → String
  | .unknownPolicy value =>
      let shown := String.ofList value
      s!"Unknown unterminated-block policy '{shown}'; expected one of "
        ++ listed (Policy.all.map Policy.name)
  | .unknownLogLevel value =>
      let shown := String.ofList value
      s!"Unknown log level '{shown}'; expected one of " ++ listed (LogLevel.offered.map LogLevel.name)

def Error.diagnostic (error : Error) : Diagnostic :=
  .ofMessage error.message

def defaultExtensions : List Text :=
  [".m".toList, ".mm".toList]

def given? (value : Option Text) : Option Text :=
  value.filter (!·.isEmpty)

def policyNamed (name : Text) : Except Error Policy :=
  match Policy.ofName? name with
  | some policy => .ok policy
  | none => .error (.unknownPolicy name)

def readPolicy (value : Option Text) : Except Error Policy :=
  match given? value with
  | none => .ok .skip
  | some text => policyNamed text.trim.lower

def readLogLevel (value : Option Text) : Except Error LogLevel :=
  match given? value with
  | none => .ok .warning
  | some text =>
      match LogLevel.ofName? text.trim.upper with
      | some level => .ok level
      | none => .error (.unknownLogLevel text)

def affirmations : List Text :=
  ["1".toList, "true".toList, "yes".toList, "on".toList]

def readSwitch (value : Option Text) (absent : Bool) : Bool :=
  match value with
  | none => absent
  | some text => affirmations.contains text.trim.lower

def dotted (extension : Text) : Text :=
  if extension.head? == some '.' then extension else '.' :: extension

/-- The extensions in a list with commas; blank ones do not count, and no extension means the default
ones. -/
def readExtensions (value : Option Text) : List Text :=
  match given? value with
  | none => defaultExtensions
  | some text =>
      match ((text.splitOn ',').map Text.trim).filter (!·.isEmpty) with
      | [] => defaultExtensions
      | extensions => extensions.map dotted

/-- Reads the configuration. Of two faults, the one in the policy is reported. -/
def load (environment : Environment) : Except Error Config :=
  match readPolicy environment.onUnterminated with
  | .error error => .error error
  | .ok policy =>
      match readLogLevel environment.logLevel with
      | .error error => .error error
      | .ok logLevel =>
          .ok {
            policy := policy
            extensions := readExtensions environment.extensions
            backup := readSwitch environment.backup true
            logLevel := logLevel }

end Config

end AlertMigration
