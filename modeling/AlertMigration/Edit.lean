import AlertMigration.Alert
import AlertMigration.Block
import AlertMigration.Config

/-!
Editing a buffer of lines until no legacy call is left to replace.

What happens at one line is decided by the line and the lines after it alone, as far as no policy is asked.
A pass goes through the buffer from its start and replaces the first legacy call that it is not told to
leave alone. A replacement of a block shifts all later lines, so a run starts over after each one; it ends
because every pass but the last lowers the number of legacy calls (`callCount_lt_of_converted`).
-/

namespace AlertMigration.Edit

/-! ### Decisions -/

inductive Decision where
  | keep
  | inline (text : Text)
  /-- A call with a tap block that takes up `following` more lines, and the replacement of them all. -/
  | block (following : Nat) (text : Text)
  /-- A call whose tap block is never closed, and its replacement by one with an empty block. -/
  | unterminated (text : Text)
  | tooWide
deriving DecidableEq, Repr

/-- The terminator to write after a call's opening line: its own, or a line feed if it has none. -/
def blockNewline (line : Text) : Text :=
  if line.terminator.isEmpty then ['\n'] else line.terminator

/-- The replacement of a call, with the blanks at the end of `last` after it. -/
def replaceCall (line : Text) (body : Option Text) (last : Text) : Text :=
  Alert.replacement (Alert.indentation line) (.ofLine line) body (blockNewline line) ++ last.blankTail

theorem isCall_replaceCall (line : Text) (body : Option Text) (last : Text) :
    Alert.isCall (replaceCall line body last) = false :=
  Alert.isCall_replacement_append ..

def decideAt (line : Text) (rest : List Text) : Decision :=
  match Alert.classify line with
  | .other => .keep
  | .inline => .inline (replaceCall line none line)
  | .block =>
      if (Alert.indentation line).length < Block.widthLimit then
        match Block.firstClosing? (Alert.indentation line).length rest with
        | some between =>
            .block (between + 1)
              (replaceCall line (some (rest.take between).flatten) (rest.getD between []))
        | none => .unterminated (replaceCall line (some []) line)
      else
        .tooWide

theorem isCall_of_decideAt_ne_keep {line : Text} {rest : List Text}
    (decided : decideAt line rest ≠ .keep) : Alert.isCall line = true := by
  cases call : Alert.isCall line with
  | true => rfl
  | false => exact absurd (by simp [decideAt, Alert.classify, call]) decided

def Decision.text? : Decision → Option Text
  | .keep | .tooWide => none
  | .inline text | .block _ text | .unterminated text => some text

theorem isCall_text_eq_false {line : Text} {rest : List Text} {text : Text}
    (proposed : (decideAt line rest).text? = some text) : Alert.isCall text = false := by
  unfold decideAt at proposed
  split at proposed
  · cases proposed
  · cases proposed
    exact isCall_replaceCall ..
  · split at proposed
    · split at proposed
      · cases proposed
        exact isCall_replaceCall ..
      · cases proposed
        exact isCall_replaceCall ..
    · cases proposed

/-! ### Reports -/

structure Report where
  converted : Nat
  inlineConverted : Nat
  blockConverted : Nat
  unterminated : List Nat
  details : List String
  warnings : List String
deriving DecidableEq, Repr

def Report.empty : Report :=
  ⟨0, 0, 0, [], [], []⟩

def Report.changed (report : Report) : Bool :=
  0 < report.converted

structure Ledger where
  report : Report
  /-- Positions of unterminated calls that are left alone. -/
  skipped : List Nat
  log : List LogRecord
deriving DecidableEq, Repr

inductive Error where
  | unterminatedBlock (line : Nat)
  | indentTooWide
deriving DecidableEq, Repr

def unterminatedMessage (line : Nat) : String :=
  s!"Tap block opened at line {line} has no closing '\x7d];' at the same indent"

/-- The diagnostic of an unterminated block; the width limit has none. -/
def Error.diagnostic? : Error → Option Diagnostic
  | .unterminatedBlock line => some ⟨unterminatedMessage line, some line, none⟩
  | .indentTooWide => none

namespace Ledger

def empty : Ledger :=
  ⟨.empty, [], []⟩

private def editorRecord (level : LogLevel) (message : String) : LogRecord :=
  ⟨level, .editor, message⟩

def noteInline (ledger : Ledger) (index : Nat) : Ledger where
  report :=
    { ledger.report with
      converted := ledger.report.converted + 1
      inlineConverted := ledger.report.inlineConverted + 1
      details := ledger.report.details ++ [s!"Rewrote UIAlertView call at line {index + 1}"] }
  skipped := ledger.skipped
  log := ledger.log ++ [editorRecord .debug s!"Rewrote inline alert at line {index + 1}"]

def noteBlock (ledger : Ledger) (index stop : Nat) : Ledger where
  report :=
    { ledger.report with
      converted := ledger.report.converted + 1
      blockConverted := ledger.report.blockConverted + 1
      details := ledger.report.details
        ++ [s!"Rewrote UIAlertView call with tap block at lines {index + 1}-{stop + 1}"] }
  skipped := ledger.skipped
  log := ledger.log
    ++ [editorRecord .debug s!"Rewrote alert with tap block at lines {index + 1}-{stop + 1}"]

def noteCollapsed (ledger : Ledger) (index : Nat) : Ledger where
  report :=
    { ledger.report with
      converted := ledger.report.converted + 1
      blockConverted := ledger.report.blockConverted + 1
      unterminated := ledger.report.unterminated ++ [index]
      warnings := ledger.report.warnings
        ++ [unterminatedMessage (index + 1) ++ "; rewrote the call with an empty tap block."] }
  skipped := ledger.skipped
  log := ledger.log
    ++ [editorRecord .warning (unterminatedMessage (index + 1) ++ "; collapsed to an empty tap block")]

def noteSkipped (ledger : Ledger) (index : Nat) : Ledger where
  report :=
    { ledger.report with
      unterminated := ledger.report.unterminated ++ [index]
      warnings := ledger.report.warnings
        ++ [unterminatedMessage (index + 1) ++ "; left unchanged, convert manually."] }
  skipped := ledger.skipped ++ [index]
  log := ledger.log ++ [editorRecord .warning (unterminatedMessage (index + 1) ++ "; left unchanged")]

end Ledger

/-! ### One pass -/

inductive Verdict where
  | converted
  | settled
  | failed (error : Error)
deriving DecidableEq, Repr

structure Pass where
  verdict : Verdict
  buffer : List Text
  ledger : Ledger
deriving DecidableEq, Repr

def Pass.after (line : Text) (pass : Pass) : Pass :=
  { pass with buffer := line :: pass.buffer }

def passFrom (policy : Policy) (index : Nat) (ledger : Ledger) : List Text → Pass
  | [] => ⟨.settled, [], ledger⟩
  | line :: rest =>
      if ledger.skipped.contains index then
        (passFrom policy (index + 1) ledger rest).after line
      else
        match decideAt line rest with
        | .keep => (passFrom policy (index + 1) ledger rest).after line
        | .inline text => ⟨.converted, text :: rest, ledger.noteInline index⟩
        | .block following text =>
            ⟨.converted, text :: rest.drop following, ledger.noteBlock index (index + following)⟩
        | .tooWide => ⟨.failed .indentTooWide, line :: rest, ledger⟩
        | .unterminated text =>
            match policy with
            | .error => ⟨.failed (.unterminatedBlock (index + 1)), line :: rest, ledger⟩
            | .collapse => ⟨.converted, text :: rest, ledger.noteCollapsed index⟩
            | .skip => (passFrom policy (index + 1) (ledger.noteSkipped index) rest).after line

def pass (policy : Policy) (buffer : List Text) (ledger : Ledger) : Pass :=
  passFrom policy 0 ledger buffer

def callCount (buffer : List Text) : Nat :=
  buffer.countP Alert.isCall

theorem callCount_cons_after {line : Text} {buffer rest : List Text}
    (fewer : callCount buffer < callCount rest) : callCount (line :: buffer) < callCount (line :: rest) := by
  simp only [callCount, List.countP_cons] at *
  omega

theorem callCount_replaced_lt {line text : Text} {rest kept : List Text}
    (call : Alert.isCall line = true) (inert : Alert.isCall text = false) (sub : kept.Sublist rest) :
    callCount (text :: kept) < callCount (line :: rest) := by
  have fewer : callCount kept ≤ callCount rest := sub.countP_le
  simp only [callCount, List.countP_cons, call, inert] at *
  simp only [Bool.false_eq_true, if_false, if_true]
  omega

/-- A pass that replaces a call leaves fewer calls than it found. -/
theorem callCount_lt_of_converted {policy : Policy} {index : Nat} {ledger : Ledger}
    {buffer : List Text} (converted : (passFrom policy index ledger buffer).verdict = .converted) :
    callCount (passFrom policy index ledger buffer).buffer < callCount buffer := by
  induction buffer generalizing index ledger with
  | nil => simp [passFrom] at converted
  | cons line rest ih =>
      unfold passFrom at converted ⊢
      split
      · rename_i left
        rw [if_pos left] at converted
        exact callCount_cons_after (ih converted)
      · rename_i active
        rw [if_neg active] at converted
        have call (other : decideAt line rest ≠ .keep) := isCall_of_decideAt_ne_keep other
        have inert {text : Text} (proposed : (decideAt line rest).text? = some text) :=
          isCall_text_eq_false proposed
        cases decided : decideAt line rest with
        | keep =>
            simp only [decided] at converted
            exact callCount_cons_after (ih converted)
        | inline text =>
            exact callCount_replaced_lt (call (by simp [decided])) (inert (by rw [decided]; rfl))
              (List.Sublist.refl _)
        | block following text =>
            exact callCount_replaced_lt (call (by simp [decided])) (inert (by rw [decided]; rfl))
              (List.drop_sublist _ _)
        | tooWide => simp [decided] at converted
        | unterminated text =>
            simp only [decided] at converted
            cases policy with
            | error => simp at converted
            | collapse =>
                exact callCount_replaced_lt (call (by simp [decided])) (inert (by rw [decided]; rfl))
                  (List.Sublist.refl _)
            | skip => exact callCount_cons_after (ih converted)

/-! ### Runs -/

/-- The last of the passes that are made until one replaces nothing. -/
def passes (policy : Policy) (buffer : List Text) (ledger : Ledger) : Pass :=
  if converted : (pass policy buffer ledger).verdict = .converted then
    have : callCount (pass policy buffer ledger).buffer < callCount buffer :=
      callCount_lt_of_converted converted
    passes policy (pass policy buffer ledger).buffer (pass policy buffer ledger).ledger
  else
    pass policy buffer ledger
termination_by callCount buffer

structure Run where
  result : Except Error Report
  buffer : List Text
  log : List LogRecord

def Pass.toRun (pass : Pass) : Run where
  result :=
    match pass.verdict with
    | .failed error => .error error
    | _ => .ok pass.ledger.report
  buffer := pass.buffer
  log := pass.ledger.log

def run (policy : Policy) (buffer : List Text) : Run :=
  (passes policy buffer .empty).toRun

structure Performance where
  /-- What the handler was told, in order: nothing on success, or the line of an unterminated block. -/
  notices : List (Option Error)
  /-- The report, if the run succeeded. An error that the handler is not told of is an error here. -/
  returned : Except Error (Option Report)
  buffer : List Text
  log : List LogRecord

/-- Runs over a buffer and tells the completion handler how it ended. Only an unterminated block is
an end that a handler learns of; a call beyond the width limit stops everything. -/
def perform (policy : Policy) (buffer : List Text) : Performance :=
  let run := run policy buffer
  match run.result with
  | .ok report => ⟨[none], .ok (some report), run.buffer, run.log⟩
  | .error .indentTooWide => ⟨[], .error .indentTooWide, run.buffer, run.log⟩
  | .error (.unterminatedBlock line) =>
      ⟨[some (.unterminatedBlock line)], .ok none, run.buffer, run.log⟩

/-! ### Sessions -/

structure Session where
  buffer : List Text
  report : Report
  skipped : List Nat
deriving DecidableEq, Repr

namespace Session

def start (buffer : List Text) : Session :=
  ⟨buffer, .empty, []⟩

def skippedInOrder (session : Session) : List Nat :=
  session.skipped.mergeSort

/-- One pass with the session's report. Returns how it ended, what it logged, and the session. -/
def pass (policy : Policy) (session : Session) : Verdict × List LogRecord × Session :=
  let done := Edit.pass policy session.buffer ⟨session.report, session.skipped, []⟩
  (done.verdict, done.ledger.log, ⟨done.buffer, done.ledger.report, done.ledger.skipped⟩)

def reset (session : Session) : Session :=
  .start session.buffer

/-- Puts a line in front of the given position, which has to fit into a word. -/
def insertLine? (session : Session) (position : Int) (line : Text) : Option Session :=
  if Position.fitsWord position then
    some { session with
      buffer := session.buffer.insertIdx (Position.clamp session.buffer.length position) line }
  else
    none

def setLine? (session : Session) (position : Int) (line : Text) : Option Session :=
  (Position.resolve? session.buffer.length position).map fun index =>
    { session with buffer := session.buffer.set index line }

def eraseLine? (session : Session) (position : Int) : Option Session :=
  (Position.resolve? session.buffer.length position).map fun index =>
    { session with buffer := session.buffer.eraseIdx index }

def resplit (session : Session) : Session :=
  { session with buffer := Text.splitLines session.buffer.flatten }

end Session

end AlertMigration.Edit

namespace AlertMigration.Source

/-! ### Sources -/

structure Outcome where
  converted : Nat
  inlineConverted : Nat
  blockConverted : Nat
  unterminated : List Nat
  warnings : List String
  details : List String
  changed : Bool
deriving DecidableEq, Repr

def Outcome.ofReport (report : Edit.Report) : Outcome where
  converted := report.converted
  inlineConverted := report.inlineConverted
  blockConverted := report.blockConverted
  unterminated := report.unterminated.map (· + 1)
  warnings := report.warnings
  details := report.details
  changed := report.changed

structure Migration where
  /-- The migrated source and what was done, unless the edit stopped. -/
  result : Except Edit.Error (Text × Outcome)
  log : List LogRecord

def migrate (policy : Policy) (source : Text) : Migration :=
  let run := Edit.run policy source.splitLines
  ⟨run.result.map fun report => (run.buffer.flatten, .ofReport report), run.log⟩

inductive SummaryValue where
  | count (value : Nat)
  | numbers (values : List Nat)
  | texts (values : List String)
  | flag (value : Bool)
deriving DecidableEq, Repr

abbrev SummaryFields := List (String × SummaryValue)

def Outcome.summary (outcome : Outcome) : SummaryFields :=
  [("alerts_rewritten", .count outcome.converted),
    ("inline_rewritten", .count outcome.inlineConverted),
    ("blocks_rewritten", .count outcome.blockConverted),
    ("unterminated_lines", .numbers outcome.unterminated),
    ("warnings", .texts outcome.warnings),
    ("changed", .flag outcome.changed)]

structure SummarizedMigration where
  result : Except Edit.Error (Text × Outcome × SummaryFields)
  log : List LogRecord

def migrateSummarized (policy : Policy) (source : Text) : SummarizedMigration :=
  let migration := migrate policy source
  ⟨migration.result.map fun (migrated, outcome) => (migrated, outcome, outcome.summary), migration.log⟩

def legacyLines (source : Text) : List Nat :=
  (source.splitLines.zipIdx 1).filterMap fun (line, number) =>
    if Alert.isCall line then some number else none

end AlertMigration.Source
