import AlertMigration.Edit
import AlertMigration.Proofs.PassEffects

/-!
The account of a session stays consistent.

Between two passes the lines of a session can be changed at will, and each pass can follow another policy, so the
skipped positions need not be those of calls any more. The account still adds up after every sequence of steps,
since each event is entered as a whole; and what a single pass does is told by how it ends, from any session.
-/

namespace AlertMigration.Edit

/-! ### Consistent accounts -/

/-- The counts of a report agree with each other and with its lists, and what is skipped is reported. -/
structure Consistent (report : Report) (skipped : List Nat) : Prop where
  converted : report.converted = report.inlineConverted + report.blockConverted
  warnings : report.warnings.length = report.unterminated.length
  detailed : report.details.length ≤ report.converted
  bounded : report.converted ≤ report.details.length + report.unterminated.length
  skipped : ∀ index ∈ skipped, index ∈ report.unterminated

private theorem consistent_empty : Consistent .empty [] :=
  ⟨rfl, rfl, Nat.le_refl 0, Nat.le_refl 0, List.forall_mem_nil _⟩

section Ledger

variable {ledger : Ledger} (consistent : Consistent ledger.report ledger.skipped)

include consistent

private theorem consistent_noteSkipped (index : Nat) :
    Consistent (ledger.noteSkipped index).report (ledger.noteSkipped index).skipped := by
  obtain ⟨converted, warnings, detailed, bounded, skipped⟩ := consistent
  refine ⟨converted, ?_, detailed, ?_, ?_⟩
  · simp only [Ledger.noteSkipped, List.length_append, warnings, List.length_singleton]
  · simp only [Ledger.noteSkipped, List.length_append, List.length_singleton]
    omega
  · intro position member
    rcases List.mem_append.mp member with earlier | here
    · exact List.mem_append_left _ (skipped position earlier)
    · exact List.mem_append_right _ here

private theorem consistent_of_entered {index : Nat} {entered : Ledger}
    (counted : Entered index ledger entered) :
    Consistent entered.report entered.skipped := by
  obtain ⟨converted, warnings, detailed, bounded, skipped⟩ := consistent
  cases counted with
  | inline =>
      refine ⟨?_, warnings, ?_, ?_, skipped⟩
      all_goals
        simp only [Ledger.noteInline, List.length_append, List.length_singleton]
        omega
  | block stop =>
      refine ⟨?_, warnings, ?_, ?_, skipped⟩
      all_goals
        simp only [Ledger.noteBlock, List.length_append, List.length_singleton]
        omega
  | collapsed =>
      refine ⟨?_, ?_, ?_, ?_, fun position member => List.mem_append_left _ (skipped position member)⟩
      all_goals
        simp only [Ledger.noteCollapsed, List.length_append, List.length_singleton]
        omega

private theorem consistent_of_goesOver {policy : Policy} {rest front : List Text} {index : Nat}
    {noted : Ledger}
    (goes : GoesOver policy rest index ledger front noted) : Consistent noted.report noted.skipped := by
  induction goes with
  | nil index ledger => exact consistent
  | skipped line member later ih => exact ih consistent
  | plain kind later ih => exact ih consistent
  | leftOpen chosen leftOpen later ih => exact ih (consistent_noteSkipped consistent _)

theorem consistent_pass (policy : Policy) (buffer : List Text) :
    Consistent (pass policy buffer ledger).ledger.report (pass policy buffer ledger).ledger.skipped := by
  obtain ⟨front, rest, noted, last, _, goes, ends, passed⟩ := passFrom_cases policy 0 ledger buffer
  have before := consistent_of_goesOver consistent goes
  rw [pass, passed]
  cases ends with
  | settled => exact before
  | converted fresh conversion counted => exact consistent_of_entered before counted
  | unterminated chosen leftOpen => exact before
  | tooWide wide => exact before

theorem consistent_passes (policy : Policy) (buffer : List Text) :
    Consistent (passes policy buffer ledger).ledger.report (passes policy buffer ledger).ledger.skipped := by
  induction buffer, ledger using passes.induct policy with
  | case1 buffer ledger converted _ ih =>
      rw [passes, dif_pos converted]
      exact ih (consistent_pass consistent policy buffer)
  | case2 buffer ledger ended =>
      rw [passes, dif_neg ended]
      exact consistent_pass consistent policy buffer

end Ledger

theorem consistent_run {policy : Policy} {buffer : List Text} {report : Report}
    (finished : (run policy buffer).result = .ok report) : ∃ skipped, Consistent report skipped := by
  have consistent : Consistent (passes policy buffer .empty).ledger.report _ :=
    consistent_passes consistent_empty policy buffer
  rw [report_passes finished] at consistent
  exact ⟨_, consistent⟩

/-! ### Steps of a session -/

namespace Session

inductive Step where
  | pass (policy : Policy)
  | insert (position : Int) (line : Text)
  | set (position : Int) (line : Text)
  | erase (position : Int)
  | resplit
  | reset
deriving DecidableEq, Repr

def step (session : Session) : Step → Session
  | .pass policy => (session.pass policy).2.2
  | .insert position line => (session.insertLine? position line).getD session
  | .set position line => (session.setLine? position line).getD session
  | .erase position => (session.eraseLine? position).getD session
  | .resplit => session.resplit
  | .reset => session.reset

def steps (session : Session) (taken : List Step) : Session :=
  taken.foldl step session

section Lines

variable {session edited : Session} {position : Int}

def SameAccount (session edited : Session) : Prop :=
  edited.report = session.report ∧ edited.skipped = session.skipped

private theorem sameAccount_insertLine? {line : Text}
    (inserted : session.insertLine? position line = some edited) :
    SameAccount session edited := by
  unfold insertLine? at inserted
  split at inserted
  · cases inserted
    exact ⟨rfl, rfl⟩
  · cases inserted

private theorem sameAccount_setLine? {line : Text} (written : session.setLine? position line = some edited) :
    SameAccount session edited := by
  obtain ⟨index, _, rfl⟩ := Option.map_eq_some_iff.mp written
  exact ⟨rfl, rfl⟩

private theorem sameAccount_eraseLine? (erased : session.eraseLine? position = some edited) :
    SameAccount session edited := by
  obtain ⟨index, _, rfl⟩ := Option.map_eq_some_iff.mp erased
  exact ⟨rfl, rfl⟩

theorem SameAccount.consistent (same : SameAccount session edited)
    (consistent : Consistent session.report session.skipped) : Consistent edited.report edited.skipped := by
  rw [same.1, same.2]
  exact consistent

private theorem sameAccount_getD {found : Option Session}
    (each : ∀ edited, found = some edited → SameAccount session edited) :
    SameAccount session (found.getD session) := by
  cases found with
  | none => exact ⟨rfl, rfl⟩
  | some edited => exact each edited rfl

end Lines

theorem consistent_step {session : Session} (consistent : Consistent session.report session.skipped)
    (taken : Step) : Consistent (session.step taken).report (session.step taken).skipped := by
  cases taken with
  | pass policy =>
      have ledger : Consistent (Ledger.mk session.report session.skipped []).report _ := consistent
      exact consistent_pass ledger policy session.buffer
  | insert position line =>
      exact (sameAccount_getD fun _ inserted => sameAccount_insertLine? inserted).consistent consistent
  | set position line =>
      exact (sameAccount_getD fun _ written => sameAccount_setLine? written).consistent consistent
  | erase position =>
      exact (sameAccount_getD fun _ erased => sameAccount_eraseLine? erased).consistent consistent
  | resplit => exact consistent
  | reset => exact consistent_empty

theorem consistent_steps {session : Session} (consistent : Consistent session.report session.skipped)
    (taken : List Step) : Consistent (session.steps taken).report (session.steps taken).skipped := by
  induction taken generalizing session with
  | nil => exact consistent
  | cons first later ih => exact ih (consistent_step consistent first)

/-! ### One pass of a session -/

inductive Passed (session : Session) : Verdict → Session → Prop
  /-- One call, with lines that may follow it, has given way to one inert line. -/
  | converted {next : Session} {front taken back : List Text} {call text : Text}
      (found : session.buffer = front ++ (call :: taken) ++ back) (fresh : front.length ∉ session.skipped)
      (legacy : Alert.classify call ≠ .other) (inert : Alert.classify text = .other)
      (written : next.buffer = front ++ [text] ++ back)
      (counted : next.report.converted = session.report.converted + 1) : Passed session .converted next
  | settled {next : Session} (kept : next.buffer = session.buffer)
      (counted : next.report.converted = session.report.converted)
      (calls : ∀ (index : Nat) line, session.buffer[index]? = some line → Alert.classify line ≠ .other →
        index ∈ next.skipped) : Passed session .settled next
  | unterminated (line : Nat) : Passed session (.failed (.unterminatedBlock line)) session

theorem passed_pass {session : Session} (short : ∀ line ∈ session.buffer, line.length < Block.widthLimit)
    (policy : Policy) : Passed session (session.pass policy).1 (session.pass policy).2.2 := by
  obtain ⟨front, rest, noted, last, divided, goes, ends, passed⟩ :=
    passFrom_cases policy 0 ⟨session.report, session.skipped, []⟩ session.buffer
  have unfolded : session.pass policy =
      (last.verdict, last.ledger.log, ⟨front ++ last.buffer, last.ledger.report, last.ledger.skipped⟩) := by
    rw [Session.pass, Edit.pass, passed]
    rfl
  have counted := goes.converted_eq
  rw [unfolded]
  rw [Nat.zero_add] at ends
  cases ends with
  | settled =>
      rw [List.append_nil] at divided
      refine .settled (by rw [divided]; exact List.append_nil _) counted ?_
      intro index line present call
      have skipped := goes.mem_skipped (divided ▸ present) call
      rwa [Nat.zero_add] at skipped
  | @converted line text _ left _ fresh conversion entered =>
      obtain ⟨call, inert⟩ := conversion.isCall
      obtain ⟨taken, rfl⟩ := conversion.exists_taken
      have found : session.buffer = front ++ (line :: taken) ++ left := by
        rw [divided, List.append_assoc]
        rfl
      have written : front ++ text :: left = front ++ [text] ++ left := by
        rw [List.append_assoc]
        rfl
      exact .converted found (fun member => fresh (goes.skipped_subset member))
        (Alert.classify_ne_other_iff.mpr call) (Alert.classify_eq_other_iff.mpr inert) written
        (entered.converted_eq.trans (congrArg (· + 1) counted))
  | unterminated chosen leftOpen =>
      have nothing := goes.eq_of_ne_skip (by rw [chosen]; decide)
      rw [nothing, ← divided]
      exact .unterminated _
  | @tooWide line rest wide =>
      have below := short line (divided ▸ List.mem_append_right _ List.mem_cons_self)
      have bounded := Alert.length_indentation_le line
      omega

end Session

/-- After every sequence of steps the account of a session is consistent. On lines below the width limit a pass
replaces one stretch of lines by one line and counts that, or leaves the lines as they are and has skipped every
call among them, or stops at an unterminated call and leaves everything as it is. -/
theorem session_consistent :
    (∀ buffer taken, Consistent ((Session.start buffer).steps taken).report
      ((Session.start buffer).steps taken).skipped) ∧
    ∀ (session : Session) policy, (∀ line ∈ session.buffer, line.length < Block.widthLimit) →
      Session.Passed session (session.pass policy).1 (session.pass policy).2.2 :=
  ⟨fun _ taken => Session.consistent_steps consistent_empty taken,
    fun _ policy short => Session.passed_pass short policy⟩

/-- A session that has lost its first line after two passes, so that the skipped position is that of no call. -/
def editedSession : Session :=
  (Session.start sampleBuffer).steps [.pass .skip, .pass .skip, .erase 0]

theorem session_consistent_sample :
    (∀ line ∈ editedSession.buffer, line.length < Block.widthLimit) ∧ editedSession.skipped = [1] ∧
      (editedSession.pass .error).1 = .failed (.unterminatedBlock 1) ∧
      Consistent editedSession.report editedSession.skipped ∧
      Session.Passed editedSession (editedSession.pass .error).1 (editedSession.pass .error).2.2 := by
  obtain ⟨short, skipped, stopped⟩ :
      (∀ line ∈ editedSession.buffer, line.length < Block.widthLimit) ∧ editedSession.skipped = [1] ∧
      (editedSession.pass .error).1 = .failed (.unterminatedBlock 1) := by
    decide +kernel
  obtain ⟨consistent, passed⟩ := session_consistent
  exact ⟨short, skipped, stopped, consistent _ _, passed _ .error short⟩

end AlertMigration.Edit
