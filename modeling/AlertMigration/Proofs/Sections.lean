import AlertMigration.Proofs.Sweep

/-!
The sections of a buffer.

A sweep reads a buffer in sections: a line without a call, a call without a tap block, a call with the
whole of its tap block, or a call whose tap block is never closed. The division is the same under every
policy. `sweepFrom_eq_sweepSections` says that a sweep is determined by it, section by section, and
`run_eq_of_ok` and `run_eq_of_unterminated` what this makes of a finished and of a stopped run.
-/

namespace AlertMigration.Edit

/-! ### The division -/

inductive Section where
  | plain (line : Text)
  | inline (line : Text)
  | block (line : Text) (body : List Text) (closer : Text)
  | unclosed (line : Text)
deriving DecidableEq, Repr

/-- The sections of a buffer, each found among the lines that are left by the ones before. -/
def sections : List Text → List Section
  | [] => []
  | line :: rest =>
      match Alert.classify line with
      | .other => .plain line :: sections rest
      | .inline => .inline line :: sections rest
      | .block =>
          match cut : cutAtCloser? (Alert.indentation line).length rest with
          | some (body, closer, after) =>
              have : after.length < rest.length := length_lt_of_cutAtCloser? cut
              .block line body closer :: sections after
          | none => .unclosed line :: sections rest
termination_by lines => lines.length

namespace Section

def lines : Section → List Text
  | .plain line | .inline line | .unclosed line => [line]
  | .block line body closer => line :: (body ++ [closer])

/-- The one line that a section leaves in the buffer. -/
def emit (policy : Policy) : Section → Text
  | .plain line => line
  | .inline line => replaceCall line none line
  | .block line body closer => replaceCall line (some body.flatten) closer
  | .unclosed line =>
      match policy with
      | .collapse => replaceCall line (some []) line
      | .skip | .error => line

def enter (policy : Policy) (index : Nat) (ledger : Ledger) : Section → Ledger
  | .plain _ => ledger
  | .inline _ => ledger.noteInline index
  | .block _ body _ => ledger.noteBlock index (index + (body.length + 1))
  | .unclosed _ =>
      match policy with
      | .skip => ledger.noteSkipped index
      | .collapse => ledger.noteCollapsed index
      | .error => ledger

def isUnclosed : Section → Bool
  | .unclosed _ => true
  | _ => false

/-- Whether a run ends at a section without having read the rest. -/
def stops (policy : Policy) (part : Section) : Bool :=
  policy == .error && part.isUnclosed

def Valid : Section → Prop
  | .plain line => Alert.classify line = .other
  | .inline line => Alert.classify line = .inline
  | .block line body closer =>
      Alert.classify line = .block ∧
        (∀ inner ∈ body, Block.closes (Alert.indentation line).length inner = false) ∧
        Block.closes (Alert.indentation line).length closer = true
  | .unclosed line => Alert.classify line = .block

end Section

section Equations

variable {line : Text} {rest : List Text}

theorem sections_plain (kind : Alert.classify line = .other) :
    sections (line :: rest) = .plain line :: sections rest := by
  rw [sections]
  simp only [kind]

theorem sections_inline (kind : Alert.classify line = .inline) :
    sections (line :: rest) = .inline line :: sections rest := by
  rw [sections]
  simp only [kind]

theorem sections_block {body after : List Text} {closer : Text} (kind : Alert.classify line = .block)
    (cut : cutAtCloser? (Alert.indentation line).length rest = some (body, closer, after)) :
    sections (line :: rest) = .block line body closer :: sections after := by
  rw [sections]
  simp only [kind]
  split
  · rename_i found
    rw [cut] at found
    cases found
    rfl
  · rename_i missing
    rw [cut] at missing
    cases missing

theorem sections_unclosed (kind : Alert.classify line = .block)
    (missing : cutAtCloser? (Alert.indentation line).length rest = none) :
    sections (line :: rest) = .unclosed line :: sections rest := by
  rw [sections]
  simp only [kind]
  split
  · rename_i found
    rw [missing] at found
    cases found
  · rfl

end Equations

theorem flatMap_lines_sections (buffer : List Text) :
    (sections buffer).flatMap Section.lines = buffer := by
  fun_induction sections buffer with
  | case1 => rfl
  | case2 line rest kind ih => rw [List.flatMap_cons, ih]; rfl
  | case3 line rest kind ih => rw [List.flatMap_cons, ih]; rfl
  | case4 line rest kind body closer after cut shorter ih =>
      obtain ⟨whole, _⟩ := cutAtCloser?_eq_some cut
      rw [List.flatMap_cons, ih, whole]
      simp [Section.lines]
  | case5 line rest kind missing ih => rw [List.flatMap_cons, ih]; rfl

theorem valid_sections (buffer : List Text) : ∀ part ∈ sections buffer, part.Valid := by
  fun_induction sections buffer with
  | case1 => exact fun _ member => (List.not_mem_nil member).elim
  | case2 line rest kind ih => exact List.forall_mem_cons.mpr ⟨kind, ih⟩
  | case3 line rest kind ih => exact List.forall_mem_cons.mpr ⟨kind, ih⟩
  | case4 line rest kind body closer after cut shorter ih =>
      obtain ⟨_, before, closing⟩ := cutAtCloser?_eq_some cut
      exact List.forall_mem_cons.mpr ⟨⟨kind, before, closing⟩, ih⟩
  | case5 line rest kind missing ih => exact List.forall_mem_cons.mpr ⟨kind, ih⟩

/-! ### The sweep, section by section -/

def enterAll (policy : Policy) (index : Nat) (ledger : Ledger) : List Section → Ledger
  | [] => ledger
  | part :: rest => enterAll policy (index + 1) (part.enter policy index ledger) rest

def sweepSections (policy : Policy) (emitted : List Text) (ledger : Ledger) : List Section → Pass
  | [] => ⟨.settled, emitted, ledger⟩
  | part :: rest =>
      if part.stops policy then
        ⟨.failed (.unterminatedBlock (emitted.length + 1)),
          emitted ++ (part :: rest).flatMap Section.lines, ledger⟩
      else
        sweepSections policy (emitted ++ [part.emit policy]) (part.enter policy emitted.length ledger) rest

theorem sweepSections_of_not_stops {policy : Policy} {part : Section} (going : part.stops policy = false)
    (emitted : List Text) (ledger : Ledger) (rest : List Section) :
    sweepSections policy emitted ledger (part :: rest) =
      sweepSections policy (emitted ++ [part.emit policy]) (part.enter policy emitted.length ledger)
        rest := by
  rw [sweepSections, going, if_neg Bool.false_ne_true]

theorem sweepSections_of_stops {policy : Policy} {part : Section} (stopping : part.stops policy = true)
    (emitted : List Text) (ledger : Ledger) (rest : List Section) :
    sweepSections policy emitted ledger (part :: rest) =
      ⟨.failed (.unterminatedBlock (emitted.length + 1)),
        emitted ++ (part :: rest).flatMap Section.lines, ledger⟩ := by
  rw [sweepSections, if_pos stopping]

theorem stops_eq_false_of_closed {policy : Policy} {part : Section} (closed : part.isUnclosed = false) :
    part.stops policy = false := by
  rw [Section.stops, closed, Bool.and_false]

theorem sweepFrom_eq_sweepSections (policy : Policy) (emitted : List Text) (ledger : Ledger)
    (buffer : List Text) :
    sweepFrom policy emitted ledger buffer = sweepSections policy emitted ledger (sections buffer) := by
  fun_induction sweepFrom policy emitted ledger buffer with
  | case1 emitted ledger => rw [sections, sweepSections]
  | case2 emitted ledger line rest kind ih =>
      rw [sections_plain kind, sweepSections_of_not_stops (stops_eq_false_of_closed rfl), ih]
      rfl
  | case3 emitted ledger line rest kind ih =>
      rw [sections_inline kind, sweepSections_of_not_stops (stops_eq_false_of_closed rfl), ih]
      rfl
  | case4 emitted ledger line rest kind body closer after cut shorter ih =>
      rw [sections_block kind cut, sweepSections_of_not_stops (stops_eq_false_of_closed rfl), ih]
      rfl
  | case5 emitted ledger line rest kind missing chosen ih =>
      subst chosen
      rw [sections_unclosed kind missing, sweepSections_of_not_stops rfl, ih]
      rfl
  | case6 emitted ledger line rest kind missing chosen ih =>
      subst chosen
      rw [sections_unclosed kind missing, sweepSections_of_not_stops rfl, ih]
      rfl
  | case7 emitted ledger line rest kind missing chosen =>
      subst chosen
      rw [sections_unclosed kind missing, sweepSections_of_stops rfl, List.flatMap_cons,
        flatMap_lines_sections]
      rfl

theorem sweepSections_cases (policy : Policy) (emitted : List Text) (ledger : Ledger)
    (parts : List Section) :
    ((∀ part ∈ parts, part.stops policy = false) ∧
      sweepSections policy emitted ledger parts =
        ⟨.settled, emitted ++ parts.map (Section.emit policy), enterAll policy emitted.length ledger parts⟩) ∨
    ∃ before stopper after, parts = before ++ stopper :: after ∧ stopper.stops policy = true ∧
      (∀ part ∈ before, part.stops policy = false) ∧
      sweepSections policy emitted ledger parts =
        ⟨.failed (.unterminatedBlock (emitted.length + before.length + 1)),
          emitted ++ before.map (Section.emit policy) ++ (stopper :: after).flatMap Section.lines,
          enterAll policy emitted.length ledger before⟩ := by
  induction parts generalizing emitted ledger with
  | nil =>
      left
      refine ⟨fun _ member => (List.not_mem_nil member).elim, ?_⟩
      rw [sweepSections, List.map_nil, List.append_nil, enterAll]
  | cons part rest ih =>
      cases stopping : part.stops policy with
      | true =>
          right
          refine ⟨[], part, rest, rfl, stopping, fun _ member => (List.not_mem_nil member).elim, ?_⟩
          rw [sweepSections_of_stops stopping, List.map_nil, List.append_nil, enterAll]
          rfl
      | false =>
          rw [sweepSections_of_not_stops stopping]
          have emittedLength : (emitted ++ [part.emit policy]).length = emitted.length + 1 :=
            List.length_append
          rcases ih (emitted ++ [part.emit policy]) (part.enter policy emitted.length ledger) with
            ⟨going, swept⟩ | ⟨before, stopper, after, divided, stops, going, swept⟩
          · left
            refine ⟨List.forall_mem_cons.mpr ⟨stopping, going⟩, ?_⟩
            rw [swept, emittedLength, List.append_assoc]
            rfl
          · right
            refine ⟨part :: before, stopper, after, by rw [divided]; rfl, stops,
              List.forall_mem_cons.mpr ⟨stopping, going⟩, ?_⟩
            rw [swept, emittedLength, List.append_assoc emitted, List.length_cons,
              Nat.add_right_comm emitted.length, ← Nat.add_assoc]
            rfl

/-! ### The run, section by section -/

theorem run_eq_sweepSections {policy : Policy} {buffer : List Text}
    (narrow : (run policy buffer).result ≠ .error .indentTooWide) :
    run policy buffer = (sweepSections policy [] .empty (sections buffer)).toRun := by
  rw [run_eq_sweep_of_ne_tooWide narrow, sweep, sweepFrom_eq_sweepSections]

theorem run_eq_sweepSections_of_short {buffer : List Text}
    (short : ∀ line ∈ buffer, line.length < Block.widthLimit) (policy : Policy) :
    run policy buffer = (sweepSections policy [] .empty (sections buffer)).toRun := by
  rcases endsAs_sweepFrom policy buffer Settled.empty with reached | ⟨_, line, member, wide⟩
  · rw [← sweepFrom_eq_sweepSections]
    exact congrArg Pass.toRun reached
  · have bounded := Alert.length_indentation_le line
    have below := short line member
    omega

theorem run_eq_of_ok {policy : Policy} {buffer : List Text} {report : Report}
    (finished : (run policy buffer).result = .ok report) :
    (∀ part ∈ sections buffer, part.stops policy = false) ∧
      (run policy buffer).buffer = (sections buffer).map (Section.emit policy) ∧
      report = (enterAll policy 0 .empty (sections buffer)).report := by
  have swept : run policy buffer = (sweepSections policy [] .empty (sections buffer)).toRun :=
    run_eq_sweepSections (by rw [finished]; exact fun same => by cases same)
  rw [swept] at finished ⊢
  rcases sweepSections_cases policy [] .empty (sections buffer) with
    ⟨going, ended⟩ | ⟨before, stopper, after, _, _, _, ended⟩
  · rw [ended] at finished ⊢
    exact ⟨going, rfl, (Except.ok.inj finished).symm⟩
  · rw [ended] at finished
    cases finished

theorem run_eq_of_unterminated {policy : Policy} {buffer : List Text} {number : Nat}
    (stopped : (run policy buffer).result = .error (.unterminatedBlock number)) :
    ∃ before stopper after, sections buffer = before ++ stopper :: after ∧
      stopper.stops policy = true ∧ (∀ part ∈ before, part.stops policy = false) ∧
      number = before.length + 1 ∧
      (run policy buffer).buffer =
        before.map (Section.emit policy) ++ (stopper :: after).flatMap Section.lines := by
  have swept : run policy buffer = (sweepSections policy [] .empty (sections buffer)).toRun :=
    run_eq_sweepSections (by rw [stopped]; exact fun same => by cases same)
  rw [swept] at stopped ⊢
  rcases sweepSections_cases policy [] .empty (sections buffer) with
    ⟨_, ended⟩ | ⟨before, stopper, after, divided, stops, going, ended⟩
  · rw [ended] at stopped
    cases stopped
  · rw [ended] at stopped ⊢
    refine ⟨before, stopper, after, divided, stops, going, ?_, rfl⟩
    have numbered : [].length + before.length + 1 = number :=
      Error.unterminatedBlock.inj (Except.error.inj stopped)
    rw [← numbered, List.length_nil, Nat.zero_add]

end AlertMigration.Edit
