import AlertMigration.Proofs.StoppedRuns

/-!
Edits are local.

A buffer in which every tap block is closed is edited in the same way whatever lines come after it: no search
for the end of a tap block gets beyond the buffer. Main statement: a run over two appended buffers does what the
two runs do, and counts positions in the second from the end of what the first has left.
-/

namespace AlertMigration.Edit

/-! ### Sections of appended buffers -/

private theorem cutAtCloser?_append {width : Nat} {lines body after : List Text} {closer : Text}
    (cut : cutAtCloser? width lines = some (body, closer, after)) (more : List Text) :
    cutAtCloser? width (lines ++ more) = some (body, closer, after ++ more) := by
  induction lines generalizing body with
  | nil => cases cut
  | cons line rest ih =>
      unfold cutAtCloser? at cut
      rw [List.cons_append]
      unfold cutAtCloser?
      split at cut
      · rename_i closing
        cases cut
        rw [if_pos closing]
      · rename_i other
        obtain ⟨⟨inner, found, remaining⟩, restCut, same⟩ := Option.map_eq_some_iff.mp cut
        cases same
        rw [if_neg other, ih restCut]
        rfl

theorem sections_append {front : List Text} (closed : ∀ part ∈ sections front, part.isUnclosed = false)
    (back : List Text) : sections (front ++ back) = sections front ++ sections back := by
  fun_induction sections front with
  | case1 => rfl
  | case2 line rest kind ih =>
      rw [List.cons_append, sections_plain kind, ih (List.forall_mem_cons.mp closed).2]
      rfl
  | case3 line rest kind ih =>
      rw [List.cons_append, sections_inline kind, ih (List.forall_mem_cons.mp closed).2]
      rfl
  | case4 line rest kind body closer after cut shorter ih =>
      rw [List.cons_append, sections_block kind (cutAtCloser?_append cut back),
        ih (List.forall_mem_cons.mp closed).2]
      rfl
  | case5 line rest kind missing ih =>
      have unclosed := closed (.unclosed line) List.mem_cons_self
      cases unclosed

private theorem closed_of_unterminated_eq_nil {policy : Policy} {buffer : List Text} {report : Report}
    (finished : (run policy buffer).result = .ok report) (none : report.unterminated = []) :
    ∀ part ∈ sections buffer, part.isUnclosed = false := by
  obtain ⟨going, _, rfl⟩ := run_eq_of_ok finished
  rw [unterminated_enterAll going] at none
  exact positions_eq_nil_iff.mp (List.append_eq_nil_iff.mp none).2

/-! ### Reports of one edit after another -/

/-- The report of an edit of which `first` tells the beginning and `later` what comes after, with positions
counted from zero again. -/
structure Continues (offset : Nat) (first later whole : Report) : Prop where
  converted : whole.converted = first.converted + later.converted
  inlineConverted : whole.inlineConverted = first.inlineConverted + later.inlineConverted
  blockConverted : whole.blockConverted = first.blockConverted + later.blockConverted
  unterminated : whole.unterminated = first.unterminated ++ later.unterminated.map (· + offset)

theorem Continues.start (offset : Nat) (first : Report) : Continues offset first .empty first :=
  ⟨rfl, rfl, rfl, (List.append_nil _).symm⟩

theorem Continues.enter {offset : Nat} {first : Report} {later whole : Ledger}
    (continues : Continues offset first later.report whole.report) (policy : Policy) (index : Nat)
    (part : Section) :
    Continues offset first (part.enter policy index later).report
      (part.enter policy (index + offset) whole).report := by
  obtain ⟨converted, inlineConverted, blockConverted, unterminated⟩ := continues
  have oneMore : whole.report.unterminated ++ [index + offset] =
      first.unterminated ++ (later.report.unterminated ++ [index]).map (· + offset) := by
    rw [unterminated, List.map_append, List.append_assoc]
    rfl
  cases part with
  | plain line => exact ⟨converted, inlineConverted, blockConverted, unterminated⟩
  | inline line =>
      exact ⟨congrArg (· + 1) converted, congrArg (· + 1) inlineConverted, blockConverted, unterminated⟩
  | block line body closer =>
      exact ⟨congrArg (· + 1) converted, inlineConverted, congrArg (· + 1) blockConverted, unterminated⟩
  | unclosed line =>
      cases policy with
      | skip => exact ⟨converted, inlineConverted, blockConverted, oneMore⟩
      | collapse =>
          exact ⟨congrArg (· + 1) converted, inlineConverted, congrArg (· + 1) blockConverted, oneMore⟩
      | error => exact ⟨converted, inlineConverted, blockConverted, unterminated⟩

/-! ### Sweeps after emitted lines -/

def Verdict.shifted (offset : Nat) : Verdict → Verdict
  | .failed (.unterminatedBlock line) => .failed (.unterminatedBlock (line + offset))
  | verdict => verdict

private theorem sweepSections_after (policy : Policy) {first : Report} {front : List Text}
    {alone whole : Ledger} (continues : Continues front.length first alone.report whole.report)
    (emitted : List Text) (parts : List Section) :
    (sweepSections policy (front ++ emitted) whole parts).verdict =
        (sweepSections policy emitted alone parts).verdict.shifted front.length ∧
      (sweepSections policy (front ++ emitted) whole parts).buffer =
        front ++ (sweepSections policy emitted alone parts).buffer ∧
      Continues front.length first (sweepSections policy emitted alone parts).ledger.report
        (sweepSections policy (front ++ emitted) whole parts).ledger.report := by
  induction parts generalizing emitted alone whole with
  | nil => exact ⟨rfl, rfl, continues⟩
  | cons part rest ih =>
      have index : (front ++ emitted).length = emitted.length + front.length := by
        rw [List.length_append, Nat.add_comm]
      cases stopping : part.stops policy with
      | true =>
          rw [sweepSections_of_stops stopping, sweepSections_of_stops stopping, index]
          refine ⟨?_, List.append_assoc _ _ _, continues⟩
          rw [Nat.add_right_comm]
          rfl
      | false =>
          rw [sweepSections_of_not_stops stopping, sweepSections_of_not_stops stopping, index,
            List.append_assoc]
          exact ih (continues.enter policy emitted.length part) _

private theorem result_toRun_of_shifted {offset : Nat} {first : Report} {alone whole : Pass}
    (verdicts : whole.verdict = alone.verdict.shifted offset)
    (continues : Continues offset first alone.ledger.report whole.ledger.report) :
    (∀ later, alone.toRun.result = .ok later →
      ∃ report, whole.toRun.result = .ok report ∧ Continues offset first later report) ∧
    ∀ number, alone.toRun.result = .error (.unterminatedBlock number) →
      whole.toRun.result = .error (.unterminatedBlock (number + offset)) := by
  unfold Pass.toRun
  rw [verdicts]
  cases alone.verdict with
  | converted | settled =>
      refine ⟨fun later finished => ⟨_, rfl, ?_⟩, fun _ stopped => nomatch stopped⟩
      cases finished
      exact continues
  | failed error =>
      refine ⟨fun _ finished => (nomatch finished), fun number stopped => ?_⟩
      cases stopped
      rfl

/-! ### Runs over appended buffers -/

theorem sweepSections_append_of_closed {front : List Section}
    (closed : ∀ part ∈ front, part.isUnclosed = false) (policy : Policy) (emitted : List Text)
    (ledger : Ledger) (back : List Section) :
    sweepSections policy emitted ledger (front ++ back) =
      sweepSections policy (emitted ++ front.map (Section.emit policy))
        (enterAll policy emitted.length ledger front) back := by
  induction front generalizing emitted ledger with
  | nil => rw [List.map_nil, List.append_nil, enterAll, List.nil_append]
  | cons part rest ih =>
      obtain ⟨here, later⟩ := List.forall_mem_cons.mp closed
      rw [List.cons_append, sweepSections_of_not_stops (stops_eq_false_of_closed here), ih later,
        List.length_append, List.append_assoc]
      rfl

/-- A run over two appended buffers, the first of which leaves no call unterminated, leaves what the two runs
leave, reports the sums of what they count, and shifts the positions in the second, also that of an error. -/
theorem run_append {policy : Policy} {front back : List Text} {first : Report}
    (short : ∀ line ∈ front ++ back, line.length < Block.widthLimit)
    (finished : (run policy front).result = .ok first) (closed : first.unterminated = []) :
    (run policy (front ++ back)).buffer = (run policy front).buffer ++ (run policy back).buffer ∧
    ((∃ later whole, (run policy back).result = .ok later ∧
        (run policy (front ++ back)).result = .ok whole ∧
        whole.converted = first.converted + later.converted ∧
        whole.inlineConverted = first.inlineConverted + later.inlineConverted ∧
        whole.blockConverted = first.blockConverted + later.blockConverted ∧
        whole.unterminated = later.unterminated.map (· + (run policy front).buffer.length)) ∨
      ∃ number, (run policy back).result = .error (.unterminatedBlock number) ∧
        (run policy (front ++ back)).result =
          .error (.unterminatedBlock (number + (run policy front).buffer.length))) := by
  have shortBack : ∀ line ∈ back, line.length < Block.widthLimit :=
    fun line member => short line (List.mem_append_right front member)
  have sectionsClosed := closed_of_unterminated_eq_nil finished closed
  obtain ⟨_, emitted, rfl⟩ := run_eq_of_ok finished
  have whole := run_eq_sweepSections_of_short short policy
  rw [sections_append sectionsClosed, sweepSections_append_of_closed sectionsClosed, List.nil_append,
    List.length_nil, ← emitted] at whole
  have alone := run_eq_sweepSections_of_short shortBack policy
  have start : Continues (run policy front).buffer.length _ Ledger.empty.report _ :=
    Continues.start _ (enterAll policy 0 .empty (sections front)).report
  obtain ⟨verdicts, buffers, continues⟩ := sweepSections_after policy start [] (sections back)
  rw [List.append_nil] at verdicts buffers continues
  obtain ⟨onFinish, onStop⟩ := result_toRun_of_shifted verdicts continues
  rw [← whole, ← alone] at onFinish onStop
  refine ⟨by rw [whole, alone]; exact buffers, ?_⟩
  rcases result_cases_of_short shortBack policy with ⟨later, done⟩ | ⟨number, stopped⟩
  · obtain ⟨report, doneWhole, together⟩ := onFinish later done
    refine .inl ⟨later, report, done, doneWhole, together.converted, together.inlineConverted,
      together.blockConverted, ?_⟩
    rw [together.unterminated, closed, List.nil_append]
  · exact .inr ⟨number, stopped, onStop number stopped⟩

def closedBuffer : List Text :=
  [sampleCall [], "show();\n".toList, "\x7d];\n".toList, "\x7d];\n".toList]

theorem run_append_sample :
    (∀ line ∈ closedBuffer ++ sampleBuffer, line.length < Block.widthLimit) ∧
      (∃ first later whole, (run .skip closedBuffer).result = .ok first ∧ first.unterminated = [] ∧
        (run .skip sampleBuffer).result = .ok later ∧
        (run .skip (closedBuffer ++ sampleBuffer)).result = .ok whole ∧
        whole.converted = first.converted + later.converted ∧
        whole.unterminated = later.unterminated.map (· + (run .skip closedBuffer).buffer.length)) ∧
      ∃ number, (run .error sampleBuffer).result = .error (.unterminatedBlock number) ∧
        (run .error (closedBuffer ++ sampleBuffer)).result =
          .error (.unterminatedBlock (number + (run .error closedBuffer).buffer.length)) := by
  obtain ⟨short, closed, located⟩ :
      (∀ line ∈ closedBuffer ++ sampleBuffer, line.length < Block.widthLimit) ∧
      (∀ part ∈ sections closedBuffer, part.isUnclosed = false) ∧
      positions Section.isUnclosed 0 (sections sampleBuffer) = [1] := by
    decide +kernel
  obtain ⟨shortFront, shortBack⟩ := List.forall_mem_append.mp short
  have finished (policy : Policy) : ∃ first, (run policy closedBuffer).result = .ok first ∧
      first.unterminated = [] := by
    have going : ∀ part ∈ sections closedBuffer, part.stops policy = false :=
      fun part member => stops_eq_false_of_closed (closed part member)
    refine ⟨_, by rw [run_eq_of_going shortFront going]; rfl, ?_⟩
    rw [unterminated_enterAll going]
    exact positions_eq_nil_iff.mpr closed
  refine ⟨short, ?_, ?_⟩
  · obtain ⟨first, done, none⟩ := finished .skip
    rcases (run_append short done none).2 with ⟨later, whole, doneLater, doneWhole, converted, _, _,
      reported⟩ |
      ⟨number, stopped, _⟩
    · exact ⟨first, later, whole, done, none, doneLater, doneWhole, converted, reported⟩
    · obtain ⟨report, doneLater⟩ := exists_report_sampleBuffer (show Policy.skip ≠ .error by decide)
      rw [doneLater] at stopped
      cases stopped
  · obtain ⟨first, done, none⟩ := finished .error
    rcases (run_append short done none).2 with ⟨later, _, doneLater, _⟩ | stopped
    · rcases result_error_cases shortBack with ⟨nothing, _⟩ | ⟨_, _, _, stopped⟩
      · rw [located] at nothing
        cases nothing
      · rw [doneLater] at stopped
        cases stopped
    · exact stopped

end AlertMigration.Edit
