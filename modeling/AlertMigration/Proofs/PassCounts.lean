import AlertMigration.Proofs.PassEffects
import Mathlib.Data.List.Nodup
import Mathlib.Data.List.Perm.Subperm

/-!
How many passes a run makes.

A run starts over after each replacement. Pending are the calls that are not at a skipped position, and every pass
but the last leaves fewer of them than it found: what is written is inert, the lines of a tap block are only taken
out, and the skipped positions lie before the call that is replaced, so that none of them comes to stand for another
line. A run therefore makes one pass more than it replaces calls, and the calls that it replaces or skips are
different calls of the buffer it was given.
-/

namespace AlertMigration.Edit

/-! ### Pending calls -/

def pendingFrom (skipped : List Nat) (start : Nat) (lines : List Text) : Nat :=
  (lines.zipIdx start).countP fun place => Alert.isCall place.1 && !skipped.contains place.2

def pending (skipped : List Nat) (lines : List Text) : Nat :=
  pendingFrom skipped 0 lines

private theorem pendingFrom_append (skipped : List Nat) (start : Nat) (front back : List Text) :
    pendingFrom skipped start (front ++ back) =
      pendingFrom skipped start front + pendingFrom skipped (start + front.length) back := by
  unfold pendingFrom
  rw [List.zipIdx_append, List.countP_append]

private theorem pendingFrom_cons (skipped : List Nat) (start : Nat) (line : Text) (rest : List Text) :
    pendingFrom skipped start (line :: rest) =
      pendingFrom skipped (start + 1) rest +
        if Alert.isCall line && !skipped.contains start then 1 else 0 := by
  unfold pendingFrom
  rw [List.zipIdx_cons, List.countP_cons]

private theorem pending_of_settled {emitted : List Text} {ledger : Ledger}
    (settled : Settled emitted ledger) :
    pending ledger.skipped emitted = 0 := by
  apply List.countP_eq_zero.mpr
  rintro ⟨line, index⟩ member
  have present : emitted[index]? = some line := List.mk_mem_zipIdx_iff_getElem?.mp member
  simp only [Bool.and_eq_true, Bool.not_eq_true', not_and, Bool.not_eq_false, List.contains_iff_mem]
  exact settled.inert index line present

private theorem pendingFrom_eq_callCount {skipped : List Nat} {start : Nat}
    (before : ∀ index ∈ skipped, index < start)
    (lines : List Text) : pendingFrom skipped start lines = callCount lines := by
  induction lines generalizing start with
  | nil => rfl
  | cons line rest ih =>
      have fresh : skipped.contains start = false := by
        apply Bool.eq_false_iff.mpr
        intro member
        exact Nat.lt_irrefl start (before start (List.contains_iff_mem.mp member))
      have later : ∀ index ∈ skipped, index < start + 1 :=
        fun index member => Nat.lt_succ_of_lt (before index member)
      rw [pendingFrom_cons, ih later, fresh, Bool.not_false, Bool.and_true, callCount, callCount,
        List.countP_cons]

/-! ### The positions that a pass skips -/

section Positions

variable {front : List Text} {index : Nat}

private theorem lt_of_mem_positions
    (member : index ∈ positions Alert.isCall 0 front) : index < front.length := by
  obtain ⟨line, present, _⟩ := mem_positions_isCall.mp member
  exact (List.getElem?_eq_some_iff.mp present).1

private theorem mem_positions_append (within : index < front.length) (back : List Text) :
    index ∈ positions Alert.isCall 0 (front ++ back) ↔ index ∈ positions Alert.isCall 0 front := by
  rw [mem_positions_isCall, mem_positions_isCall, List.getElem?_append_left within]

private theorem positions_subset_append (front back : List Text) :
    positions Alert.isCall 0 front ⊆ positions Alert.isCall 0 (front ++ back) :=
  fun _ member => (mem_positions_append (lt_of_mem_positions member) back).mpr member

private theorem append_positions_subset (skipped : List Nat) (start : Nat) (line : Text) (rest : List Text) :
    skipped ++ positions Alert.isCall (start + 1) rest ⊆
      skipped ++ positions Alert.isCall start (line :: rest) := by
  cases call : Alert.isCall line with
  | true =>
      rw [positions_cons_of_pos call]
      exact List.append_subset.mpr ⟨List.subset_append_left _ _,
        List.subset_append_of_subset_right _ (List.subset_cons_self _ _)⟩
  | false =>
      rw [positions_cons_of_neg call]
      exact List.Subset.refl _

end Positions

theorem GoesOver.skipped_subset_append {policy : Policy} {rest front : List Text} {index : Nat}
    {ledger noted : Ledger} (goes : GoesOver policy rest index ledger front noted) :
    noted.skipped ⊆ ledger.skipped ++ positions Alert.isCall index front := by
  induction goes with
  | nil index ledger => exact List.subset_append_left _ _
  | skipped line _ _ ih => exact List.Subset.trans ih (append_positions_subset _ _ _ _)
  | plain _ _ ih => exact List.Subset.trans ih (append_positions_subset _ _ _ _)
  | leftOpen _ leftOpen _ ih =>
      rw [positions_cons_of_pos (Alert.isCall_of_block leftOpen.kind)]
      rwa [Ledger.noteSkipped, List.append_assoc] at ih

private theorem nodup_passFrom {policy : Policy} {index : Nat} {ledger : Ledger} {lines : List Text}
    (distinct : ledger.skipped.Nodup) : (passFrom policy index ledger lines).ledger.skipped.Nodup := by
  induction lines generalizing index ledger with
  | nil => exact distinct
  | cons line rest ih =>
      rw [passFrom]
      split
      · exact ih distinct
      · rename_i active
        cases decideAt line rest with
        | keep => exact ih distinct
        | inline text => exact distinct
        | block following text => exact distinct
        | tooWide => exact distinct
        | unterminated text =>
            cases policy with
            | error => exact distinct
            | collapse => exact distinct
            | skip =>
                have fresh : index ∉ ledger.skipped := fun member => active (List.contains_iff_mem.mpr member)
                exact ih (distinct.append (List.nodup_singleton index)
                  (List.disjoint_singleton.mpr fresh))

/-! ### One pass of a run -/

structure Placed (lines : List Text) (skipped : List Nat) : Prop where
  calls : skipped ⊆ positions Alert.isCall 0 lines
  distinct : skipped.Nodup

theorem Placed.length_le {lines : List Text} {skipped : List Nat} (placed : Placed lines skipped) :
    skipped.length ≤ callCount lines := by
  have fewer := (List.subperm_of_subset placed.distinct placed.calls).length_le
  rwa [length_positions, ← List.countP_eq_length_filter] at fewer

/-- The state of a run between two passes: the lines begin with settled ones, which hold all that is skipped. -/
structure Underway (lines : List Text) (ledger : Ledger) : Prop where
  placed : Placed lines ledger.skipped
  settled : ∃ emitted rest, lines = emitted ++ rest ∧ Settled emitted ledger

private theorem underway_empty (buffer : List Text) : Underway buffer .empty :=
  ⟨⟨List.nil_subset _, List.nodup_nil⟩, [], buffer, rfl, .empty⟩

structure Replaced (lines : List Text) (ledger : Ledger) (pass : Pass) (front taken left : List Text)
    (line text : Text) : Prop where
  found : lines = front ++ line :: (taken ++ left)
  written : pass.buffer = front ++ [text] ++ left
  call : Alert.isCall line = true
  before : ∀ index ∈ ledger.skipped, index < front.length
  skipped : pass.ledger.skipped ⊆ positions Alert.isCall 0 front
  settled : Settled (front ++ [text]) pass.ledger

private theorem exists_of_converted {policy : Policy} {lines : List Text} {ledger : Ledger}
    (converted : (pass policy lines ledger).verdict = .converted) :
    ∃ front line rest text left noted entered, lines = front ++ line :: rest ∧
      GoesOver policy (line :: rest) 0 ledger front noted ∧ front.length ∉ noted.skipped ∧
      Conversion policy line rest text left ∧ Entered front.length noted entered ∧
      pass policy lines ledger = ⟨.converted, front ++ text :: left, entered⟩ := by
  obtain ⟨front, rest, noted, last, divided, goes, ends, passed⟩ := passFrom_cases policy 0 ledger lines
  rw [pass, passed] at converted ⊢
  rw [Nat.zero_add] at ends
  cases ends with
  | settled => cases converted
  | unterminated chosen leftOpen => cases converted
  | tooWide wide => cases converted
  | @converted line text rest left entered fresh conversion counted =>
      exact ⟨front, line, rest, text, left, noted, entered, divided, goes, fresh, conversion, counted, rfl⟩

private theorem converted_pass {policy : Policy} {lines : List Text} {ledger : Ledger}
    (converted : (pass policy lines ledger).verdict = .converted) :
    (pass policy lines ledger).ledger.report.converted = ledger.report.converted + 1 := by
  obtain ⟨_, _, _, _, _, _, _, _, goes, _, _, counted, passed⟩ := exists_of_converted converted
  rw [passed]
  exact counted.converted_eq.trans (congrArg (· + 1) goes.converted_eq)

section Pass

variable {policy : Policy} {lines : List Text} {ledger : Ledger} (underway : Underway lines ledger)

include underway

private theorem exists_replaced (converted : (pass policy lines ledger).verdict = .converted) :
    ∃ front taken left line text,
      Replaced lines ledger (pass policy lines ledger) front taken left line text := by
  obtain ⟨front, line, rest, text, left, noted, entered, divided, goes, fresh, conversion, counted, passed⟩ :=
    exists_of_converted converted
  obtain ⟨call, inert⟩ := conversion.isCall
  obtain ⟨taken, rfl⟩ := conversion.exists_taken
  obtain ⟨emitted, todo, split, settled⟩ := underway.settled
  have present : lines[front.length]? = some line := by
    rw [divided, List.getElem?_append_right (Nat.le_refl _), Nat.sub_self]
    rfl
  have beyond : emitted.length ≤ front.length := by
    apply Nat.le_of_not_lt
    intro within
    rw [split, List.getElem?_append_left within] at present
    exact fresh (goes.skipped_subset (settled.inert _ _ present call))
  have before : ∀ index ∈ ledger.skipped, index < front.length :=
    fun index member => Nat.lt_of_lt_of_le (settled.bounded index member) beyond
  have skipped : noted.skipped ⊆ positions Alert.isCall 0 front := by
    intro index member
    rcases List.mem_append.mp (goes.skipped_subset_append member) with earlier | here
    · have listed := underway.placed.calls earlier
      rwa [divided, mem_positions_append (before index earlier)] at listed
    · exact here
  have gone : Settled front noted := by
    refine ⟨?_, fun index member => lt_of_mem_positions (skipped member)⟩
    intro index kept present isCall
    have member := goes.mem_skipped present (Alert.classify_ne_other_iff.mpr isCall)
    rwa [Nat.zero_add] at member
  have same := counted.skipped_eq
  rw [passed]
  refine ⟨front, taken, left, line, text, divided, ?_, call, before, ?_, gone.push inert same⟩
  · rw [List.append_assoc]
    rfl
  · rw [same]
    exact skipped

theorem pending_pass_lt (converted : (pass policy lines ledger).verdict = .converted) :
    pending (pass policy lines ledger).ledger.skipped (pass policy lines ledger).buffer <
      pending ledger.skipped lines := by
  obtain ⟨front, taken, left, line, text, replaced⟩ := exists_replaced underway converted
  have after : pending (pass policy lines ledger).ledger.skipped (pass policy lines ledger).buffer =
      callCount left := by
    rw [replaced.written, pending, pendingFrom_append, Nat.zero_add,
      pendingFrom_eq_callCount replaced.settled.bounded]
    exact (congrArg (· + callCount left) (pending_of_settled replaced.settled)).trans (Nat.zero_add _)
  have found : pending ledger.skipped lines =
      pendingFrom ledger.skipped 0 front + callCount (line :: (taken ++ left)) := by
    rw [replaced.found, pending, pendingFrom_append, Nat.zero_add, pendingFrom_eq_callCount replaced.before]
  have counted : callCount (line :: (taken ++ left)) = callCount taken + callCount left + 1 := by
    rw [callCount, List.countP_cons_of_pos replaced.call, List.countP_append]
    rfl
  omega

theorem underway_pass (converted : (pass policy lines ledger).verdict = .converted) :
    Underway (pass policy lines ledger).buffer (pass policy lines ledger).ledger := by
  obtain ⟨front, taken, left, line, text, replaced⟩ := exists_replaced underway converted
  refine ⟨⟨?_, nodup_passFrom underway.placed.distinct⟩, front ++ [text], left, replaced.written,
    replaced.settled⟩
  rw [replaced.written, List.append_assoc]
  exact List.Subset.trans replaced.skipped (positions_subset_append front _)

private theorem placed_pass_of_ended (ended : (pass policy lines ledger).verdict ≠ .converted) :
    (pass policy lines ledger).buffer = lines ∧
      (pass policy lines ledger).ledger.report.converted = ledger.report.converted ∧
      Placed lines (pass policy lines ledger).ledger.skipped := by
  have distinct : (pass policy lines ledger).ledger.skipped.Nodup := nodup_passFrom underway.placed.distinct
  obtain ⟨front, rest, noted, last, divided, goes, ends, passed⟩ := passFrom_cases policy 0 ledger lines
  have calls : noted.skipped ⊆ positions Alert.isCall 0 lines := by
    intro index member
    rcases List.mem_append.mp (goes.skipped_subset_append member) with earlier | here
    · exact underway.placed.calls earlier
    · rw [divided]
      exact positions_subset_append front rest here
  rw [pass, passed] at ended distinct ⊢
  cases ends with
  | settled => exact ⟨divided.symm, goes.converted_eq, calls, distinct⟩
  | converted fresh conversion counted => exact absurd rfl ended
  | unterminated chosen leftOpen => exact ⟨divided.symm, goes.converted_eq, calls, distinct⟩
  | tooWide wide => exact ⟨divided.symm, goes.converted_eq, calls, distinct⟩

end Pass

/-! ### All passes of a run -/

/-- The lines and the ledger from which each of the passes starts that are made until one replaces nothing. -/
def rounds (policy : Policy) (buffer : List Text) (ledger : Ledger) : List (List Text × Ledger) :=
  if converted : (pass policy buffer ledger).verdict = .converted then
    have : callCount (pass policy buffer ledger).buffer < callCount buffer :=
      callCount_lt_of_converted converted
    (buffer, ledger) :: rounds policy (pass policy buffer ledger).buffer (pass policy buffer ledger).ledger
  else
    [(buffer, ledger)]
termination_by callCount buffer

section Rounds

variable {policy : Policy} {buffer : List Text} {ledger : Ledger}

private theorem rounds_of_converted (converted : (pass policy buffer ledger).verdict = .converted) :
    rounds policy buffer ledger =
      (buffer, ledger) :: rounds policy (pass policy buffer ledger).buffer
      (pass policy buffer ledger).ledger := by
  rw [rounds, dif_pos converted]

private theorem rounds_of_ended (ended : (pass policy buffer ledger).verdict ≠ .converted) :
    rounds policy buffer ledger = [(buffer, ledger)] := by
  rw [rounds, dif_neg ended]

private theorem rounds_ne_nil : rounds policy buffer ledger ≠ [] := by
  rw [rounds]
  split <;> exact List.cons_ne_nil _ _

end Rounds

private theorem passes_eq_last_round (policy : Policy) (buffer : List Text) (ledger : Ledger) :
    ∃ lines noted, (rounds policy buffer ledger).getLast? = some (lines, noted) ∧
      (pass policy lines noted).verdict ≠ .converted ∧
      passes policy buffer ledger = pass policy lines noted := by
  induction buffer, ledger using passes.induct policy with
  | case1 buffer ledger converted _ ih =>
      obtain ⟨lines, noted, last, ended, same⟩ := ih
      refine ⟨lines, noted, ?_, ended, ?_⟩
      · rw [rounds_of_converted converted, List.getLast?_cons_of_ne_nil rounds_ne_nil, last]
      · rw [passes_eq, if_pos converted, same]
  | case2 buffer ledger ended =>
      refine ⟨buffer, ledger, ?_, ended, ?_⟩
      · rw [rounds_of_ended ended]
        rfl
      · rw [passes_eq, if_neg ended]

private theorem underway_of_mem_rounds {policy : Policy} {buffer : List Text} {ledger : Ledger}
    (underway : Underway buffer ledger) :
    ∀ round ∈ rounds policy buffer ledger, Underway round.1 round.2 := by
  induction buffer, ledger using passes.induct policy with
  | case1 buffer ledger converted _ ih =>
      rw [rounds_of_converted converted]
      exact List.forall_mem_cons.mpr ⟨underway, ih (underway_pass underway converted)⟩
  | case2 buffer ledger ended =>
      rw [rounds_of_ended ended]
      exact List.forall_mem_singleton.mpr underway

theorem length_rounds (policy : Policy) {buffer : List Text} {ledger : Ledger}
    (underway : Underway buffer ledger) :
    (rounds policy buffer ledger).length + ledger.report.converted =
      (passes policy buffer ledger).ledger.report.converted + 1 := by
  induction buffer, ledger using passes.induct policy with
  | case1 buffer ledger converted _ ih =>
      have later := ih (underway_pass underway converted)
      have counted := converted_pass converted
      rw [rounds_of_converted converted, passes_eq, if_pos converted, List.length_cons]
      omega
  | case2 buffer ledger ended =>
      have counted := (placed_pass_of_ended underway ended).2.1
      rw [rounds_of_ended ended, passes_eq, if_neg ended, counted, List.length_singleton]
      omega

theorem placed_passes (policy : Policy) {buffer : List Text} {ledger : Ledger}
    (underway : Underway buffer ledger) :
    Placed (passes policy buffer ledger).buffer (passes policy buffer ledger).ledger.skipped ∧
      (passes policy buffer ledger).ledger.report.converted + callCount (passes policy buffer ledger).buffer ≤
        ledger.report.converted + callCount buffer := by
  induction buffer, ledger using passes.induct policy with
  | case1 buffer ledger converted fewer ih =>
      obtain ⟨placed, bounded⟩ := ih (underway_pass underway converted)
      have counted := converted_pass converted
      rw [passes_eq, if_pos converted]
      exact ⟨placed, by omega⟩
  | case2 buffer ledger ended =>
      obtain ⟨kept, counted, placed⟩ := placed_pass_of_ended underway ended
      rw [passes_eq, if_neg ended, kept, counted]
      exact ⟨placed, Nat.le_refl _⟩

/-- A run ends with the first pass that replaces nothing, and each pass before that leaves fewer calls pending than it
found. A run that returns a report has made one pass more than it has replaced calls, and has replaced and skipped no
more calls than there were. -/
theorem rounds_bounded (policy : Policy) (buffer : List Text) :
    (∀ lines ledger, (lines, ledger) ∈ rounds policy buffer .empty →
      (pass policy lines ledger).verdict = .converted →
      pending (pass policy lines ledger).ledger.skipped (pass policy lines ledger).buffer <
        pending ledger.skipped lines) ∧
    ∃ lines ledger, (rounds policy buffer .empty).getLast? = some (lines, ledger) ∧
      (pass policy lines ledger).verdict ≠ .converted ∧
      run policy buffer = (pass policy lines ledger).toRun ∧
      ∀ report, (run policy buffer).result = .ok report →
        (rounds policy buffer .empty).length = report.converted + 1 ∧
        (pass policy lines ledger).ledger.skipped.Nodup ∧
        report.converted + (pass policy lines ledger).ledger.skipped.length ≤ callCount buffer := by
  have underway := underway_empty buffer
  constructor
  · intro lines ledger member converted
    exact pending_pass_lt (underway_of_mem_rounds underway _ member) converted
  · obtain ⟨lines, ledger, last, ended, same⟩ := passes_eq_last_round policy buffer .empty
    refine ⟨lines, ledger, last, ended, congrArg Pass.toRun same, ?_⟩
    intro report finished
    have counted := length_rounds policy underway
    obtain ⟨placed, bounded⟩ := placed_passes policy underway
    have skipped := placed.length_le
    have reported : (passes policy buffer .empty).ledger.report = report := report_passes finished
    have none : (Ledger.empty).report.converted = 0 := rfl
    rw [reported, none] at counted bounded
    rw [same] at placed skipped bounded
    exact ⟨by omega, placed.distinct, by omega⟩

/-- The first pass replaces a call together with the one in its tap block, so that of three pending calls one is left;
the second pass skips that one. -/
theorem rounds_bounded_sample :
    ((sampleBuffer, Ledger.empty) ∈ rounds .skip sampleBuffer .empty ∧
      (pass .skip sampleBuffer .empty).verdict = .converted ∧ pending [] sampleBuffer = 3 ∧
      pending (pass .skip sampleBuffer .empty).ledger.skipped (pass .skip sampleBuffer .empty).buffer < 3) ∧
    ∃ report, (run .skip sampleBuffer).result = .ok report ∧
      (rounds .skip sampleBuffer .empty).length = report.converted + 1 ∧ report.converted ≤ 3 := by
  obtain ⟨converted, found, calls⟩ :
      (pass .skip sampleBuffer .empty).verdict = .converted ∧ pending [] sampleBuffer = 3 ∧
        callCount sampleBuffer = 3 := by
    decide +kernel
  obtain ⟨fewer, lines, ledger, _, _, _, counted⟩ := rounds_bounded .skip sampleBuffer
  obtain ⟨report, finished⟩ := exists_report_sampleBuffer (show Policy.skip ≠ .error by decide)
  obtain ⟨length, _, bounded⟩ := counted report finished
  have started : (sampleBuffer, Ledger.empty) ∈ rounds .skip sampleBuffer .empty := by
    rw [rounds_of_converted converted]
    exact List.mem_cons_self
  refine ⟨⟨started, converted, found, found ▸ fewer _ _ started converted⟩, report, finished, length, ?_⟩
  omega

end AlertMigration.Edit
