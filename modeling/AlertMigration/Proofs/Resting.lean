import AlertMigration.Proofs.ClosingLines
import AlertMigration.Proofs.PolicyAgreement

/-!
Buffers at rest.

A buffer is at rest if a run can do nothing with it: the calls that it still holds are left open, and the
policy is to skip such calls. A run over a buffer at rest changes nothing (`run_of_resting`), a finished run
leaves a buffer at rest (`resting_run`), and a run that replaces nothing has met one
(`resting_of_converted_eq_zero`). What a finished run says about the calls that remain, and that a second
run does nothing, follows from this.
-/

namespace AlertMigration.Block

theorem ofWidth?_natCast {width : Nat} (narrow : width < widthLimit) :
    Closer.ofWidth? width = some (.indented width) := by
  have bounded : (width : Int) < widthLimit := Int.ofNat_lt.mpr narrow
  have natural : ¬ (width : Int) < 0 := Int.not_lt.mpr (Int.natCast_nonneg width)
  rw [Closer.ofWidth?, if_neg natural, if_pos bounded, Int.toNat_natCast]

private theorem findEnd_eq_of_ofWidth? {lines : List Text} {start width : Int} {closer : Closer}
    (given : Closer.ofWidth? width = some closer) (begins : -1 ≤ start) :
    findEnd lines start width =
      .ok (((lines.drop (start + 1).toNat).findIdx? closer.accepts).map fun offset : Nat =>
        start + 1 + offset) := by
  have ahead : 0 ≤ start + 1 := by omega
  unfold findEnd
  simp only [given, if_pos ahead]
  cases (lines.drop (start + 1).toNat).findIdx? closer.accepts with
  | none => rfl
  | some offset => rfl

theorem findEnd_eq {lines : List Text} {start : Int} {width : Nat} (begins : -1 ≤ start)
    (narrow : width < widthLimit) :
    findEnd lines start width =
      .ok ((firstClosing? width (lines.drop (start + 1).toNat)).map fun offset : Nat =>
        start + 1 + offset) := by
  have closing : (Closer.indented width).accepts = closes width := funext (Closer.accepts_indented width)
  rw [findEnd_eq_of_ofWidth? (ofWidth?_natCast narrow) begins, closing, firstClosing?]

theorem findEnd_eq_none {lines : List Text} {start width : Nat} (narrow : width < widthLimit)
    (unclosed : ∀ later ∈ lines.drop (start + 1), closes width later = false) :
    findEnd lines start width = .ok none := by
  have searched : firstClosing? width (lines.drop (start + 1)) = none :=
    List.findIdx?_eq_none_iff.mpr unclosed
  have first : ((start : Int) + 1).toNat = start + 1 := by omega
  rw [findEnd_eq (by omega) narrow, first, searched]
  rfl

end AlertMigration.Block

namespace AlertMigration

/-! ### Items and what follows them -/

/-- Each item of a list is in a relation to the items after it. -/
def EachWithRest {α : Type} (holds : α → List α → Prop) : List α → Prop
  | [] => True
  | item :: rest => holds item rest ∧ EachWithRest holds rest

section EachWithRest

variable {α : Type} {holds other : α → List α → Prop} {front back : List α}

theorem eachWithRest_append :
    EachWithRest holds (front ++ back) ↔
      EachWithRest (fun item rest => holds item (rest ++ back)) front ∧ EachWithRest holds back := by
  induction front with
  | nil => exact (and_iff_right trivial).symm
  | cons item front ih =>
      rw [List.cons_append, EachWithRest, EachWithRest, ih, and_assoc]

theorem eachWithRest_congr (same : ∀ item rest, holds item rest ↔ other item rest) :
    EachWithRest holds front ↔ EachWithRest other front := by
  induction front with
  | nil => exact Iff.rfl
  | cons item front ih => exact and_congr (same item front) ih

theorem EachWithRest.getElem? (each : EachWithRest holds front) {index : Nat} {item : α}
    (present : front[index]? = some item) : holds item (front.drop (index + 1)) := by
  induction front generalizing index with
  | nil => cases present
  | cons first front ih =>
      obtain ⟨here, later⟩ := each
      cases index with
      | zero =>
          cases present
          exact here
      | succ index => exact ih later present

instance decidableEachWithRest [∀ item rest, Decidable (holds item rest)] :
    ∀ items, Decidable (EachWithRest holds items)
  | [] => .isTrue trivial
  | item :: rest =>
      have := decidableEachWithRest rest
      inferInstanceAs (Decidable (holds item rest ∧ EachWithRest holds rest))

end EachWithRest

namespace Edit

structure LeftOpen (line : Text) (rest : List Text) : Prop where
  kind : Alert.classify line = .block
  narrow : (Alert.indentation line).length < Block.widthLimit
  unclosed : ∀ later ∈ rest, Block.closes (Alert.indentation line).length later = false

/-- A line that a run does not touch: it is no call, or a call that is left open and is to be skipped. -/
def LeftAlone (policy : Policy) (line : Text) (rest : List Text) : Prop :=
  Alert.isCall line = true → policy = .skip ∧ LeftOpen line rest

def Resting (policy : Policy) (buffer : List Text) : Prop :=
  EachWithRest (LeftAlone policy) buffer

instance (line : Text) (rest : List Text) : Decidable (LeftOpen line rest) :=
  decidable_of_iff (Alert.classify line = .block ∧ (Alert.indentation line).length < Block.widthLimit ∧
      ∀ later ∈ rest, Block.closes (Alert.indentation line).length later = false)
    ⟨fun ⟨kind, narrow, unclosed⟩ => ⟨kind, narrow, unclosed⟩,
      fun ⟨kind, narrow, unclosed⟩ => ⟨kind, narrow, unclosed⟩⟩

instance (policy : Policy) (line : Text) (rest : List Text) : Decidable (LeftAlone policy line rest) :=
  inferInstanceAs (Decidable (Alert.isCall line = true → policy = .skip ∧ LeftOpen line rest))

private theorem leftAlone_of_inert {policy : Policy} {line : Text} {rest : List Text}
    (inert : Alert.isCall line = false) : LeftAlone policy line rest := by
  intro call
  rw [inert] at call
  cases call

private theorem resting_cons {policy : Policy} {line : Text} {rest : List Text} :
    Resting policy (line :: rest) ↔ LeftAlone policy line rest ∧ Resting policy rest :=
  Iff.rfl

theorem resting_cons_of_inert {policy : Policy} {line : Text} {rest : List Text}
    (inert : Alert.isCall line = false) : Resting policy (line :: rest) ↔ Resting policy rest :=
  and_iff_right (leftAlone_of_inert inert)

/-! ### A run over a buffer at rest -/

theorem LeftOpen.decideAt_eq {line : Text} {rest : List Text} (leftOpen : LeftOpen line rest) :
    decideAt line rest = .unterminated (replaceCall line (some []) line) := by
  have missing : Block.firstClosing? (Alert.indentation line).length rest = none :=
    List.findIdx?_eq_none_iff.mpr leftOpen.unclosed
  simp only [decideAt, leftOpen.kind, if_pos leftOpen.narrow, missing]

theorem passFrom_of_resting {policy : Policy} {buffer : List Text} {index : Nat} {ledger : Ledger}
    (resting : Resting policy buffer) (ahead : ∀ position ∈ ledger.skipped, position < index) :
    passFrom policy index ledger buffer =
      ⟨.settled, buffer, (positions Alert.isCall index buffer).foldl Ledger.noteSkipped ledger⟩ := by
  induction buffer generalizing index ledger with
  | nil => rfl
  | cons line rest ih =>
      obtain ⟨here, later⟩ := resting_cons.mp resting
      have active : ledger.skipped.contains index = false := by
        apply Bool.eq_false_iff.mpr
        intro skipped
        exact Nat.lt_irrefl index (ahead index (List.contains_iff_mem.mp skipped))
      rw [passFrom, active]
      by_cases call : Alert.isCall line = true
      · obtain ⟨rfl, leftOpen⟩ := here call
        have noted : ∀ position ∈ (ledger.noteSkipped index).skipped, position < index + 1 := by
          intro position member
          rcases List.mem_append.mp member with earlier | atEnd
          · exact Nat.lt_succ_of_lt (ahead position earlier)
          · rw [List.mem_singleton.mp atEnd]
            exact Nat.lt_succ_self index
        rw [leftOpen.decideAt_eq, positions_cons_of_pos call]
        simp only [Bool.false_eq_true, if_false, ih later noted]
        rfl
      · have inert : Alert.isCall line = false := Bool.eq_false_iff.mpr call
        have further : ∀ position ∈ ledger.skipped, position < index + 1 :=
          fun position member => Nat.lt_succ_of_lt (ahead position member)
        rw [decideAt_other (Alert.classify_eq_other_iff.mpr inert), positions_cons_of_neg inert]
        simp only [Bool.false_eq_true, if_false, ih later further]
        rfl

private theorem report_foldl_noteSkipped (indices : List Nat) (ledger : Ledger) :
    let report := (indices.foldl Ledger.noteSkipped ledger).report
    report.converted = ledger.report.converted ∧ report.details = ledger.report.details ∧
      report.unterminated = ledger.report.unterminated ++ indices := by
  induction indices generalizing ledger with
  | nil => exact ⟨rfl, rfl, (List.append_nil _).symm⟩
  | cons index rest ih =>
      obtain ⟨converted, details, unterminated⟩ := ih (ledger.noteSkipped index)
      exact ⟨converted, details, unterminated.trans (List.append_assoc _ _ _)⟩

theorem run_of_resting {policy : Policy} {buffer : List Text} (resting : Resting policy buffer) :
    ∃ report, (run policy buffer).result = .ok report ∧ (run policy buffer).buffer = buffer ∧
      report.converted = 0 ∧ report.details = [] ∧
      report.unterminated = positions Alert.isCall 0 buffer := by
  have passed : pass policy buffer .empty = ⟨.settled, buffer, _⟩ :=
    passFrom_of_resting resting (fun _ member => (List.not_mem_nil member).elim)
  have ended : run policy buffer = Pass.toRun ⟨.settled, buffer, _⟩ :=
    congrArg Pass.toRun (passes_of_ended passed (fun same => by cases same))
  obtain ⟨converted, details, unterminated⟩ :=
    report_foldl_noteSkipped (positions Alert.isCall 0 buffer) .empty
  rw [ended]
  exact ⟨_, rfl, rfl, converted, details, unterminated⟩

/-! ### The buffer after a run -/

def Section.Narrow : Section → Prop
  | .plain _ | .inline _ => True
  | .block line _ _ | .unclosed line => (Alert.indentation line).length < Block.widthLimit

theorem narrow_of_going {policy : Policy} {emitted rest : List Text} {ledger : Ledger} {line : Text}
    (settled : Settled emitted ledger) (kind : Alert.classify line = .block)
    (going : ∀ error, (passes policy (emitted ++ line :: rest) ledger).verdict ≠ .failed error) :
    (Alert.indentation line).length < Block.widthLimit := by
  by_cases narrow : (Alert.indentation line).length < Block.widthLimit
  · exact narrow
  · rw [passes_tooWide settled kind narrow] at going
    exact absurd rfl (going .indentTooWide)

private theorem narrow_sections_of_going {policy : Policy} {emitted todo : List Text} {ledger : Ledger}
    (settled : Settled emitted ledger)
    (going : ∀ error, (passes policy (emitted ++ todo) ledger).verdict ≠ .failed error) :
    ∀ part ∈ sections todo, part.Narrow := by
  fun_induction sweepFrom policy emitted ledger todo with
  | case1 emitted ledger =>
      rw [sections]
      exact fun _ member => (List.not_mem_nil member).elim
  | case2 emitted ledger line rest kind ih =>
      rw [sections_plain kind]
      have later := ih (settled.push (Alert.classify_eq_other_iff.mp kind) rfl)
        (by rwa [List.append_assoc, List.singleton_append])
      exact List.forall_mem_cons.mpr ⟨trivial, later⟩
  | case3 emitted ledger line rest kind ih =>
      rw [passes_inline settled kind] at going
      rw [sections_inline kind]
      have later := ih (settled.push (isCall_replaceCall ..) rfl) going
      exact List.forall_mem_cons.mpr ⟨trivial, later⟩
  | case4 emitted ledger line rest kind body closer after cut shorter ih =>
      have narrow := narrow_of_going settled kind going
      rw [passes_block settled kind narrow cut] at going
      rw [sections_block kind cut]
      have later := ih (settled.push (isCall_replaceCall ..) rfl) going
      exact List.forall_mem_cons.mpr ⟨narrow, later⟩
  | case5 emitted ledger line rest kind missing chosen ih =>
      subst chosen
      have narrow := narrow_of_going settled kind going
      rw [passes_skip settled kind narrow missing] at going
      rw [sections_unclosed kind missing]
      have later := ih (settled.pushSkipped line) going
      exact List.forall_mem_cons.mpr ⟨narrow, later⟩
  | case6 emitted ledger line rest kind missing chosen ih =>
      subst chosen
      have narrow := narrow_of_going settled kind going
      rw [passes_collapse settled kind narrow missing] at going
      rw [sections_unclosed kind missing]
      have later := ih (settled.push (isCall_replaceCall ..) rfl) going
      exact List.forall_mem_cons.mpr ⟨narrow, later⟩
  | case7 emitted ledger line rest kind missing chosen =>
      subst chosen
      have narrow := narrow_of_going settled kind going
      rw [passes_error settled kind narrow missing] at going
      exact absurd rfl (going _)

theorem narrow_sections_of_ok {policy : Policy} {buffer : List Text} {report : Report}
    (finished : (run policy buffer).result = .ok report) : ∀ part ∈ sections buffer, part.Narrow := by
  have going : ∀ error, (passes policy ([] ++ buffer) .empty).verdict ≠ .failed error := by
    intro error failed
    have stopped : (run policy buffer).result = .error error := result_toRun_of_failed failed
    rw [stopped] at finished
    cases finished
  exact narrow_sections_of_going Settled.empty going

/-- What is emitted for a buffer is at rest: no replacement is a call, and a call that is left alone finds
no closing line among what is emitted after it. -/
theorem resting_map_emit {policy : Policy} {buffer : List Text}
    (going : ∀ part ∈ sections buffer, part.stops policy = false)
    (narrow : ∀ part ∈ sections buffer, part.Narrow) :
    Resting policy ((sections buffer).map (Section.emit policy)) := by
  fun_induction sections buffer with
  | case1 => exact trivial
  | case2 line rest kind ih =>
      have resting := ih (List.forall_mem_cons.mp going).2 (List.forall_mem_cons.mp narrow).2
      exact (resting_cons_of_inert (Alert.classify_eq_other_iff.mp kind)).mpr resting
  | case3 line rest kind ih =>
      have resting := ih (List.forall_mem_cons.mp going).2 (List.forall_mem_cons.mp narrow).2
      exact (resting_cons_of_inert (isCall_replaceCall ..)).mpr resting
  | case4 line rest kind body closer after cut shorter ih =>
      have resting := ih (List.forall_mem_cons.mp going).2 (List.forall_mem_cons.mp narrow).2
      exact (resting_cons_of_inert (isCall_replaceCall ..)).mpr resting
  | case5 line rest kind missing ih =>
      obtain ⟨here, goingLater⟩ := List.forall_mem_cons.mp going
      obtain ⟨below, narrowLater⟩ := List.forall_mem_cons.mp narrow
      have resting := ih goingLater narrowLater
      cases policy with
      | collapse => exact (resting_cons_of_inert (isCall_replaceCall ..)).mpr resting
      | error => cases here
      | skip =>
          have unclosed := closes_map_emit .skip (cutAtCloser?_eq_none missing)
          exact resting_cons.mpr ⟨fun _ => ⟨rfl, kind, below, unclosed⟩, resting⟩

theorem resting_run {policy : Policy} {buffer : List Text} {report : Report}
    (finished : (run policy buffer).result = .ok report) : Resting policy (run policy buffer).buffer := by
  obtain ⟨going, emitted, _⟩ := run_eq_of_ok finished
  rw [emitted]
  exact resting_map_emit going (narrow_sections_of_ok finished)

theorem map_emit_eq_of_replacedCalls {policy : Policy} {parts : List Section}
    (none : parts.flatMap (Section.replacedCalls policy) = []) :
    parts.map (Section.emit policy) = parts.flatMap Section.lines := by
  induction parts with
  | nil => rfl
  | cons part rest ih =>
      obtain ⟨noneHere, noneLater⟩ := List.append_eq_nil_iff.mp none
      rw [List.map_cons, List.flatMap_cons, ih noneLater, lines_eq_of_replacedCalls noneHere,
        List.singleton_append]

theorem resting_of_converted_eq_zero {policy : Policy} {buffer : List Text} {report : Report}
    (finished : (run policy buffer).result = .ok report) (none : report.converted = 0) :
    Resting policy buffer := by
  obtain ⟨_, emitted, reported⟩ := run_eq_of_ok finished
  have counted : (enterAll policy 0 .empty (sections buffer)).report.converted = 0 + _ :=
    converted_enterAll policy 0 .empty (sections buffer)
  rw [← reported, none, Nat.zero_add] at counted
  have unchanged := map_emit_eq_of_replacedCalls (List.eq_nil_of_length_eq_zero counted.symm)
  have resting := resting_run finished
  rwa [emitted, unchanged, flatMap_lines_sections] at resting

/-! ### The calls that remain -/

private theorem isCall_emit_skip {part : Section} (valid : part.Valid) :
    Alert.isCall (part.emit .skip) = part.isUnclosed := by
  cases part with
  | plain line => exact Alert.classify_eq_other_iff.mp valid
  | inline line => exact isCall_replaceCall ..
  | block line body closer => exact isCall_replaceCall ..
  | unclosed line => exact Alert.isCall_of_block valid

theorem unterminated_eq_positions {buffer : List Text} {report : Report}
    (finished : (run .skip buffer).result = .ok report) :
    report.unterminated = positions Alert.isCall 0 (run .skip buffer).buffer := by
  obtain ⟨going, emitted, rfl⟩ := run_eq_of_ok finished
  rw [emitted, positions_map_congr (fun part member => isCall_emit_skip (valid_sections buffer part member)),
    unterminated_enterAll going]
  rfl

private theorem isCall_eq_false_of_resting {policy : Policy} {buffer : List Text}
    (resting : Resting policy buffer)
    (strict : policy ≠ .skip) : ∀ line ∈ buffer, Alert.isCall line = false := by
  intro line member
  apply Bool.eq_false_iff.mpr
  intro call
  obtain ⟨index, present⟩ := List.mem_iff_getElem?.mp member
  exact strict (resting.getElem? present call).1

theorem mem_positions_isCall {buffer : List Text} {index : Nat} :
    index ∈ positions Alert.isCall 0 buffer ↔
      ∃ line, buffer[index]? = some line ∧ Alert.isCall line = true := by
  rw [mem_positions]
  constructor
  · rintro ⟨found, line, present, call, rfl⟩
    rw [Nat.zero_add]
    exact ⟨line, present, call⟩
  · rintro ⟨line, present, call⟩
    exact ⟨index, line, present, call, (Nat.zero_add index).symm⟩

private theorem findEnd_of_resting {policy : Policy} {buffer : List Text} {index : Nat} {line : Text}
    (resting : Resting policy buffer) (present : buffer[index]? = some line)
    (call : Alert.isCall line = true) :
    Alert.classify line = .block ∧
      Block.findEnd buffer index (Alert.indentation line).length = .ok none := by
  obtain ⟨_, leftOpen⟩ := resting.getElem? present call
  exact ⟨leftOpen.kind, Block.findEnd_eq_none leftOpen.narrow leftOpen.unclosed⟩

/-! ### Finished runs -/

theorem exists_report_sampleBuffer {policy : Policy} (lenient : policy ≠ .error) :
    ∃ report, (run policy sampleBuffer).result = .ok report := by
  have short : ∀ line ∈ sampleBuffer, line.length < Block.widthLimit := by decide +kernel
  rw [run_eq_of_going short (fun part _ => stops_eq_false_of_lenient lenient part)]
  exact ⟨_, rfl⟩

/-- The calls in the buffer that a finished run leaves are the ones that it reports as unterminated: under
the skipping policy in the order of the buffer, each with a tap block that is still closed nowhere, and
under the others there are none. -/
theorem remaining_calls_unterminated {policy : Policy} {buffer : List Text} {report : Report}
    (finished : (run policy buffer).result = .ok report) :
    (policy = .skip →
      report.unterminated.Pairwise (· < ·) ∧
      (∀ index, index ∈ report.unterminated ↔
        ∃ line, (run policy buffer).buffer[index]? = some line ∧ Alert.classify line ≠ .other) ∧
      ∀ index ∈ report.unterminated, ∃ line, (run policy buffer).buffer[index]? = some line ∧
        Alert.classify line = .block ∧
        Block.findEnd (run policy buffer).buffer index (Alert.indentation line).length = .ok none) ∧
    (policy ≠ .skip → ∀ line ∈ (run policy buffer).buffer, Alert.classify line = .other) := by
  have resting := resting_run finished
  constructor
  · rintro rfl
    have reported := unterminated_eq_positions finished
    rw [reported]
    refine ⟨pairwise_positions _ _ _, ?_, ?_⟩
    · intro index
      simp only [mem_positions_isCall, Alert.classify_ne_other_iff]
    · intro index member
      obtain ⟨line, present, call⟩ := mem_positions_isCall.mp member
      exact ⟨line, present, findEnd_of_resting resting present call⟩
  · intro strict line member
    exact Alert.classify_eq_other_iff.mpr (isCall_eq_false_of_resting resting strict line member)

theorem remaining_calls_unterminated_sample :
    (∃ report, (run .skip sampleBuffer).result = .ok report ∧
      report.unterminated.Pairwise (· < ·) ∧
      (∀ index, index ∈ report.unterminated ↔
        ∃ line, (run .skip sampleBuffer).buffer[index]? = some line ∧ Alert.classify line ≠ .other) ∧
      ∀ index ∈ report.unterminated, ∃ line, (run .skip sampleBuffer).buffer[index]? = some line ∧
        Alert.classify line = .block ∧
        Block.findEnd (run .skip sampleBuffer).buffer index (Alert.indentation line).length = .ok none) ∧
    ∃ report, (run .collapse sampleBuffer).result = .ok report ∧
      ∀ line ∈ (run .collapse sampleBuffer).buffer, Alert.classify line = .other := by
  obtain ⟨kept, skipping⟩ := exists_report_sampleBuffer (show Policy.skip ≠ .error by decide)
  obtain ⟨collapsed, collapsing⟩ := exists_report_sampleBuffer (show Policy.collapse ≠ .error by decide)
  exact ⟨⟨kept, skipping, (remaining_calls_unterminated skipping).1 rfl⟩,
    collapsed, collapsing, (remaining_calls_unterminated collapsing).2 (by decide)⟩

/-- Under the policy of a finished run, a second run leaves its buffer as it is and replaces nothing. -/
theorem run_again {policy : Policy} {buffer : List Text} {report : Report}
    (finished : (run policy buffer).result = .ok report) :
    ∃ again, (run policy (run policy buffer).buffer).result = .ok again ∧
      (run policy (run policy buffer).buffer).buffer = (run policy buffer).buffer ∧
      again.converted = 0 ∧ again.details = [] ∧
      again.unterminated = if policy = .skip then report.unterminated else [] := by
  have resting := resting_run finished
  obtain ⟨again, done, unchanged, converted, details, unterminated⟩ := run_of_resting resting
  refine ⟨again, done, unchanged, converted, details, ?_⟩
  rw [unterminated]
  split
  · rename_i skipping
    subst skipping
    exact (unterminated_eq_positions finished).symm
  · rename_i strict
    exact positions_eq_nil_iff.mpr (isCall_eq_false_of_resting resting strict)

theorem run_again_sample :
    ∃ report, (run .skip sampleBuffer).result = .ok report ∧
      ∃ again, (run .skip (run .skip sampleBuffer).buffer).result = .ok again ∧
        (run .skip (run .skip sampleBuffer).buffer).buffer = (run .skip sampleBuffer).buffer ∧
        again.converted = 0 ∧ again.details = [] ∧ again.unterminated = report.unterminated := by
  obtain ⟨report, finished⟩ := exists_report_sampleBuffer (show Policy.skip ≠ .error by decide)
  exact ⟨report, finished, run_again finished⟩

end Edit

end AlertMigration
