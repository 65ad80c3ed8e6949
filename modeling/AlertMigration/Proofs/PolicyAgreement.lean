import AlertMigration.Proofs.ReportedLines

/-!
The policies make the same decisions.

The sections of a buffer do not depend on the policy. So skipping and collapsing runs go through the same
sections and enter the same events, up to the unclosed calls, which only the one replaces; and a run that
stops at unclosed calls stops at the first of those that the other two report.
-/

namespace AlertMigration.Edit

/-! ### Skipping and collapsing -/

/-- Reports of the same decisions, of which the second counts the unterminated calls as replaced. -/
structure SameDecisions (kept collapsed : Report) : Prop where
  unterminated : collapsed.unterminated = kept.unterminated
  details : collapsed.details = kept.details
  inlineConverted : collapsed.inlineConverted = kept.inlineConverted
  converted : collapsed.converted = kept.converted + kept.unterminated.length
  blockConverted : collapsed.blockConverted = kept.blockConverted + kept.unterminated.length

theorem SameDecisions.empty : SameDecisions .empty .empty :=
  ⟨rfl, rfl, rfl, rfl, rfl⟩

theorem SameDecisions.enter {kept collapsed : Ledger} (same : SameDecisions kept.report collapsed.report)
    (index : Nat) (part : Section) :
    SameDecisions (part.enter .skip index kept).report (part.enter .collapse index collapsed).report := by
  obtain ⟨unterminated, details, inlineConverted, converted, blockConverted⟩ := same
  cases part with
  | plain line => exact ⟨unterminated, details, inlineConverted, converted, blockConverted⟩
  | inline line =>
      refine ⟨unterminated, congrArg (· ++ _) details, congrArg (· + 1) inlineConverted, ?_, blockConverted⟩
      change collapsed.report.converted + 1 = kept.report.converted + 1 + kept.report.unterminated.length
      omega
  | block line body closer =>
      refine ⟨unterminated, congrArg (· ++ _) details, inlineConverted, ?_, ?_⟩
      · change collapsed.report.converted + 1 = kept.report.converted + 1 + kept.report.unterminated.length
        omega
      · change collapsed.report.blockConverted + 1 =
          kept.report.blockConverted + 1 + kept.report.unterminated.length
        omega
  | unclosed line =>
      have oneMore : (kept.report.unterminated ++ [index]).length = kept.report.unterminated.length + 1 :=
        List.length_append
      refine ⟨congrArg (· ++ _) unterminated, details, inlineConverted, ?_, ?_⟩
      · change collapsed.report.converted + 1 =
          kept.report.converted + (kept.report.unterminated ++ [index]).length
        omega
      · change collapsed.report.blockConverted + 1 =
          kept.report.blockConverted + (kept.report.unterminated ++ [index]).length
        omega

theorem SameDecisions.enterAll {kept collapsed : Ledger}
    (same : SameDecisions kept.report collapsed.report) (index : Nat) (parts : List Section) :
    SameDecisions (enterAll .skip index kept parts).report
      (enterAll .collapse index collapsed parts).report := by
  induction parts generalizing index kept collapsed with
  | nil => exact same
  | cons part rest ih => exact ih (same.enter index part) (index + 1)

theorem emit_eq_of_closed {part : Section} (closed : part.isUnclosed = false) (policy other : Policy) :
    part.emit policy = part.emit other := by
  cases part with
  | plain line | inline line | block line body closer => rfl
  | unclosed line => cases closed

private theorem enter_eq_of_closed {part : Section} (closed : part.isUnclosed = false) (policy other : Policy)
    (index : Nat) (ledger : Ledger) : part.enter policy index ledger = part.enter other index ledger := by
  cases part with
  | plain line | inline line | block line body closer => rfl
  | unclosed line => cases closed

private theorem getElem?_map_emit {parts : List Section} {index : Nat}
    (closed : index ∉ positions Section.isUnclosed 0 parts) (policy other : Policy) :
    (parts.map (Section.emit policy))[index]? = (parts.map (Section.emit other))[index]? := by
  rw [List.getElem?_map, List.getElem?_map]
  cases found : parts[index]? with
  | none => rfl
  | some part =>
      by_cases unclosed : part.isUnclosed = true
      · exact absurd (mem_positions.mpr ⟨index, part, found, unclosed, (Nat.zero_add index).symm⟩) closed
      · rw [Option.map_some, Option.map_some, emit_eq_of_closed (Bool.eq_false_iff.mpr unclosed) policy other]

/-! ### Stopping -/

theorem sweepSections_eq_of_closed {parts : List Section} (closed : ∀ part ∈ parts, part.isUnclosed = false)
    (policy other : Policy) (emitted : List Text) (ledger : Ledger) :
    sweepSections policy emitted ledger parts = sweepSections other emitted ledger parts := by
  induction parts generalizing emitted ledger with
  | nil => rfl
  | cons part rest ih =>
      obtain ⟨here, later⟩ := List.forall_mem_cons.mp closed
      rw [sweepSections_of_not_stops (stops_eq_false_of_closed here),
        sweepSections_of_not_stops (stops_eq_false_of_closed here), emit_eq_of_closed here policy other,
        enter_eq_of_closed here policy other, ih later]

theorem result_error_cases {buffer : List Text} (short : ∀ line ∈ buffer, line.length < Block.widthLimit) :
    (positions Section.isUnclosed 0 (sections buffer) = [] ∧
      ∃ report, (run .error buffer).result = .ok report) ∨
    ∃ first later, positions Section.isUnclosed 0 (sections buffer) = first :: later ∧
      (run .error buffer).result = .error (.unterminatedBlock (first + 1)) := by
  rw [run_eq_sweepSections_of_short short]
  rcases sweepSections_cases .error [] .empty (sections buffer) with
    ⟨going, ended⟩ | ⟨before, stopper, after, divided, stops, going, ended⟩
  · left
    rw [ended]
    exact ⟨positions_eq_nil_iff.mpr going, _, rfl⟩
  · right
    have located := positions_append_cons going stops 0 after
    rw [Nat.zero_add] at located
    rw [ended, divided]
    refine ⟨before.length, _, located, ?_⟩
    change Except.error (Error.unterminatedBlock (0 + before.length + 1)) = _
    rw [Nat.zero_add]

/-! ### All three policies -/

theorem run_eq_of_going {policy : Policy} {buffer : List Text}
    (short : ∀ line ∈ buffer, line.length < Block.widthLimit)
    (going : ∀ part ∈ sections buffer, part.stops policy = false) :
    run policy buffer =
      Pass.toRun ⟨.settled, (sections buffer).map (Section.emit policy),
        enterAll policy 0 .empty (sections buffer)⟩ := by
  rw [run_eq_sweepSections_of_short short]
  rcases sweepSections_cases policy [] .empty (sections buffer) with
    ⟨_, ended⟩ | ⟨before, stopper, after, divided, stops, _, _⟩
  · rw [ended]
    rfl
  · have member : stopper ∈ sections buffer := by
      rw [divided]
      exact List.mem_append_right _ List.mem_cons_self
    rw [going stopper member] at stops
    cases stops

theorem stops_eq_false_of_lenient {policy : Policy} (lenient : policy ≠ .error) (part : Section) :
    part.stops policy = false := by
  rw [Section.stops, beq_false_of_ne lenient, Bool.false_and]

/-- Skipping and collapsing runs report the same decisions and differ only at the unterminated calls, which
collapsing replaces; a run that is to stop does so at the first of these; and where there are none, all
three runs are the same. -/
theorem policies_agree (buffer : List Text) (short : ∀ line ∈ buffer, line.length < Block.widthLimit) :
    ∃ kept collapsed : Report,
      (run .skip buffer).result = .ok kept ∧ (run .collapse buffer).result = .ok collapsed ∧
      SameDecisions kept collapsed ∧
      (run .collapse buffer).buffer.length = (run .skip buffer).buffer.length ∧
      (∀ index, index ∉ kept.unterminated →
        (run .collapse buffer).buffer[index]? = (run .skip buffer).buffer[index]?) ∧
      (∀ line, (run .error buffer).result = .error (.unterminatedBlock line) ↔
        ∃ first later, kept.unterminated = first :: later ∧ line = first + 1) ∧
      (kept.unterminated = [] →
        run .collapse buffer = run .skip buffer ∧ run .error buffer = run .skip buffer) := by
  have going : ∀ part ∈ sections buffer, part.stops .skip = false :=
    fun part _ => stops_eq_false_of_lenient (by decide) part
  have skipping := run_eq_of_going short going
  have collapsing : run .collapse buffer = _ :=
    run_eq_of_going short (fun part _ => stops_eq_false_of_lenient (by decide) part)
  have unterminated : (enterAll .skip 0 .empty (sections buffer)).report.unterminated =
      positions Section.isUnclosed 0 (sections buffer) := unterminated_enterAll going 0 .empty
  refine ⟨_, _, by rw [skipping]; rfl, by rw [collapsing]; rfl,
    SameDecisions.empty.enterAll 0 (sections buffer), ?_, ?_, ?_, ?_⟩
  · rw [skipping, collapsing]
    simp only [Pass.toRun, List.length_map]
  · intro index other
    rw [unterminated] at other
    rw [skipping, collapsing]
    exact getElem?_map_emit other .collapse .skip
  · intro line
    rw [unterminated]
    rcases result_error_cases short with ⟨none, report, finished⟩ | ⟨first, later, located, stopped⟩
    · simp [none, finished]
    · rw [located, stopped]
      constructor
      · intro same
        cases same
        exact ⟨first, later, rfl, rfl⟩
      · rintro ⟨_, _, same, rfl⟩
        cases same
        rfl
  · intro none
    rw [unterminated] at none
    have closed := positions_eq_nil_iff.mp none
    constructor
    · rw [run_eq_sweepSections_of_short short, run_eq_sweepSections_of_short short,
        sweepSections_eq_of_closed closed .collapse .skip]
    · rw [run_eq_sweepSections_of_short short, run_eq_sweepSections_of_short short,
        sweepSections_eq_of_closed closed .error .skip]

theorem policies_agree_sample :
    (∀ line ∈ sampleBuffer, line.length < Block.widthLimit) ∧
      ∃ kept collapsed : Report,
        (run .skip sampleBuffer).result = .ok kept ∧ (run .collapse sampleBuffer).result = .ok collapsed ∧
        SameDecisions kept collapsed ∧
        ∀ line, (run .error sampleBuffer).result = .error (.unterminatedBlock line) ↔
          ∃ first later, kept.unterminated = first :: later ∧ line = first + 1 := by
  have short : ∀ line ∈ sampleBuffer, line.length < Block.widthLimit := by decide +kernel
  obtain ⟨kept, collapsed, skipping, collapsing, same, _, _, stopping, _⟩ :=
    policies_agree sampleBuffer short
  exact ⟨short, kept, collapsed, skipping, collapsing, same, stopping⟩

end AlertMigration.Edit

namespace AlertMigration.Source

theorem exists_migrated_of_going {policy : Policy} {source : Text}
    (short : ∀ line ∈ source.splitLines, line.length < Block.widthLimit)
    (going : ∀ part ∈ Edit.sections source.splitLines, part.stops policy = false) :
    ∃ migrated outcome, (migrate policy source).result = .ok (migrated, outcome) := by
  have finished : (Edit.run policy source.splitLines).result = .ok _ :=
    congrArg Edit.Run.result (Edit.run_eq_of_going short going)
  exact ⟨_, _, result_migrate_of_ok finished⟩

end AlertMigration.Source
