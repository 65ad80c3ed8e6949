import AlertMigration.Proofs.Resting

/-!
Runs that stop.

However a run ends, it has edited the sections up to some point and left the lines from there on as they
were (`run_divided`). Main statement: a run that stops at an unclosed call has done up to that call what
a skipping run does, and a completion handler is told of the end of a run once.
-/

namespace AlertMigration.Edit

/-! ### How far a run gets -/

/-- The end of the passes over emitted lines and the lines to come: some of the sections to come have been
edited, and the rest are as they were. None are left if nothing has failed. -/
def Divides (policy : Policy) (emitted todo : List Text) (last : Pass) : Prop :=
  ∃ done left, sections todo = done ++ left ∧
    last.buffer = emitted ++ done.map (Section.emit policy) ++ left.flatMap Section.lines ∧
    ((∀ error, last.verdict ≠ .failed error) → left = [])

theorem Divides.cons {policy : Policy} {emitted todo rest : List Text} {last : Pass} {part : Section}
    (first : sections todo = part :: sections rest)
    (divides : Divides policy (emitted ++ [part.emit policy]) rest last) :
    Divides policy emitted todo last := by
  obtain ⟨done, left, divided, edited, complete⟩ := divides
  refine ⟨part :: done, left, by rw [first, divided]; rfl, ?_, complete⟩
  rw [edited, List.map_cons, List.append_assoc emitted, List.singleton_append]

theorem Divides.of_failed {policy : Policy} {emitted todo : List Text} {last : Pass} {error : Error}
    (failed : last.verdict = .failed error) (untouched : last.buffer = emitted ++ todo) :
    Divides policy emitted todo last := by
  refine ⟨[], sections todo, rfl, ?_, fun going => absurd failed (going error)⟩
  rw [untouched, flatMap_lines_sections, List.map_nil, List.append_nil]

theorem Divides.of_narrow {policy : Policy} {emitted rest : List Text} {ledger : Ledger} {line : Text}
    (settled : Settled emitted ledger) (kind : Alert.classify line = .block)
    (divides : (Alert.indentation line).length < Block.widthLimit →
      Divides policy emitted (line :: rest) (passes policy (emitted ++ line :: rest) ledger)) :
    Divides policy emitted (line :: rest) (passes policy (emitted ++ line :: rest) ledger) := by
  by_cases narrow : (Alert.indentation line).length < Block.widthLimit
  · exact divides narrow
  · rw [passes_tooWide settled kind narrow]
    exact Divides.of_failed rfl rfl

theorem divides_passes {emitted : List Text} {ledger : Ledger} (policy : Policy) (todo : List Text)
    (settled : Settled emitted ledger) :
    Divides policy emitted todo (passes policy (emitted ++ todo) ledger) := by
  fun_induction sweepFrom policy emitted ledger todo with
  | case1 emitted ledger =>
      have passed : pass policy (emitted ++ []) ledger = ⟨.settled, emitted, ledger⟩ := by
        rw [pass_settled settled]
        simp only [passFrom, Pass.afterAll, List.append_nil]
      rw [passes_of_ended passed (fun same => by cases same)]
      refine ⟨[], [], by rw [sections]; rfl, ?_, fun _ => rfl⟩
      simp only [List.map_nil, List.flatMap_nil, List.append_nil]
  | case2 emitted ledger line rest kind ih =>
      have later := ih (settled.push (Alert.classify_eq_other_iff.mp kind) rfl)
      rw [List.append_assoc, List.singleton_append] at later
      exact Divides.cons (sections_plain kind) later
  | case3 emitted ledger line rest kind ih =>
      rw [passes_inline settled kind]
      exact Divides.cons (sections_inline kind) (ih (settled.push (isCall_replaceCall ..) rfl))
  | case4 emitted ledger line rest kind body closer after cut shorter ih =>
      apply Divides.of_narrow settled kind
      intro narrow
      rw [passes_block settled kind narrow cut]
      exact Divides.cons (sections_block kind cut) (ih (settled.push (isCall_replaceCall ..) rfl))
  | case5 emitted ledger line rest kind missing chosen ih =>
      subst chosen
      apply Divides.of_narrow settled kind
      intro narrow
      rw [passes_skip settled kind narrow missing]
      exact Divides.cons (sections_unclosed kind missing) (ih (settled.pushSkipped line))
  | case6 emitted ledger line rest kind missing chosen ih =>
      subst chosen
      apply Divides.of_narrow settled kind
      intro narrow
      rw [passes_collapse settled kind narrow missing]
      exact Divides.cons (sections_unclosed kind missing) (ih (settled.push (isCall_replaceCall ..) rfl))
  | case7 emitted ledger line rest kind missing chosen =>
      subst chosen
      apply Divides.of_narrow settled kind
      intro narrow
      rw [passes_error settled kind narrow missing]
      exact Divides.of_failed rfl rfl

theorem run_divided (policy : Policy) (buffer : List Text) :
    ∃ done left, sections buffer = done ++ left ∧
      (run policy buffer).buffer = done.map (Section.emit policy) ++ left.flatMap Section.lines ∧
      ∀ report, (run policy buffer).result = .ok report → left = [] := by
  obtain ⟨done, left, divided, edited, complete⟩ := divides_passes policy buffer Settled.empty
  refine ⟨done, left, divided, edited, ?_⟩
  intro report finished
  apply complete
  intro error failed
  have stopped : (run policy buffer).result = .error error := result_toRun_of_failed failed
  rw [stopped] at finished
  cases finished

/-! ### Stopping at an unclosed call -/

private theorem closes_after_unclosed {buffer : List Text} {before after : List Section} {line : Text}
    (divided : sections buffer = before ++ .unclosed line :: after) :
    ∀ later ∈ after.flatMap Section.lines,
      Block.closes (Alert.indentation line).length later = false := by
  fun_induction sections buffer generalizing before with
  | case1 => simp at divided
  | case2 first rest kind ih =>
      rcases List.cons_eq_append_iff.mp divided with ⟨_, same⟩ | ⟨inner, _, later⟩
      · cases same
      · exact ih later
  | case3 first rest kind ih =>
      rcases List.cons_eq_append_iff.mp divided with ⟨_, same⟩ | ⟨inner, _, later⟩
      · cases same
      · exact ih later
  | case4 first rest kind body closer beyond cut shorter ih =>
      rcases List.cons_eq_append_iff.mp divided with ⟨_, same⟩ | ⟨inner, _, later⟩
      · cases same
      · exact ih later
  | case5 first rest kind missing ih =>
      rcases List.cons_eq_append_iff.mp divided with ⟨_, same⟩ | ⟨inner, _, later⟩
      · cases same
        rw [flatMap_lines_sections]
        exact cutAtCloser?_eq_none missing
      · exact ih later

private theorem map_emit_eq_of_going {policy : Policy} {parts : List Section}
    (strict : policy = .error) (going : ∀ part ∈ parts, part.stops policy = false) :
    parts.map (Section.emit policy) = parts.map (Section.emit .skip) := by
  subst strict
  apply List.map_congr_left
  intro part member
  exact emit_eq_of_closed (going part member) .error .skip

/-- A run that stops at an unclosed call leaves the lines that a skipping run leaves before that call, and
from the call on the lines that it was given. -/
theorem buffer_of_unterminated {policy : Policy} {buffer : List Text} {number : Nat}
    (short : ∀ line ∈ buffer, line.length < Block.widthLimit)
    (stopped : (run policy buffer).result = .error (.unterminatedBlock number)) :
    ∃ index front opener rest, number = index + 1 ∧ buffer = front ++ opener :: rest ∧
      LeftOpen opener rest ∧ index < (run .skip buffer).buffer.length ∧
      (run policy buffer).buffer = (run .skip buffer).buffer.take index ++ opener :: rest := by
  obtain ⟨before, stopper, after, divided, stops, going, numbered, left⟩ := run_eq_of_unterminated stopped
  obtain ⟨strict, unclosed⟩ := Bool.and_eq_true_iff.mp stops
  obtain ⟨opener, rfl⟩ := exists_of_isUnclosed unclosed
  have whole : buffer = before.flatMap Section.lines ++ opener :: after.flatMap Section.lines := by
    rw [← flatMap_lines_sections buffer, divided, List.flatMap_append, List.flatMap_cons]
    rfl
  have member : opener ∈ buffer := by
    rw [whole]
    exact List.mem_append_right _ List.mem_cons_self
  have valid : (Section.unclosed opener).Valid := by
    apply valid_sections buffer
    rw [divided]
    exact List.mem_append_right _ List.mem_cons_self
  have narrow : (Alert.indentation opener).length < Block.widthLimit :=
    Nat.lt_of_le_of_lt (Alert.length_indentation_le opener) (short opener member)
  have skipped : (run .skip buffer).buffer =
      before.map (Section.emit .skip) ++ (.unclosed opener :: after).map (Section.emit .skip) := by
    rw [run_eq_of_going short (fun part _ => stops_eq_false_of_lenient (by decide) part), divided,
      ← List.map_append]
    rfl
  refine ⟨before.length, before.flatMap Section.lines, opener, after.flatMap Section.lines, numbered, whole,
    ⟨valid, narrow, closes_after_unclosed divided⟩, ?_, ?_⟩
  · rw [skipped, List.length_append, List.length_map, List.map_cons, List.length_cons]
    omega
  · rw [left, skipped, map_emit_eq_of_going (eq_of_beq strict) going, List.take_left' (List.length_map _)]
    rfl

/-! ### The completion handler -/

private theorem perform_of_ok {policy : Policy} {buffer : List Text} {report : Report}
    (finished : (run policy buffer).result = .ok report) :
    perform policy buffer =
      ⟨[none], .ok (some report), (run policy buffer).buffer, (run policy buffer).log⟩ := by
  simp only [perform, finished]

private theorem perform_of_unterminated {policy : Policy} {buffer : List Text} {number : Nat}
    (stopped : (run policy buffer).result = .error (.unterminatedBlock number)) :
    perform policy buffer =
      ⟨[some (.unterminatedBlock number)], .ok none, (run policy buffer).buffer, (run policy buffer).log⟩ := by
  simp only [perform, stopped]

theorem buffer_perform (policy : Policy) (buffer : List Text) :
    (perform policy buffer).buffer = (run policy buffer).buffer := by
  unfold perform
  simp only
  split <;> rfl

theorem result_cases_of_short {buffer : List Text} (short : ∀ line ∈ buffer, line.length < Block.widthLimit)
    (policy : Policy) :
    (∃ report, (run policy buffer).result = .ok report) ∨
      ∃ number, (run policy buffer).result = .error (.unterminatedBlock number) := by
  rw [run_eq_sweepSections_of_short short]
  rcases sweepSections_cases policy [] .empty (sections buffer) with ⟨_, ended⟩ | ⟨_, _, _, _, _, _, ended⟩
  · rw [ended]
    exact Or.inl ⟨_, rfl⟩
  · rw [ended]
    exact Or.inr ⟨_, rfl⟩

/-- A run that stops at an unclosed call leaves a clean buffer: before the call what a skipping run leaves
there, and from the call on the given lines. A completion handler is told of the end of a run once, by the
error if there is one, and the buffer is the one that the run leaves. -/
theorem stopped_run_clean (policy : Policy) (buffer : List Text) :
    (∀ number, (∀ line ∈ buffer, line.length < Block.widthLimit) →
      (run policy buffer).result = .error (.unterminatedBlock number) →
      ∃ kept index front opener rest, (run .skip buffer).result = .ok kept ∧ number = index + 1 ∧
        buffer = front ++ opener :: rest ∧ LeftOpen opener rest ∧
        index < (run .skip buffer).buffer.length ∧
        (run policy buffer).buffer = (run .skip buffer).buffer.take index ++ opener :: rest) ∧
    (perform policy buffer).buffer = (run policy buffer).buffer ∧
    (∀ report, (run policy buffer).result = .ok report →
      (perform policy buffer).notices = [none] ∧
      (perform policy buffer).returned = .ok (some report)) ∧
    (∀ number, (run policy buffer).result = .error (.unterminatedBlock number) →
      (perform policy buffer).notices = [some (.unterminatedBlock number)] ∧
      (perform policy buffer).returned = .ok none) ∧
    ((∀ line ∈ buffer, line.length < Block.widthLimit) →
      ∃ notice, (perform policy buffer).notices = [notice]) := by
  refine ⟨?_, buffer_perform policy buffer, ?_, ?_, ?_⟩
  · intro number short stopped
    obtain ⟨index, front, opener, rest, clean⟩ := buffer_of_unterminated short stopped
    have skipping : run .skip buffer = _ :=
      run_eq_of_going short (fun part _ => stops_eq_false_of_lenient (by decide) part)
    exact ⟨_, index, front, opener, rest, by rw [skipping]; rfl, clean⟩
  · intro report finished
    rw [perform_of_ok finished]
    exact ⟨rfl, rfl⟩
  · intro number stopped
    rw [perform_of_unterminated stopped]
    exact ⟨rfl, rfl⟩
  · intro short
    rcases result_cases_of_short short policy with ⟨report, finished⟩ | ⟨number, stopped⟩
    · rw [perform_of_ok finished]
      exact ⟨none, rfl⟩
    · rw [perform_of_unterminated stopped]
      exact ⟨some _, rfl⟩

theorem stopped_run_clean_sample :
    (∀ line ∈ sampleBuffer, line.length < Block.widthLimit) ∧
      (run .error sampleBuffer).result = .error (.unterminatedBlock 2) ∧
      (∃ kept index front opener rest, (run .skip sampleBuffer).result = .ok kept ∧ 2 = index + 1 ∧
        sampleBuffer = front ++ opener :: rest ∧ LeftOpen opener rest ∧
        index < (run .skip sampleBuffer).buffer.length ∧
        (run .error sampleBuffer).buffer =
          (run .skip sampleBuffer).buffer.take index ++ opener :: rest) ∧
      (perform .error sampleBuffer).notices = [some (.unterminatedBlock 2)] ∧
      (perform .error sampleBuffer).returned = .ok none ∧
      (∃ report, (run .skip sampleBuffer).result = .ok report ∧
        (perform .skip sampleBuffer).notices = [none] ∧
        (perform .skip sampleBuffer).returned = .ok (some report)) := by
  have short : ∀ line ∈ sampleBuffer, line.length < Block.widthLimit := by decide +kernel
  have located : positions Section.isUnclosed 0 (sections sampleBuffer) = [1] := by decide +kernel
  have stopped : (run .error sampleBuffer).result = .error (.unterminatedBlock 2) := by
    rcases result_error_cases short with ⟨none, _⟩ | ⟨first, later, found, stopped⟩
    · rw [located] at none
      cases none
    · rw [located] at found
      cases found
      exact stopped
  obtain ⟨report, finished⟩ := exists_report_sampleBuffer (show Policy.skip ≠ .error by decide)
  obtain ⟨clean, _, _, told, _⟩ := stopped_run_clean .error sampleBuffer
  obtain ⟨notices, returned⟩ := told 2 stopped
  exact ⟨short, stopped, clean 2 short stopped, notices, returned, report, finished,
    (stopped_run_clean .skip sampleBuffer).2.2.1 report finished⟩

end AlertMigration.Edit
