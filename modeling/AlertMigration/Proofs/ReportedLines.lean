import AlertMigration.Proofs.CallAccounting

/-!
What the reported line numbers point at.

An unclosed call is reported by its position in the buffer, where each tap block replaced before it takes
up a single line. So the number lags behind the line of the call by the lines that have been absorbed.
Main statement: the number is that of the call itself exactly when no tap block was replaced before it,
and that of some legacy call exactly then or if it falls on one by coincidence.
-/

namespace AlertMigration

/-! ### Positions -/

theorem mem_positions {α : Type} {holds : α → Bool} {start number : Nat} {items : List α} :
    number ∈ positions holds start items ↔
      ∃ index item, items[index]? = some item ∧ holds item = true ∧ number = start + index := by
  unfold positions
  rw [List.mem_filterMap]
  constructor
  · rintro ⟨⟨item, position⟩, member, kept⟩
    obtain ⟨above, found⟩ := List.mk_mem_zipIdx_iff_le_and_getElem?_sub.mp member
    cases held : holds item with
    | false =>
        simp only [held] at kept
        cases kept
    | true =>
        simp only [held, if_true, Option.some_inj] at kept
        exact ⟨position - start, item, found, held, by omega⟩
  · rintro ⟨index, item, found, held, rfl⟩
    refine ⟨(item, start + index), List.mk_add_mem_zipIdx_iff_getElem?.mpr found, ?_⟩
    simp only [held, if_true]

theorem positions_cons_of_pos {α : Type} {holds : α → Bool} {item : α} (held : holds item = true)
    (start : Nat) (rest : List α) :
    positions holds start (item :: rest) = start :: positions holds (start + 1) rest := by
  simp [positions, held]

theorem positions_cons_of_neg {α : Type} {holds : α → Bool} {item : α} (other : holds item = false)
    (start : Nat) (rest : List α) :
    positions holds start (item :: rest) = positions holds (start + 1) rest := by
  simp [positions, other]

theorem positions_map_congr {α β : Type} {holds : β → Bool} {other : α → Bool} {f : α → β} {items : List α}
    (same : ∀ item ∈ items, holds (f item) = other item) (start : Nat) :
    positions holds start (items.map f) = positions other start items := by
  induction items generalizing start with
  | nil => rfl
  | cons item rest ih =>
      obtain ⟨here, later⟩ := List.forall_mem_cons.mp same
      rw [List.map_cons]
      by_cases held : other item = true
      · rw [positions_cons_of_pos held, positions_cons_of_pos (here.trans held), ih later]
      · have missed : other item = false := Bool.eq_false_iff.mpr held
        rw [positions_cons_of_neg missed, positions_cons_of_neg (here.trans missed), ih later]

theorem positions_eq_nil_iff {α : Type} {holds : α → Bool} {start : Nat} {items : List α} :
    positions holds start items = [] ↔ ∀ item ∈ items, holds item = false := by
  induction items generalizing start with
  | nil => simp [positions]
  | cons item rest ih =>
      rw [List.forall_mem_cons]
      by_cases held : holds item = true
      · rw [positions_cons_of_pos held, held]
        simp
      · have missed : holds item = false := Bool.eq_false_iff.mpr held
        rw [positions_cons_of_neg missed, ih, and_iff_right missed]

theorem positions_append_cons {α : Type} {holds : α → Bool} {before : List α} {item : α}
    (missed : ∀ earlier ∈ before, holds earlier = false) (held : holds item = true) (start : Nat)
    (after : List α) :
    positions holds start (before ++ item :: after) =
      (start + before.length) :: positions holds (start + before.length + 1) after := by
  induction before generalizing start with
  | nil => exact positions_cons_of_pos held start after
  | cons earlier before ih =>
      obtain ⟨here, later⟩ := List.forall_mem_cons.mp missed
      have shifted : start + 1 + before.length = start + (earlier :: before).length := by
        rw [List.length_cons]
        omega
      rw [List.cons_append, positions_cons_of_neg here, ih later, shifted]

theorem pairwise_positions {α : Type} (holds : α → Bool) (start : Nat) (items : List α) :
    (positions holds start items).Pairwise (· < ·) := by
  induction items generalizing start with
  | nil => exact List.Pairwise.nil
  | cons item rest ih =>
      by_cases held : holds item = true
      · rw [positions_cons_of_pos held]
        refine List.pairwise_cons.mpr ⟨?_, ih (start + 1)⟩
        intro position member
        obtain ⟨index, _, _, _, rfl⟩ := mem_positions.mp member
        omega
      · rw [positions_cons_of_neg (Bool.eq_false_iff.mpr held)]
        exact ih (start + 1)

namespace Edit

/-! ### Lines absorbed by replaced blocks -/

def Section.isBlock : Section → Bool
  | .block _ _ _ => true
  | _ => false

/-- The number of lines by which sections shrink when they are emitted. -/
def absorbed : List Section → Nat
  | [] => 0
  | .block _ body _ :: rest => body.length + 1 + absorbed rest
  | _ :: rest => absorbed rest

theorem length_flatMap_lines (parts : List Section) :
    (parts.flatMap Section.lines).length = parts.length + absorbed parts := by
  induction parts with
  | nil => rfl
  | cons part rest ih =>
      rw [List.flatMap_cons, List.length_append, ih, List.length_cons]
      cases part with
      | plain line | inline line | unclosed line =>
          simp only [Section.lines, absorbed, List.length_singleton]
          omega
      | block line body closer =>
          simp only [Section.lines, absorbed, List.length_cons, List.length_append, List.length_nil]
          omega

theorem absorbed_eq_zero_iff {parts : List Section} :
    absorbed parts = 0 ↔ ∀ part ∈ parts, part.isBlock = false := by
  induction parts with
  | nil => simp [absorbed]
  | cons part rest ih =>
      rw [List.forall_mem_cons, ← ih]
      cases part with
      | plain line | inline line | unclosed line => simp [absorbed, Section.isBlock]
      | block line body closer =>
          simp only [absorbed, Section.isBlock, Bool.true_eq_false, false_and, iff_false]
          omega

/-! ### Unclosed calls in the report -/

theorem unterminated_enterAll {policy : Policy} {parts : List Section}
    (going : ∀ part ∈ parts, part.stops policy = false) (index : Nat) (ledger : Ledger) :
    (enterAll policy index ledger parts).report.unterminated =
      ledger.report.unterminated ++ positions Section.isUnclosed index parts := by
  induction parts generalizing index ledger with
  | nil => exact (List.append_nil _).symm
  | cons part rest ih =>
      obtain ⟨here, later⟩ := List.forall_mem_cons.mp going
      rw [enterAll, ih later]
      cases part with
      | plain line | inline line | block line body closer => rfl
      | unclosed line =>
          cases policy with
          | skip => exact List.append_assoc _ _ _
          | collapse => exact List.append_assoc _ _ _
          | error => cases here

theorem exists_of_isUnclosed {part : Section} (unclosed : part.isUnclosed = true) :
    ∃ line, part = .unclosed line := by
  cases part with
  | unclosed line => exact ⟨line, rfl⟩
  | plain line | inline line | block line body closer => cases unclosed

theorem exists_of_mem_positions {parts : List Section} {start number : Nat}
    (member : number ∈ positions Section.isUnclosed start parts) :
    ∃ before line after, parts = before ++ .unclosed line :: after ∧ number = start + before.length := by
  obtain ⟨index, part, found, unclosed, rfl⟩ := mem_positions.mp member
  obtain ⟨within, here⟩ := List.getElem?_eq_some_iff.mp found
  obtain ⟨line, rfl⟩ := exists_of_isUnclosed unclosed
  refine ⟨parts.take index, line, parts.drop (index + 1), ?_, ?_⟩
  · rw [← here, ← List.drop_eq_getElem_cons within, List.take_append_drop]
  · rw [List.length_take, Nat.min_eq_left (Nat.le_of_lt within)]

end Edit

/-! ### Reported numbers and lines of the source -/

namespace Source

open Edit (Section sections absorbed)

/-- The numbers by which a migration names unclosed calls, in its outcome or in the error it stops with. -/
def reportedLines (policy : Policy) (source : Text) : List Nat :=
  match (migrate policy source).result with
  | .ok (_, outcome) => outcome.unterminated
  | .error (.unterminatedBlock line) => [line]
  | .error .indentTooWide => []

theorem mem_legacyLines {source : Text} {index : Nat} :
    index + 1 ∈ legacyLines source ↔
      ∃ line, source.splitLines[index]? = some line ∧ Alert.isCall line = true := by
  rw [legacyLines_eq_positions, mem_positions]
  constructor
  · rintro ⟨found, line, present, call, same⟩
    have here : found = index := by omega
    exact ⟨line, by rw [← here]; exact present, call⟩
  · rintro ⟨line, present, call⟩
    exact ⟨index, line, present, call, Nat.add_comm index 1⟩

private theorem exists_of_mem_reportedLines {policy : Policy} {source : Text} {number : Nat}
    (reported : number ∈ reportedLines policy source) :
    ∃ before line after, sections source.splitLines = before ++ .unclosed line :: after ∧
      number = before.length + 1 := by
  unfold reportedLines at reported
  split at reported
  · rename_i migrated outcome done
    obtain ⟨going, _, _, rfl⟩ := migrate_eq_of_ok done
    change number ∈ List.map _ (Edit.enterAll policy 0 .empty _).report.unterminated at reported
    rw [Edit.unterminated_enterAll going] at reported
    obtain ⟨position, member, rfl⟩ := List.mem_map.mp reported
    obtain ⟨before, line, after, divided, rfl⟩ := Edit.exists_of_mem_positions member
    exact ⟨before, line, after, divided, by rw [Nat.zero_add]⟩
  · rename_i line stopped
    have ended : (Edit.run policy source.splitLines).result = .error (.unterminatedBlock line) := by
      cases result : (Edit.run policy source.splitLines).result with
      | ok report =>
          rw [result_migrate_of_ok result] at stopped
          cases stopped
      | error error =>
          rw [result_migrate_of_error result] at stopped
          cases stopped
          rfl
    obtain ⟨before, stopper, after, divided, stops, _, numbered, _⟩ := Edit.run_eq_of_unterminated ended
    obtain ⟨opener, rfl⟩ := Edit.exists_of_isUnclosed (Bool.and_eq_true_iff.mp stops).2
    exact ⟨before, opener, after, divided, by rw [← numbered, List.mem_singleton.mp reported]⟩
  · cases reported

/-- A reported number lags behind the line of its call by the lines that replaced tap blocks have absorbed
before it. It is the number of a legacy call exactly if there are none, or if it falls on another call. -/
theorem reported_number_exact {policy : Policy} {source : Text} {number : Nat}
    (reported : number ∈ reportedLines policy source) :
    ∃ before line after, sections source.splitLines = before ++ .unclosed line :: after ∧
      number = before.length + 1 ∧
      source.splitLines[before.length + absorbed before]? = some line ∧
      number + absorbed before ∈ legacyLines source ∧
      (absorbed before = 0 ↔ ∀ part ∈ before, part.isBlock = false) ∧
      (number ∈ legacyLines source ↔ (∀ part ∈ before, part.isBlock = false) ∨
        ∃ other, source.splitLines[before.length]? = some other ∧ Alert.isCall other = true) := by
  obtain ⟨before, line, after, divided, rfl⟩ := exists_of_mem_reportedLines reported
  have valid : (Section.unclosed line).Valid := by
    apply Edit.valid_sections source.splitLines
    rw [divided]
    exact List.mem_append_right _ List.mem_cons_self
  have kind : Alert.classify line = .block := valid
  have call : Alert.isCall line = true := Alert.isCall_of_ne_other (by rw [kind]; decide)
  have atCall : source.splitLines[before.length + absorbed before]? = some line := by
    rw [← Edit.flatMap_lines_sections source.splitLines, divided, List.flatMap_append,
      ← Edit.length_flatMap_lines, List.getElem?_append_right (Nat.le_refl _), Nat.sub_self]
    rfl
  have named : before.length + 1 + absorbed before ∈ legacyLines source := by
    rw [Nat.add_right_comm]
    exact mem_legacyLines.mpr ⟨line, atCall, call⟩
  refine ⟨before, line, after, divided, rfl, atCall, named, Edit.absorbed_eq_zero_iff, ?_⟩
  rw [mem_legacyLines, ← Edit.absorbed_eq_zero_iff]
  constructor
  · exact Or.inr
  · rintro (nothing | coincidence)
    · rw [nothing, Nat.add_zero] at atCall
      exact ⟨line, atCall, call⟩
    · exact coincidence

theorem reported_number_exact_sample :
    2 ∈ reportedLines .error sampleSource ∧
      ∃ before line after, sections sampleSource.splitLines = before ++ .unclosed line :: after ∧
        2 = before.length + 1 ∧
        sampleSource.splitLines[before.length + absorbed before]? = some line ∧
        2 + absorbed before ∈ legacyLines sampleSource ∧
        (absorbed before = 0 ↔ ∀ part ∈ before, part.isBlock = false) ∧
        (2 ∈ legacyLines sampleSource ↔ (∀ part ∈ before, part.isBlock = false) ∨
          ∃ other, sampleSource.splitLines[before.length]? = some other ∧ Alert.isCall other = true) :=
  have reported : 2 ∈ reportedLines .error sampleSource := by decide +kernel
  ⟨reported, reported_number_exact reported⟩

/-- Under every policy a number can be reported that is not the number of a legacy call. -/
theorem reported_number_off_calls :
    2 ∈ reportedLines .skip sampleSource ∧ 2 ∈ reportedLines .collapse sampleSource ∧
      2 ∈ reportedLines .error sampleSource ∧ 2 ∉ legacyLines sampleSource := by
  decide +kernel

end Source

end AlertMigration
