import AlertMigration.Proofs.WrittenLines

/-!
No legacy call is lost or invented.

Main statement: the legacy calls of a source are the ones that its migration replaced and the ones that
the migrated text still holds. The account is made section by section: of its physical lines, a section
loses the call that is replaced, and nothing that is written for it is a call.
-/

namespace AlertMigration

/-! ### Lines that are no calls -/

namespace Alert

theorem opening_cons : opening = '[' :: opening.drop 1 := by
  decide +kernel

private theorem isCall_eq_false_of_head {line : Text} (noBracket : line.trimStart.head? ≠ some '[') :
    isCall line = false := by
  unfold isCall
  rw [opening_cons]
  cases found : line.trimStart with
  | nil => rfl
  | cons c rest =>
      rw [found, List.head?_cons, ne_eq, Option.some_inj] at noBracket
      have different : ('[' == c) = false := beq_false_of_ne (Ne.symm noBracket)
      have noOpening : ('[' :: opening.drop 1).isPrefixOf? (c :: rest) = none :=
        if_neg (ne_true_of_eq_false different)
      rw [noOpening, Option.any_none]

theorem isCall_append_cons {front : Text} {c : Char} (bracketless : '[' ∉ front) (solid : isBlank c = false)
    (other : c ≠ '[') (rest : Text) : isCall (front ++ c :: rest) = false := by
  apply isCall_eq_false_of_head
  unfold Text.trimStart
  induction front with
  | nil =>
      rw [List.nil_append, List.dropWhile_cons_of_neg (by simp [solid]), List.head?_cons]
      exact fun same => other (Option.some_inj.mp same)
  | cons first front ih =>
      obtain ⟨different, later⟩ := not_or.mp (List.mem_cons.not.mp bracketless)
      rw [List.cons_append, List.dropWhile_cons]
      split
      · exact ih later
      · rw [List.head?_cons]
        exact fun same => different (Option.some_inj.mp same).symm

end Alert

namespace Block

theorem eq_append_of_closes {width : Nat} {line : Text} (closing : closes width line = true) :
    ∃ blanks rest, line = blanks ++ (closeToken ++ rest) ∧ ∀ c ∈ blanks, isBlank c = true := by
  obtain ⟨blank, token⟩ := Bool.and_eq_true_iff.mp closing
  obtain ⟨rest, found⟩ := List.isPrefixOf_iff_prefix.mp token
  exact ⟨line.take width, rest, by rw [found, List.take_append_drop], List.all_eq_true.mp blank⟩

theorem isCall_eq_false_of_closes {width : Nat} {line : Text} (closing : closes width line = true) :
    Alert.isCall line = false := by
  obtain ⟨blanks, rest, whole, blank⟩ := eq_append_of_closes closing
  have bracketless : '[' ∉ blanks := fun member => by cases blank '[' member
  rw [whole]
  exact Alert.isCall_append_cons bracketless (by decide) (by decide) _

end Block

namespace Edit

theorem isCall_openingLine (line : Text) : Alert.isCall (openingLine line) = false := by
  unfold openingLine Alert.controllerHead
  simp only [List.append_assoc]
  exact Alert.isCall_controllerCall _ _ (Alert.bracket_notMem_indentation line)

theorem isCall_closingLine (line last : Text) : Alert.isCall (closingLine line last) = false := by
  unfold closingLine
  rw [List.append_assoc]
  exact Alert.isCall_append_cons (Alert.bracket_notMem_indentation line) (by decide) (by decide) _

/-! ### The account of a section -/

def Section.replacedCalls (policy : Policy) : Section → List Text
  | .plain _ => []
  | .inline line | .block line _ _ => [line]
  | .unclosed line =>
      match policy with
      | .collapse => [line]
      | .skip | .error => []

theorem lines_eq_of_replacedCalls {policy : Policy} {part : Section}
    (none : part.replacedCalls policy = []) : part.lines = [part.emit policy] := by
  cases part with
  | plain line => rfl
  | inline line => cases none
  | block line body closer => cases none
  | unclosed line =>
      cases policy with
      | skip => rfl
      | collapse => cases none
      | error => rfl

private theorem filter_lines {part : Section} (valid : part.Valid) (policy : Policy) :
    part.lines.filter Alert.isCall =
      part.replacedCalls policy ++ (part.written policy).filter Alert.isCall := by
  cases part with
  | plain line => rfl
  | inline line =>
      have call := Alert.isCall_of_inline valid
      simp [Section.lines, Section.replacedCalls, Section.written, call, isCall_replaceCall]
  | block line body closer =>
      obtain ⟨kind, _, closing⟩ := valid
      have call := Alert.isCall_of_block kind
      simp [Section.lines, Section.replacedCalls, Section.written, call,
        Block.isCall_eq_false_of_closes closing, isCall_openingLine, isCall_closingLine]
  | unclosed line =>
      cases policy with
      | skip => rfl
      | error => rfl
      | collapse =>
          have call := Alert.isCall_of_block valid
          simp [Section.lines, Section.replacedCalls, Section.written, call, isCall_openingLine,
            isCall_closingLine]

theorem filter_flatMap_written_sublist {parts : List Section} (valid : ∀ part ∈ parts, part.Valid)
    (policy : Policy) :
    ((parts.flatMap (Section.written policy)).filter Alert.isCall).Sublist
      ((parts.flatMap Section.lines).filter Alert.isCall) := by
  induction parts with
  | nil => exact List.Sublist.refl _
  | cons part rest ih =>
      obtain ⟨here, later⟩ := List.forall_mem_cons.mp valid
      rw [List.flatMap_cons, List.flatMap_cons, List.filter_append, List.filter_append,
        filter_lines here policy]
      exact (List.sublist_append_right _ _).append (ih later)

theorem length_filter_flatMap_lines {parts : List Section} (valid : ∀ part ∈ parts, part.Valid)
    (policy : Policy) :
    ((parts.flatMap Section.lines).filter Alert.isCall).length =
      (parts.flatMap (Section.replacedCalls policy)).length +
        ((parts.flatMap (Section.written policy)).filter Alert.isCall).length := by
  induction parts with
  | nil => rfl
  | cons part rest ih =>
      obtain ⟨here, later⟩ := List.forall_mem_cons.mp valid
      have counted := ih later
      simp only [List.flatMap_cons, List.filter_append, List.length_append, filter_lines here policy]
      omega

theorem converted_enterAll (policy : Policy) (index : Nat) (ledger : Ledger) (parts : List Section) :
    (enterAll policy index ledger parts).report.converted =
      ledger.report.converted + (parts.flatMap (Section.replacedCalls policy)).length := by
  induction parts generalizing index ledger with
  | nil => rfl
  | cons part rest ih =>
      have entered : (part.enter policy index ledger).report.converted =
          ledger.report.converted + (part.replacedCalls policy).length := by
        cases part <;> cases policy <;> rfl
      rw [enterAll, ih, entered, List.flatMap_cons, List.length_append, Nat.add_assoc]

end Edit

/-! ### The account of a source -/

/-- The positions of the items that have a property, the first item being at `start`. -/
def positions {α : Type} (holds : α → Bool) (start : Nat) (items : List α) : List Nat :=
  (items.zipIdx start).filterMap fun (item, position) => if holds item then some position else none

theorem length_positions {α : Type} (holds : α → Bool) (start : Nat) (items : List α) :
    (positions holds start items).length = (items.filter holds).length := by
  unfold positions
  induction items generalizing start with
  | nil => rfl
  | cons item rest ih =>
      cases held : holds item with
      | true => simp [held, ih]
      | false => simp [held, ih]

namespace Source

theorem legacyLines_eq_positions (source : Text) :
    legacyLines source = positions Alert.isCall 1 source.splitLines :=
  rfl

/-- Every legacy call of a source is either replaced and counted, or still in the migrated text; and the
migrated text holds no legacy call that the source does not hold. -/
theorem legacyLines_length_eq {policy : Policy} {source migrated : Text} {outcome : Outcome}
    (done : (migrate policy source).result = .ok (migrated, outcome)) :
    (legacyLines source).length = outcome.converted + (legacyLines migrated).length ∧
      (migrated.splitLines.filter Alert.isCall).Sublist (source.splitLines.filter Alert.isCall) := by
  obtain ⟨_, _, lines, reported⟩ := migrate_eq_of_ok done
  have valid := Edit.valid_sections source.splitLines
  have whole := Edit.flatMap_lines_sections source.splitLines
  constructor
  · have counted : outcome.converted =
        ((Edit.sections source.splitLines).flatMap (Edit.Section.replacedCalls policy)).length := by
      rw [reported]
      exact (Edit.converted_enterAll policy 0 .empty _).trans (Nat.zero_add _)
    have accounted := Edit.length_filter_flatMap_lines valid policy
    rw [whole] at accounted
    rw [legacyLines_eq_positions, legacyLines_eq_positions, length_positions, length_positions, lines,
      counted, accounted]
  · have kept := Edit.filter_flatMap_written_sublist valid policy
    rwa [whole, ← lines] at kept

theorem legacyLines_length_eq_sample :
    ∃ migrated outcome, (migrate .skip sampleSource).result = .ok (migrated, outcome) ∧
      (legacyLines sampleSource).length = outcome.converted + (legacyLines migrated).length ∧
      (migrated.splitLines.filter Alert.isCall).Sublist
        (sampleSource.splitLines.filter Alert.isCall) := by
  obtain ⟨migrated, outcome, done⟩ := migrate_skip_sampleSource
  exact ⟨migrated, outcome, done, legacyLines_length_eq done⟩

end Source

end AlertMigration
