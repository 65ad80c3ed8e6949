import AlertMigration.Proofs.PhysicalLines
import AlertMigration.Proofs.Sections
import AlertMigration.Edit

/-!
The physical lines that a run leaves behind.

A replaced tap block is one line of the buffer, but its text is spread over several physical lines: the
new opening, the lines of the body as they were, and the new closing. `splitLines_emitted` says that the
text of all emitted lines has no other physical lines than these: no piece of a replacement holds a stray
terminator, and no terminator runs into the piece after it.
-/

namespace AlertMigration

open Text (Unbroken IsLine Canonical EndsIn unbroken_append)

/-! ### The pieces of a replacement -/

namespace Text

theorem take_append_of_indexOf? {needle text : Text} {position : Nat}
    (found : indexOf? needle text = some position) :
    ∃ back, text = text.take position ++ (needle ++ back) := by
  induction text generalizing position with
  | nil =>
      unfold indexOf? at found
      split at found
      · rename_i empty
        cases found
        exact ⟨[], by rw [List.isEmpty_iff.mp empty]; rfl⟩
      · cases found
  | cons c rest ih =>
      unfold indexOf? at found
      split at found
      · rename_i opens
        cases found
        obtain ⟨back, whole⟩ := List.isPrefixOf_iff_prefix.mp opens
        exact ⟨back, whole.symm⟩
      · obtain ⟨later, restFound, rfl⟩ := Option.map_eq_some_iff.mp found
        obtain ⟨back, whole⟩ := ih restFound
        exact ⟨back, by rw [List.take_succ_cons, List.cons_append, ← whole]⟩

/-- What stands between two markers of a line is unbroken: the closing marker comes before the
terminator. -/
theorem IsLine.unbroken_between {line : Text} (isLine : IsLine line) (opening closing : Text)
    (plain : closing.head?.map isBreak = some false) : Unbroken (between opening closing line) := by
  obtain ⟨c, first, same⟩ := Option.map_eq_some_iff.mp plain
  obtain ⟨tail, rfl⟩ := List.head?_eq_some_iff.mp first
  unfold between
  split
  · rename_i start stop _ found
    obtain ⟨back, whole⟩ := take_append_of_indexOf? found
    exact unbroken_of_subset (List.drop_subset _ _) (isLine.unbroken_before whole same)
  · exact unbroken_nil

private theorem blankTail_append {content ending : Text} (blank : ∀ c ∈ ending, isBlank c = true) :
    blankTail (content ++ ending) = blankTail content ++ ending := by
  have reversed : ∀ c ∈ ending.reverse, isBlank c = true :=
    fun c member => blank c (List.mem_reverse.mp member)
  rw [blankTail, List.reverse_append, List.takeWhile_append_of_pos reversed, List.reverse_append,
    List.reverse_reverse, blankTail]

theorem IsLine.blankTail_eq {line : Text} (isLine : IsLine line) :
    ∃ blanks, blankTail line = blanks ++ terminator line ∧ Unbroken blanks := by
  obtain ⟨content, whole, unbroken⟩ := isLine.split
  refine ⟨blankTail content, ?_, ?_⟩
  · conv => lhs; rw [whole]
    exact blankTail_append (isBlank_of_mem_endings _ (terminator_mem_endings line))
  · rw [← trimEnd_append_blankTail content, unbroken_append] at unbroken
    exact unbroken.2

end Text

namespace Alert

theorem indentation_append {front : Text} (noBracket : '[' ∉ front) (back : Text) :
    indentation (front ++ '[' :: back) = front := by
  have others : ∀ c ∈ front, (c != '[') = true := by
    intro c member
    exact bne_iff_ne.mpr (fun same => noBracket (by rwa [← same]))
  rw [indentation, if_pos (by simp), List.takeWhile_append_of_pos others,
    List.takeWhile_cons_of_neg (by simp), List.append_nil]

theorem unbroken_indentation {line : Text} (isLine : IsLine line) : Unbroken (indentation line) := by
  by_cases bracket : '[' ∈ line
  · obtain ⟨front, back, whole, noBracket⟩ := List.eq_append_cons_of_mem bracket
    rw [whole, indentation_append noBracket]
    exact isLine.unbroken_before whole rfl
  · rw [indentation, if_neg (by simpa using bracket)]
    exact Text.unbroken_nil

theorem unbroken_controllerHead {line : Text} (isLine : IsLine line) :
    Unbroken (controllerHead (indentation line) (.ofLine line)) := by
  have title := isLine.unbroken_between Fields.titleMarker Fields.messageMarker (by decide +kernel)
  have message := isLine.unbroken_between Fields.messageMarker Fields.cancelMarker (by decide +kernel)
  have cancel := isLine.unbroken_between Fields.cancelMarker Fields.otherMarker (by decide +kernel)
  have other := isLine.unbroken_between Fields.otherMarker Fields.tapBlockMarker (by decide +kernel)
  simp only [controllerHead, unbroken_append, and_assoc]
  exact ⟨unbroken_indentation isLine, by decide +kernel, by decide +kernel, title, by decide +kernel,
    message, by decide +kernel, cancel, by decide +kernel, other, by decide +kernel⟩

end Alert

namespace Edit

def openingLine (line : Text) : Text :=
  Alert.controllerHead (Alert.indentation line) (.ofLine line)
    ++ (Alert.blockSignature ++ " \x7b".toList) ++ blockNewline line

def closingLine (line last : Text) : Text :=
  Alert.indentation line ++ Block.closeToken ++ last.blankTail

theorem replaceCall_some (line body last : Text) :
    replaceCall line (some body) last = openingLine line ++ body ++ closingLine line last := by
  simp only [replaceCall, Alert.replacement, Alert.tapBlock, openingLine, closingLine, Block.closeToken,
    List.append_assoc]

private theorem blockNewline_mem_endings (line : Text) : blockNewline line ∈ Text.endings := by
  unfold blockNewline
  split
  · decide
  · exact Text.terminator_mem_endings line

private theorem blockNewline_ne_nil (line : Text) : blockNewline line ≠ [] := by
  unfold blockNewline
  split
  · decide
  · rename_i terminated
    exact fun empty => terminated (List.isEmpty_iff.mpr empty)

theorem blockNewline_eq {line : Text} (terminated : line.terminator ≠ []) :
    blockNewline line = line.terminator :=
  if_neg (fun empty => terminated (List.isEmpty_iff.mp empty))

theorem endsIn_openingLine {line : Text} (isLine : IsLine line) :
    EndsIn (blockNewline line) (openingLine line) := by
  refine ⟨blockNewline_mem_endings line, _, rfl, ?_, ?_⟩
  · exact List.append_ne_nil_of_right_ne_nil _ (by decide +kernel)
  · rw [unbroken_append]
    exact ⟨Alert.unbroken_controllerHead isLine, by decide +kernel⟩

theorem endsIn_closingLine {line last : Text} (isLine : IsLine line) (lastLine : IsLine last) :
    EndsIn last.terminator (closingLine line last) := by
  obtain ⟨blanks, tail, unbroken⟩ := lastLine.blankTail_eq
  refine ⟨Text.terminator_mem_endings last, Alert.indentation line ++ Block.closeToken ++ blanks, ?_, ?_, ?_⟩
  · rw [closingLine, tail, List.append_assoc _ blanks]
  · exact List.append_ne_nil_of_left_ne_nil (List.append_ne_nil_of_right_ne_nil _ (by decide +kernel)) _
  · rw [unbroken_append, unbroken_append]
    exact ⟨⟨Alert.unbroken_indentation isLine, by decide +kernel⟩, unbroken⟩

theorem endsIn_replaceCall_none {line : Text} (isLine : IsLine line) :
    EndsIn line.terminator (replaceCall line none line) := by
  obtain ⟨blanks, tail, unbroken⟩ := isLine.blankTail_eq
  refine ⟨Text.terminator_mem_endings line,
    Alert.controllerHead (Alert.indentation line) (.ofLine line) ++ "nil];".toList ++ blanks, ?_, ?_, ?_⟩
  · rw [replaceCall, tail, Alert.replacement, Alert.tapBlock, List.append_assoc _ blanks]
  · exact List.append_ne_nil_of_left_ne_nil (List.append_ne_nil_of_right_ne_nil _ (by decide +kernel)) _
  · rw [unbroken_append, unbroken_append]
    exact ⟨⟨Alert.unbroken_controllerHead isLine, by decide +kernel⟩, unbroken⟩

/-! ### The physical lines of a section -/

def Section.written (policy : Policy) : Section → List Text
  | .plain line => [line]
  | .inline line => [replaceCall line none line]
  | .block line body closer => openingLine line :: (body ++ [closingLine line closer])
  | .unclosed line =>
      match policy with
      | .collapse => [openingLine line, closingLine line line]
      | .skip | .error => [line]

theorem flatten_written (policy : Policy) (part : Section) :
    (part.written policy).flatten = part.emit policy := by
  cases part with
  | plain line => exact List.flatten_singleton
  | inline line => exact List.flatten_singleton
  | block line body closer =>
      simp only [Section.written, Section.emit, replaceCall_some, List.flatten_cons, List.flatten_append,
        List.flatten_nil, List.append_nil, List.append_assoc]
  | unclosed line =>
      cases policy with
      | skip => exact List.flatten_singleton
      | error => exact List.flatten_singleton
      | collapse =>
          simp only [Section.written, Section.emit, replaceCall_some, List.flatten_cons, List.flatten_nil,
            List.append_nil]

theorem flatten_map_emit (policy : Policy) (parts : List Section) :
    (parts.map (Section.emit policy)).flatten = (parts.flatMap (Section.written policy)).flatten := by
  induction parts with
  | nil => rfl
  | cons part rest ih =>
      rw [List.map_cons, List.flatten_cons, List.flatMap_cons, List.flatten_append, flatten_written, ih]

theorem terminated_of_canonical_block {line closer : Text} {body : List Text}
    (canonical : Canonical (line :: (body ++ [closer]))) : line.terminator ≠ [] := by
  obtain ⟨_, _, onward⟩ := Text.canonical_cons.mp canonical
  cases body with
  | nil => exact (onward closer rfl).terminated
  | cons inner body => exact (onward inner rfl).terminated

/-- Among canonical lines, those of a section can give way to what is written for it. -/
theorem canonical_written {policy : Policy} {front back : List Text} {part : Section}
    (canonical : Canonical (front ++ (part.lines ++ back))) :
    Canonical (front ++ (part.written policy ++ back)) := by
  have within : ∀ line ∈ part.lines, IsLine line := fun line member =>
    canonical.isLine line (List.mem_append_right _ (List.mem_append_left _ member))
  cases part with
  | plain line => exact canonical
  | inline line => exact canonical.replace (endsIn_replaceCall_none (within line List.mem_cons_self))
  | block line body closer =>
      have lineIs := within line List.mem_cons_self
      have closerIs := within closer (by simp [Section.lines])
      have terminated := terminated_of_canonical_block
        (Text.canonical_append.mp (Text.canonical_append.mp canonical).2.1).1
      have opened : EndsIn line.terminator (openingLine line) := by
        rw [← blockNewline_eq terminated]
        exact endsIn_openingLine lineIs
      have afterOpening : Canonical (front ++ openingLine line :: (body ++ [closer] ++ back)) :=
        canonical.replace opened
      have regrouped : Canonical ((front ++ openingLine line :: body) ++ closer :: back) := by
        simpa only [List.append_assoc, List.cons_append, List.nil_append] using afterOpening
      have afterClosing := regrouped.replace (endsIn_closingLine lineIs closerIs)
      simpa only [Section.written, List.append_assoc, List.cons_append, List.nil_append]
        using afterClosing
  | unclosed line =>
      cases policy with
      | skip => exact canonical
      | error => exact canonical
      | collapse =>
          have lineIs := within line List.mem_cons_self
          have closed := endsIn_closingLine lineIs lineIs
          exact (canonical.replace closed).insert (endsIn_openingLine lineIs) (blockNewline_ne_nil line)
            closed.head?_ne

theorem canonical_flatMap_written (policy : Policy) (parts : List Section) (front : List Text)
    (canonical : Canonical (front ++ parts.flatMap Section.lines)) :
    Canonical (front ++ parts.flatMap (Section.written policy)) := by
  induction parts generalizing front with
  | nil => exact canonical
  | cons part rest ih =>
      rw [List.flatMap_cons] at canonical ⊢
      have replaced : Canonical (front ++ (part.written policy ++ rest.flatMap Section.lines)) :=
        canonical_written canonical
      rw [← List.append_assoc] at replaced ⊢
      exact ih _ replaced

/-- The physical lines of a migrated text are those written for the sections of its source. -/
theorem splitLines_emitted (policy : Policy) {buffer : List Text} (canonical : Canonical buffer) :
    Text.splitLines ((sections buffer).map (Section.emit policy)).flatten =
      (sections buffer).flatMap (Section.written policy) := by
  rw [flatten_map_emit]
  apply Text.splitLines_flatten
  apply canonical_flatMap_written policy (sections buffer) []
  rwa [List.nil_append, flatMap_lines_sections]

end Edit

/-! ### The migrated source -/

namespace Source

open Edit (Section sections enterAll)

theorem result_migrate_of_ok {policy : Policy} {source : Text} {report : Edit.Report}
    (finished : (Edit.run policy source.splitLines).result = .ok report) :
    (migrate policy source).result =
      .ok ((Edit.run policy source.splitLines).buffer.flatten, .ofReport report) := by
  change (Edit.run policy source.splitLines).result.map _ = _
  rw [finished]
  rfl

theorem result_migrate_of_error {policy : Policy} {source : Text} {error : Edit.Error}
    (stopped : (Edit.run policy source.splitLines).result = .error error) :
    (migrate policy source).result = .error error := by
  change (Edit.run policy source.splitLines).result.map _ = _
  rw [stopped]
  rfl

theorem exists_report_of_ok {policy : Policy} {source migrated : Text} {outcome : Outcome}
    (done : (migrate policy source).result = .ok (migrated, outcome)) :
    ∃ report, (Edit.run policy source.splitLines).result = .ok report ∧
      migrated = (Edit.run policy source.splitLines).buffer.flatten ∧ outcome = .ofReport report := by
  cases finished : (Edit.run policy source.splitLines).result with
  | error error =>
      rw [result_migrate_of_error finished] at done
      cases done
  | ok report =>
      rw [result_migrate_of_ok finished] at done
      cases done
      exact ⟨report, rfl, rfl, rfl⟩

theorem migrate_eq_of_ok {policy : Policy} {source migrated : Text} {outcome : Outcome}
    (done : (migrate policy source).result = .ok (migrated, outcome)) :
    (∀ part ∈ sections source.splitLines, part.stops policy = false) ∧
      migrated = ((sections source.splitLines).map (Section.emit policy)).flatten ∧
      migrated.splitLines = (sections source.splitLines).flatMap (Section.written policy) ∧
      outcome = .ofReport (enterAll policy 0 .empty (sections source.splitLines)).report := by
  obtain ⟨report, finished, joined, rfl⟩ := exists_report_of_ok done
  obtain ⟨going, emitted, rfl⟩ := Edit.run_eq_of_ok finished
  rw [emitted] at joined
  refine ⟨going, joined, ?_, rfl⟩
  rw [joined]
  exact Edit.splitLines_emitted policy (Text.canonical_splitLines source)

def sampleSource : Text :=
  Edit.sampleBuffer.flatten

theorem migrate_skip_sampleSource :
    ∃ migrated outcome, (migrate .skip sampleSource).result = .ok (migrated, outcome) := by
  have finishes : (migrate .skip sampleSource).result.isOk = true := by decide +kernel
  cases done : (migrate .skip sampleSource).result with
  | error error =>
      rw [done] at finishes
      cases finishes
  | ok value => exact ⟨value.1, value.2, rfl⟩

end Source

end AlertMigration
