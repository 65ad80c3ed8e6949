import AlertMigration.Proofs.ClosingLines
import AlertMigration.Proofs.PolicyAgreement

/-!
Line endings of a migrated text.

What is written for a section ends its physical lines as the section did. The one exception is the new opening
line of a collapsed call that had no terminator: it gets a line feed. Such a call can only be the last line of
a source. So a text that ends all its lines alike is migrated to one that does so too, unless its last line is
such a call and the lines before it end in another way.
-/

namespace AlertMigration

namespace Text

def BreaksAs (ending line : Text) : Prop :=
  line.terminator = [] ∨ line.terminator = ending

def Uniform (ending text : Text) : Prop :=
  ∀ line ∈ text.splitLines, BreaksAs ending line

instance (ending line : Text) : Decidable (BreaksAs ending line) :=
  inferInstanceAs (Decidable (line.terminator = [] ∨ line.terminator = ending))

instance (ending text : Text) : Decidable (Uniform ending text) :=
  List.decidableBAll (BreaksAs ending) text.splitLines

theorem breaksAs_congr {ending line other : Text} (same : other.terminator = line.terminator) :
    BreaksAs ending other ↔ BreaksAs ending line := by
  rw [BreaksAs, BreaksAs, same]

theorem Canonical.getLast?_eq {lines : List Text} {line : Text} (canonical : Canonical lines)
    (member : line ∈ lines) (unended : line.terminator = []) : lines.getLast? = some line := by
  rcases List.append_of_mem member with ⟨front, back, rfl⟩
  cases back with
  | nil => exact List.getLast?_concat
  | cons next back =>
      obtain ⟨_, rest, _⟩ := canonical_append.mp canonical
      obtain ⟨_, _, onward⟩ := canonical_cons.mp rest
      exact absurd unended (onward next rfl).terminated

end Text

namespace Edit

open Text (BreaksAs Canonical)

/-! ### The endings of one section -/

/-- The section is collapsed, and its call ends without a terminator. -/
def Section.Unended (policy : Policy) : Section → Prop
  | .unclosed line => policy = .collapse ∧ line.terminator = []
  | .plain _ | .inline _ | .block _ _ _ => False

private theorem breaksAs_openingLine {ending line : Text} (isLine : Text.IsLine line)
    (breaks : BreaksAs ending line) :
    BreaksAs ending (openingLine line) ↔ (line.terminator = [] → ending = ['\n']) := by
  rw [BreaksAs, (endsIn_openingLine isLine).terminator_eq]
  by_cases unended : line.terminator = []
  · have feed : blockNewline line = ['\n'] := if_pos (List.isEmpty_iff.mpr unended)
    rw [feed]
    constructor
    · rintro (none | same) _
      · cases none
      · exact same.symm
    · intro same
      exact Or.inr (same unended).symm
  · rw [blockNewline_eq unended]
    exact iff_of_true breaks (fun none => absurd none unended)

theorem breaksAs_written_iff {policy : Policy} {part : Section} {ending : Text}
    (canonical : Canonical part.lines) (breaks : ∀ line ∈ part.lines, BreaksAs ending line) :
    (∀ text ∈ part.written policy, BreaksAs ending text) ↔ (part.Unended policy → ending = ['\n']) := by
  cases part with
  | plain line => exact iff_of_true breaks False.elim
  | inline line =>
      have lineIs := canonical.isLine line List.mem_cons_self
      have replaced : BreaksAs ending (replaceCall line none line) := by
        rw [Text.breaksAs_congr (endsIn_replaceCall_none lineIs).terminator_eq]
        exact breaks line List.mem_cons_self
      exact iff_of_true (List.forall_mem_singleton.mpr replaced) False.elim
  | block line body closer =>
      have lineIs := canonical.isLine line List.mem_cons_self
      have closerIs := canonical.isLine closer (by simp [Section.lines])
      have terminated := terminated_of_canonical_block canonical
      obtain ⟨here, later⟩ := List.forall_mem_cons.mp breaks
      obtain ⟨within, atEnd⟩ := List.forall_mem_append.mp later
      have closed : BreaksAs ending (closingLine line closer) := by
        rw [Text.breaksAs_congr (endsIn_closingLine lineIs closerIs).terminator_eq]
        exact atEnd closer List.mem_cons_self
      refine iff_of_true (List.forall_mem_cons.mpr ⟨?_, ?_⟩) False.elim
      · exact (breaksAs_openingLine lineIs here).mpr (fun none => absurd none terminated)
      · exact List.forall_mem_append.mpr ⟨within, List.forall_mem_singleton.mpr closed⟩
  | unclosed line =>
      have lineIs := canonical.isLine line List.mem_cons_self
      have here := breaks line List.mem_cons_self
      cases policy with
      | skip => exact iff_of_true breaks (fun unended => by cases unended.1)
      | error => exact iff_of_true breaks (fun unended => by cases unended.1)
      | collapse =>
          have closed : BreaksAs ending (closingLine line line) := by
            rw [Text.breaksAs_congr (endsIn_closingLine lineIs lineIs).terminator_eq]
            exact here
          simp only [Section.written, Section.Unended, List.forall_mem_cons, closed, true_and,
            breaksAs_openingLine lineIs here, List.not_mem_nil, false_imp_iff, implies_true, and_true]

/-! ### The endings of all sections -/

theorem breaksAs_flatMap_written_iff {policy : Policy} {parts : List Section} {ending : Text}
    (canonical : Canonical (parts.flatMap Section.lines))
    (breaks : ∀ line ∈ parts.flatMap Section.lines, BreaksAs ending line) :
    (∀ text ∈ parts.flatMap (Section.written policy), BreaksAs ending text) ↔
      ((∃ part ∈ parts, part.Unended policy) → ending = ['\n']) := by
  induction parts with
  | nil => simp
  | cons part rest ih =>
      rw [List.flatMap_cons] at canonical breaks ⊢
      obtain ⟨here, later, _⟩ := Text.canonical_append.mp canonical
      obtain ⟨breaksHere, breaksLater⟩ := List.forall_mem_append.mp breaks
      rw [List.forall_mem_append, breaksAs_written_iff here breaksHere, ih later breaksLater]
      simp only [List.exists_mem_cons_iff, or_imp]

private theorem unclosed_mem_sections {buffer : List Text} {line : Text} (last : buffer.getLast? = some line)
    (kind : Alert.classify line = .block) : .unclosed line ∈ sections buffer := by
  have whole := flatMap_lines_sections buffer
  rcases List.eq_nil_or_concat (sections buffer) with none | ⟨before, part, divided⟩
  · rw [none] at whole
    rw [← whole] at last
    cases last
  · have member : part ∈ sections buffer := by rw [divided]; simp
    have valid := valid_sections buffer part member
    have ended : (before.flatMap Section.lines ++ part.lines).getLast? = some line := by
      rw [divided] at whole
      simpa only [← whole, List.concat_eq_append, List.flatMap_append, List.flatMap_singleton] using last
    cases part with
    | plain other | inline other =>
        have same : other = line := by simpa [Section.lines] using ended
        rw [Section.Valid, same, kind] at valid
        cases valid
    | block other body closer =>
        have same : closer = line := by
          rw [Section.lines, ← List.cons_append, ← List.append_assoc, List.getLast?_concat] at ended
          exact Option.some_inj.mp ended
        obtain ⟨_, _, closing⟩ := valid
        rw [same, Alert.closes_of_isCall (Alert.isCall_of_block kind)] at closing
        cases closing
    | unclosed other =>
        have same : other = line := by simpa [Section.lines] using ended
        rwa [← same]

/-- The last line of a buffer is a call with a tap block, and has no terminator. -/
def EndsInOpenCall (buffer : List Text) : Prop :=
  ∃ line, buffer.getLast? = some line ∧ Alert.classify line = .block ∧ line.terminator = []

private theorem exists_unended_iff {policy : Policy} {buffer : List Text} (canonical : Canonical buffer) :
    (∃ part ∈ sections buffer, part.Unended policy) ↔ policy = .collapse ∧ EndsInOpenCall buffer := by
  constructor
  · rintro ⟨part, member, unended⟩
    cases part with
    | plain line | inline line | block line body closer => exact unended.elim
    | unclosed line =>
        obtain ⟨chosen, bare⟩ := unended
        have within : line ∈ buffer := by
          rw [← flatMap_lines_sections buffer]
          exact List.mem_flatMap_of_mem member List.mem_cons_self
        exact ⟨chosen, line, canonical.getLast?_eq within bare, valid_sections buffer _ member, bare⟩
  · rintro ⟨chosen, line, last, kind, unended⟩
    exact ⟨.unclosed line, unclosed_mem_sections last kind, chosen, unended⟩

theorem breaksAs_written_lines_iff {policy : Policy} {buffer : List Text} {ending : Text}
    (canonical : Canonical buffer) (breaks : ∀ line ∈ buffer, BreaksAs ending line) :
    (∀ text ∈ (sections buffer).flatMap (Section.written policy), BreaksAs ending text) ↔
      (policy = .collapse → EndsInOpenCall buffer → ending = ['\n']) := by
  have whole := flatMap_lines_sections buffer
  rw [breaksAs_flatMap_written_iff (by rwa [whole]) (by rwa [whole]), exists_unended_iff canonical, and_imp]

end Edit

/-! ### The endings of a source -/

namespace Source

open Edit (EndsInOpenCall)
open Text (Uniform)

/-- If all line breaks of a source are alike, so are those of the migrated text, except where one has to be made
up after the opening of a collapsed call at the end of a source without a terminator. -/
theorem uniform_migrated_iff {policy : Policy} {source migrated ending : Text} {outcome : Outcome}
    (uniform : Uniform ending source) (done : (migrate policy source).result = .ok (migrated, outcome)) :
    Uniform ending migrated ↔
      (policy = .collapse → EndsInOpenCall source.splitLines → ending = ['\n']) := by
  obtain ⟨_, _, lines, _⟩ := migrate_eq_of_ok done
  rw [Uniform, lines]
  exact Edit.breaksAs_written_lines_iff (Text.canonical_splitLines source) uniform

def pairSource (ending : Text) : Text :=
  "show();\r\n".toList ++ (Edit.sampleCall []).trimEnd ++ ending

private theorem exists_migrated_pairSource (ending : Text)
    (short : ∀ line ∈ (pairSource ending).splitLines, line.length < Block.widthLimit) :
    ∃ migrated outcome, (migrate .collapse (pairSource ending)).result = .ok (migrated, outcome) :=
  exists_migrated_of_going short (fun part _ => Edit.stops_eq_false_of_lenient (by decide) part)

theorem uniform_migrated_iff_sample :
    Uniform ['\r', '\n'] (pairSource ['\r', '\n']) ∧
      ∃ migrated outcome,
        (migrate .collapse (pairSource ['\r', '\n'])).result = .ok (migrated, outcome) ∧
        Uniform ['\r', '\n'] migrated := by
  obtain ⟨short, uniform, ended⟩ :
      (∀ line ∈ (pairSource ['\r', '\n']).splitLines, line.length < Block.widthLimit) ∧
      Uniform ['\r', '\n'] (pairSource ['\r', '\n']) ∧
      (pairSource ['\r', '\n']).splitLines.getLast?.map Text.terminator = some ['\r', '\n'] := by
    decide +kernel
  obtain ⟨migrated, outcome, done⟩ := exists_migrated_pairSource ['\r', '\n'] short
  refine ⟨uniform, migrated, outcome, done, (uniform_migrated_iff uniform done).mpr ?_⟩
  rintro _ ⟨line, last, _, unended⟩
  rw [last, Option.map_some, unended] at ended
  cases ended

/-- A collapsed call at the end of a source can bring in a line feed where all line breaks were pairs. -/
theorem line_feed_among_pairs :
    Uniform ['\r', '\n'] (pairSource []) ∧
      (∃ line ∈ (pairSource []).splitLines, line.terminator = ['\r', '\n']) ∧
      ∃ migrated outcome, (migrate .collapse (pairSource [])).result = .ok (migrated, outcome) ∧
        ¬ Uniform ['\r', '\n'] migrated := by
  obtain ⟨short, uniform, broken, last, kind, unended⟩ :
      (∀ line ∈ (pairSource []).splitLines, line.length < Block.widthLimit) ∧
      Uniform ['\r', '\n'] (pairSource []) ∧
      (∃ line ∈ (pairSource []).splitLines, line.terminator = ['\r', '\n']) ∧
      (pairSource []).splitLines.getLast? = some (Edit.sampleCall []).trimEnd ∧
      Alert.classify (Edit.sampleCall []).trimEnd = .block ∧
      (Edit.sampleCall []).trimEnd.terminator = [] := by
    decide +kernel
  obtain ⟨migrated, outcome, done⟩ := exists_migrated_pairSource [] short
  obtain ⟨_, _, lines, _⟩ := migrate_eq_of_ok done
  refine ⟨uniform, broken, migrated, outcome, done, ?_⟩
  rw [Uniform, lines, Edit.breaksAs_written_lines_iff (Text.canonical_splitLines _) uniform]
  intro same
  cases same rfl ⟨_, last, kind, unended⟩

end Source

end AlertMigration
