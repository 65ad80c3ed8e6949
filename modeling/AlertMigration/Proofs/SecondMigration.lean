import AlertMigration.Proofs.Resting

/-!
Migrating a migrated text.

The body of a replaced tap block is copied as it stands, and a call in it is hidden from the run that
copies it. In the migrated text it is a line of its own again, and a second migration sees it. So a
migrated text is stable exactly if the calls in the copied bodies are of a kind that is left alone:
`stable_migrated_iff`.
-/

namespace AlertMigration

namespace Edit

/-! ### Calls in copied bodies -/

/-- The lines in the body of a section are left alone by a run that would read them in the source, where the
closing line and the sections `after` follow. -/
def Section.BodyResting (policy : Policy) (after : List Section) : Section → Prop
  | .block _ body closer =>
      EachWithRest
        (fun call rest => LeftAlone policy call (rest ++ closer :: after.flatMap Section.lines)) body
  | .plain _ | .inline _ | .unclosed _ => True

def BodiesResting (policy : Policy) (parts : List Section) : Prop :=
  EachWithRest (fun part after => part.BodyResting policy after) parts

instance (policy : Policy) (after : List Section) : (part : Section) →
    Decidable (part.BodyResting policy after)
  | .block _ body _ => decidableEachWithRest body
  | .plain _ | .inline _ | .unclosed _ => .isTrue trivial

instance (policy : Policy) (parts : List Section) : Decidable (BodiesResting policy parts) :=
  decidableEachWithRest parts

private theorem leftAlone_congr {policy : Policy} {line : Text} {rest other : List Text}
    (same : policy = .skip → ∀ width, (∀ later ∈ rest, Block.closes width later = false) ↔
      ∀ later ∈ other, Block.closes width later = false) :
    LeftAlone policy line rest ↔ LeftAlone policy line other := by
  constructor
  · intro alone call
    obtain ⟨skipping, kind, narrow, unclosed⟩ := alone call
    exact ⟨skipping, kind, narrow, (same skipping _).mp unclosed⟩
  · intro alone call
    obtain ⟨skipping, kind, narrow, unclosed⟩ := alone call
    exact ⟨skipping, kind, narrow, (same skipping _).mpr unclosed⟩

private theorem leftAlone_written_iff {policy : Policy} {opener closer call : Text} {rest : List Text}
    {parts : List Section} (kind : Alert.classify opener = .block)
    (closing : Block.closes (Alert.indentation opener).length closer = true)
    (valid : ∀ part ∈ parts, part.Valid) :
    LeftAlone policy call (rest ++ closingLine opener closer :: parts.flatMap (Section.written policy)) ↔
      LeftAlone policy call (rest ++ closer :: parts.flatMap Section.lines) := by
  apply leftAlone_congr
  rintro rfl width
  simp only [List.forall_mem_append, List.forall_mem_cons, closes_flatMap_written_iff valid,
    closes_closingLine_eq (Alert.isCall_of_block kind) closing]

/-- The lines written for a buffer are at rest exactly if the calls in the copied bodies are. -/
theorem resting_flatMap_written_iff {policy : Policy} {buffer : List Text}
    (going : ∀ part ∈ sections buffer, part.stops policy = false)
    (narrow : ∀ part ∈ sections buffer, part.Narrow) :
    Resting policy ((sections buffer).flatMap (Section.written policy)) ↔
      BodiesResting policy (sections buffer) := by
  fun_induction sections buffer with
  | case1 => exact Iff.rfl
  | case2 line rest kind ih =>
      have tail := ih (List.forall_mem_cons.mp going).2 (List.forall_mem_cons.mp narrow).2
      exact (resting_cons_of_inert (Alert.classify_eq_other_iff.mp kind)).trans
        (tail.trans (and_iff_right trivial).symm)
  | case3 line rest kind ih =>
      have tail := ih (List.forall_mem_cons.mp going).2 (List.forall_mem_cons.mp narrow).2
      exact (resting_cons_of_inert (isCall_replaceCall ..)).trans (tail.trans (and_iff_right trivial).symm)
  | case4 line rest kind body closer after cut shorter ih =>
      have tail := ih (List.forall_mem_cons.mp going).2 (List.forall_mem_cons.mp narrow).2
      obtain ⟨_, _, closing⟩ := cutAtCloser?_eq_some cut
      have copied : EachWithRest (fun call rest => LeftAlone policy call
            (rest ++ closingLine line closer :: (sections after).flatMap (Section.written policy))) body ↔
          Section.BodyResting policy (sections after) (.block line body closer) :=
        eachWithRest_congr (fun _ _ => leftAlone_written_iff kind closing (valid_sections after))
      calc Resting policy (openingLine line ::
              (body ++ [closingLine line closer] ++ (sections after).flatMap (Section.written policy)))
          ↔ Resting policy (body ++
              closingLine line closer :: (sections after).flatMap (Section.written policy)) := by
            rw [resting_cons_of_inert (isCall_openingLine line), List.append_assoc, List.singleton_append]
        _ ↔ _ ∧ Resting policy
              (closingLine line closer :: (sections after).flatMap (Section.written policy)) :=
            eachWithRest_append
        _ ↔ BodiesResting policy (.block line body closer :: sections after) := by
            rw [resting_cons_of_inert (isCall_closingLine line closer), tail, copied]
            exact Iff.rfl
  | case5 line rest kind missing ih =>
      obtain ⟨here, goingLater⟩ := List.forall_mem_cons.mp going
      obtain ⟨below, narrowLater⟩ := List.forall_mem_cons.mp narrow
      have tail := (ih goingLater narrowLater).trans (and_iff_right trivial).symm
      cases policy with
      | collapse =>
          exact (resting_cons_of_inert (isCall_openingLine line)).trans
            ((resting_cons_of_inert (isCall_closingLine line line)).trans tail)
      | error => cases here
      | skip =>
          have unclosed := cutAtCloser?_eq_none missing
          rw [← flatMap_lines_sections rest, ← closes_flatMap_written_iff (valid_sections rest)] at unclosed
          have alone : LeftAlone .skip line ((sections rest).flatMap (Section.written .skip)) :=
            fun _ => ⟨rfl, kind, below, unclosed⟩
          exact (and_iff_right alone).trans tail

end Edit

/-! ### The second migration -/

namespace Source

open Edit (sections BodiesResting Resting)

/-- A migration gives the source back, and says so. -/
def Stable (policy : Policy) (source : Text) : Prop :=
  ∃ outcome, (migrate policy source).result = .ok (source, outcome) ∧ outcome.changed = false

theorem stable_iff_resting {policy : Policy} {source : Text} :
    Stable policy source ↔ Resting policy source.splitLines := by
  constructor
  · rintro ⟨outcome, done, unchanged⟩
    obtain ⟨report, finished, _, rfl⟩ := exists_report_of_ok done
    apply Edit.resting_of_converted_eq_zero finished
    have none : ¬ 0 < report.converted := of_decide_eq_false unchanged
    omega
  · intro resting
    obtain ⟨report, finished, same, none, _⟩ := Edit.run_of_resting resting
    refine ⟨.ofReport report, ?_, ?_⟩
    · rw [result_migrate_of_ok finished, same, Text.flatten_splitLines]
    · change decide (0 < report.converted) = false
      rw [none]
      rfl

theorem changed_of_not_stable {policy : Policy} {source migrated : Text} {outcome : Outcome}
    (done : (migrate policy source).result = .ok (migrated, outcome)) (unstable : ¬ Stable policy source) :
    outcome.changed = true := by
  obtain ⟨report, finished, _, rfl⟩ := exists_report_of_ok done
  apply Bool.of_not_eq_false
  intro unchanged
  have none : ¬ 0 < report.converted := of_decide_eq_false unchanged
  apply unstable
  rw [stable_iff_resting]
  exact Edit.resting_of_converted_eq_zero finished (Nat.eq_zero_of_not_pos none)

/-- A migrated text is stable exactly if, in the source, every call in the body of a replaced tap block has
a tap block of its own that no later line closes, and such calls are skipped. -/
theorem stable_migrated_iff {policy : Policy} {source migrated : Text} {outcome : Outcome}
    (done : (migrate policy source).result = .ok (migrated, outcome)) :
    Stable policy migrated ↔ BodiesResting policy (sections source.splitLines) := by
  obtain ⟨report, finished, _, _⟩ := exists_report_of_ok done
  obtain ⟨going, _, lines, _⟩ := migrate_eq_of_ok done
  rw [stable_iff_resting, lines]
  exact Edit.resting_flatMap_written_iff going (Edit.narrow_sections_of_ok finished)

private theorem bodiesResting_sampleSource : BodiesResting .skip (sections sampleSource.splitLines) := by
  decide +kernel

theorem stable_migrated_iff_sample :
    ∃ migrated outcome, (migrate .skip sampleSource).result = .ok (migrated, outcome) ∧
      BodiesResting .skip (sections sampleSource.splitLines) ∧ Stable .skip migrated := by
  obtain ⟨migrated, outcome, done⟩ := migrate_skip_sampleSource
  have resting := bodiesResting_sampleSource
  exact ⟨migrated, outcome, done, resting, (stable_migrated_iff done).mpr resting⟩

def innerCall : Text :=
  "  [UIAlertView showWithTitle:t message:m cancelButtonTitle:c otherButtonTitles:o tapBlock:nil];\n".toList

def nestedSource : Text :=
  Edit.sampleCall [] ++ innerCall ++ "\x7d];\n".toList

theorem sections_nestedSource :
    sections nestedSource.splitLines =
      [.block (Edit.sampleCall []) [innerCall] "\x7d];\n".toList] := by
  decide +kernel

theorem exists_migrated_nestedSource (policy : Policy) :
    ∃ migrated outcome, (migrate policy nestedSource).result = .ok (migrated, outcome) := by
  apply exists_migrated_of_going
  · decide +kernel
  · rw [sections_nestedSource]
    exact List.forall_mem_singleton.mpr (Edit.stops_eq_false_of_closed rfl)

theorem exists_migrated_not_stable (policy : Policy) :
    ∃ migrated outcome, (migrate policy nestedSource).result = .ok (migrated, outcome) ∧
      ¬ Stable policy migrated := by
  obtain ⟨migrated, outcome, done⟩ := exists_migrated_nestedSource policy
  refine ⟨migrated, outcome, done, ?_⟩
  obtain ⟨_, _, lines, _⟩ := migrate_eq_of_ok done
  have present : migrated.splitLines[1]? = some innerCall := by
    rw [lines, sections_nestedSource]
    rfl
  have complete : Alert.classify innerCall = .inline := by decide +kernel
  intro stable
  have resting := stable_iff_resting.mp stable
  obtain ⟨_, leftOpen⟩ := resting.getElem? present (Alert.isCall_of_inline complete)
  rw [leftOpen.kind] at complete
  cases complete

/-- Under none of the policies are all migrated texts stable. -/
theorem migrated_not_stable :
    (∃ migrated outcome, (migrate .skip nestedSource).result = .ok (migrated, outcome) ∧
      ¬ Stable .skip migrated) ∧
    (∃ migrated outcome, (migrate .collapse nestedSource).result = .ok (migrated, outcome) ∧
      ¬ Stable .collapse migrated) ∧
    ∃ migrated outcome, (migrate .error nestedSource).result = .ok (migrated, outcome) ∧
      ¬ Stable .error migrated :=
  ⟨exists_migrated_not_stable .skip, exists_migrated_not_stable .collapse,
    exists_migrated_not_stable .error⟩

end Source

end AlertMigration
