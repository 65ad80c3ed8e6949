import AlertMigration.Proofs.LineStructure
import AlertMigration.Proofs.StoppedRuns

/-!
Lines that have no part in an edit.

A line is inert if it is no legacy call and closes no tap block. Main statement: two sources that differ in
inert lines only are migrated alike. They are divided into the same sections, up to the inert lines, so their
migrations report the same and stop at the same place; and each keeps its own inert lines where they were.
-/

namespace AlertMigration

namespace Edit

/-! ### Variants of a buffer -/

structure Inert (line : Text) : Prop where
  other : Alert.classify line = .other
  closesNothing : ∀ width, Block.closes width line = false

theorem inert_cons {c : Char} (solid : isBlank c = false) (noBracket : c ≠ '[') (noBrace : c ≠ '}')
    (rest : Text) : Inert (c :: rest) where
  other := Alert.classify_eq_other_iff.mpr (Alert.isCall_append_cons List.not_mem_nil solid noBracket rest)
  closesNothing :=
    Block.closes_append_of_ne (fun _ member => (List.not_mem_nil member).elim) solid noBrace rest

/-- Two lines are the same, as far as inert lines are told apart at all. -/
def Varies (line other : Text) : Prop :=
  line = other ∨ Inert line ∧ Inert other

namespace Varies

variable {line other : Text} (varies : Varies line other)

include varies

theorem classify_eq : Alert.classify other = Alert.classify line := by
  rcases varies with rfl | ⟨inert, otherInert⟩
  · rfl
  · rw [inert.other, otherInert.other]

theorem closes_eq (width : Nat) : Block.closes width other = Block.closes width line := by
  rcases varies with rfl | ⟨inert, otherInert⟩
  · rfl
  · rw [inert.closesNothing, otherInert.closesNothing]

theorem eq_of_call (kind : Alert.classify line ≠ .other) : line = other := by
  rcases varies with same | ⟨inert, _⟩
  · exact same
  · exact absurd inert.other kind

theorem eq_of_closes {width : Nat} (closing : Block.closes width line = true) : line = other := by
  rcases varies with same | ⟨inert, _⟩
  · exact same
  · rw [inert.closesNothing] at closing
    cases closing

end Varies

private theorem cutAtCloser?_varies {lines others : List Text} (varies : List.Forall₂ Varies lines others)
    (width : Nat) :
    Option.Rel
      (fun cut other => List.Forall₂ Varies cut.1 other.1 ∧ cut.2.1 = other.2.1 ∧
        List.Forall₂ Varies cut.2.2 other.2.2)
      (cutAtCloser? width lines) (cutAtCloser? width others) := by
  induction varies with
  | nil => exact .none
  | @cons line other lines others here later ih =>
      unfold cutAtCloser?
      rw [here.closes_eq]
      split
      · rename_i closing
        exact .some ⟨.nil, here.eq_of_closes closing, later⟩
      · generalize cutAtCloser? width lines = cut at ih ⊢
        generalize cutAtCloser? width others = otherCut at ih ⊢
        cases ih with
        | none => exact .none
        | some same => exact .some ⟨.cons here same.1, same.2⟩

/-! ### Variants of a section -/

inductive Alike : Section → Section → Prop
  | plain {line other : Text} (varies : Varies line other) : Alike (.plain line) (.plain other)
  | inline (line : Text) : Alike (.inline line) (.inline line)
  | block (line closer : Text) {body inner : List Text} (varies : List.Forall₂ Varies body inner) :
      Alike (.block line body closer) (.block line inner closer)
  | unclosed (line : Text) : Alike (.unclosed line) (.unclosed line)

theorem alike_sections {buffer others : List Text} (varies : List.Forall₂ Varies buffer others) :
    List.Forall₂ Alike (sections buffer) (sections others) := by
  fun_induction sections buffer generalizing others with
  | case1 =>
      cases varies
      rw [sections]
      exact .nil
  | case2 line rest kind ih =>
      cases varies with
      | cons here later =>
          rw [sections_plain (by rwa [here.classify_eq])]
          exact .cons (.plain here) (ih later)
  | case3 line rest kind ih =>
      cases varies with
      | cons here later =>
          have same := here.eq_of_call (by rw [kind]; decide)
          subst same
          rw [sections_inline kind]
          exact .cons (.inline line) (ih later)
  | case4 line rest kind body closer after cut shorter ih =>
      cases varies with
      | cons here later =>
          have same := here.eq_of_call (by rw [kind]; decide)
          subst same
          have cuts := cutAtCloser?_varies later (Alert.indentation line).length
          rw [cut] at cuts
          generalize otherCut : cutAtCloser? (Alert.indentation line).length _ = found at cuts
          cases cuts with
          | some related =>
              obtain ⟨bodies, closers, afters⟩ := related
              cases closers
              rw [sections_block kind otherCut]
              exact .cons (.block line _ bodies) (ih afters)
  | case5 line rest kind missing ih =>
      cases varies with
      | cons here later =>
          have same := here.eq_of_call (by rw [kind]; decide)
          subst same
          have cuts := cutAtCloser?_varies later (Alert.indentation line).length
          rw [missing] at cuts
          generalize otherCut : cutAtCloser? (Alert.indentation line).length _ = found at cuts
          cases cuts
          rw [sections_unclosed kind otherCut]
          exact .cons (.unclosed line) (ih later)

/-! ### Runs over variants -/

section Alike

variable {part other : Section} (alike : Alike part other)

include alike

theorem Alike.stops_eq (policy : Policy) : other.stops policy = part.stops policy := by
  cases alike <;> rfl

theorem Alike.enter_eq (policy : Policy) (index : Nat) (ledger : Ledger) :
    other.enter policy index ledger = part.enter policy index ledger := by
  cases alike with
  | block line closer varies => rw [Section.enter, Section.enter, varies.length_eq]
  | plain _ | inline _ | unclosed _ => rfl

theorem Alike.length_lines : part.lines.length = other.lines.length := by
  cases alike with
  | block line closer varies => simp [Section.lines, varies.length_eq]
  | plain _ | inline _ | unclosed _ => rfl

end Alike

theorem sweepSections_alike (policy : Policy) {parts others : List Section}
    (alike : List.Forall₂ Alike parts others) {emitted otherEmitted : List Text}
    (level : emitted.length = otherEmitted.length) (ledger : Ledger) :
    (sweepSections policy emitted ledger parts).verdict =
        (sweepSections policy otherEmitted ledger others).verdict ∧
      (sweepSections policy emitted ledger parts).ledger =
        (sweepSections policy otherEmitted ledger others).ledger := by
  induction alike generalizing emitted otherEmitted ledger with
  | nil => exact ⟨rfl, rfl⟩
  | @cons part other parts others here later ih =>
      cases stopping : part.stops policy with
      | true =>
          rw [sweepSections_of_stops stopping, sweepSections_of_stops (by rwa [here.stops_eq]), level]
          exact ⟨rfl, rfl⟩
      | false =>
          rw [sweepSections_of_not_stops stopping, sweepSections_of_not_stops (by rwa [here.stops_eq]),
            here.enter_eq, level]
          exact ih (by simp [level]) _

theorem run_varies {buffer others : List Text} (short : ∀ line ∈ buffer, line.length < Block.widthLimit)
    (othersShort : ∀ line ∈ others, line.length < Block.widthLimit) (policy : Policy)
    (varies : List.Forall₂ Varies buffer others) :
    (run policy buffer).result = (run policy others).result ∧
      (run policy buffer).log = (run policy others).log := by
  obtain ⟨verdicts, ledgers⟩ := sweepSections_alike policy (alike_sections varies) (Eq.refl [].length) .empty
  rw [run_eq_sweepSections_of_short short, run_eq_sweepSections_of_short othersShort]
  unfold Pass.toRun
  rw [verdicts, ledgers]
  exact ⟨rfl, rfl⟩

/-! ### The lines written for variants -/

/-- Two lines and what is written for them: the same for equal lines, and each line itself for lines that
differ. -/
def Tracks (lines written : Text × Text) : Prop :=
  (lines.1 = lines.2 → written.1 = written.2) ∧ (lines.1 ≠ lines.2 → written = lines)

private theorem tracks_self (lines : Text × Text) : Tracks lines lines :=
  ⟨id, fun _ => rfl⟩

private theorem tracks_same (line text : Text) : Tracks (line, line) (text, text) :=
  ⟨fun _ => rfl, fun different => absurd rfl different⟩

section Lenient

variable {policy : Policy} (lenient : policy ≠ .collapse)

include lenient

theorem tracks_written {part other : Section} (alike : Alike part other) :
    List.Forall₂ Tracks (part.lines.zip other.lines) ((part.written policy).zip (other.written policy)) := by
  cases alike with
  | plain varies => exact .cons (tracks_self _) .nil
  | inline line => exact .cons (tracks_same _ _) .nil
  | block line closer varies =>
      have level := varies.length_eq
      simp only [Section.lines, Section.written, List.zip_cons_cons, List.zip_append level]
      refine .cons (tracks_same _ _) (List.rel_append ?_ (.cons (tracks_same _ _) .nil))
      exact List.forall₂_same.mpr (fun pair _ => tracks_self pair)
  | unclosed line =>
      cases policy with
      | skip => exact .cons (tracks_self _) .nil
      | error => exact .cons (tracks_self _) .nil
      | collapse => exact absurd rfl lenient

theorem tracks_flatMap_written {parts others : List Section} (alike : List.Forall₂ Alike parts others) :
    List.Forall₂ Tracks ((parts.flatMap Section.lines).zip (others.flatMap Section.lines))
      ((parts.flatMap (Section.written policy)).zip (others.flatMap (Section.written policy))) := by
  induction alike with
  | nil => exact .nil
  | @cons part other parts others here later ih =>
      have level : (part.written policy).length = (other.written policy).length := by
        rw [length_written lenient, length_written lenient, here.length_lines]
      simp only [List.flatMap_cons, List.zip_append here.length_lines, List.zip_append level]
      exact List.rel_append (tracks_written lenient here) ih

end Lenient

theorem Tracks.getElem? {lines others written otherWritten : List Text}
    (tracks : List.Forall₂ Tracks (lines.zip others) (written.zip otherWritten))
    (level : lines.length = others.length) (kept : written.length = lines.length)
    (otherKept : otherWritten.length = others.length) (place : Nat) :
    (lines[place]? = others[place]? → written[place]? = otherWritten[place]?) ∧
      (lines[place]? ≠ others[place]? →
        written[place]? = lines[place]? ∧ otherWritten[place]? = others[place]?) := by
  rcases Nat.lt_or_ge place lines.length with within | beyond
  · obtain ⟨same, own⟩ := tracks.get (i := place) (by simp; omega) (by simp; omega)
    simp only [List.get_eq_getElem, List.getElem_zip, Prod.mk.injEq] at same own
    rw [List.getElem?_eq_getElem within, List.getElem?_eq_getElem (by omega),
      List.getElem?_eq_getElem (by omega), List.getElem?_eq_getElem (by omega)]
    simp only [Option.some_inj, ne_eq]
    exact ⟨same, own⟩
  · rw [List.getElem?_eq_none beyond, List.getElem?_eq_none (by omega), List.getElem?_eq_none (by omega),
      List.getElem?_eq_none (by omega)]
    exact ⟨fun _ => rfl, fun different => absurd rfl different⟩

end Edit

/-! ### Variants of a source -/

namespace Source

open Edit (Varies Inert)

/-- Two sources that differ in inert lines only are migrated alike: their migrations log the same, and either
stop at the same line or report the same. Unless calls are collapsed, the migrated texts then agree line by line
where the sources do, and keep each source's own line where they differ. -/
theorem inert_lines_irrelevant {policy : Policy} {source other : Text}
    (short : ∀ line ∈ source.splitLines, line.length < Block.widthLimit)
    (otherShort : ∀ line ∈ other.splitLines, line.length < Block.widthLimit)
    (varies : List.Forall₂ Varies source.splitLines other.splitLines) :
    (migrate policy source).log = (migrate policy other).log ∧
    ((∃ number, (migrate policy source).result = .error (.unterminatedBlock number) ∧
        (migrate policy other).result = .error (.unterminatedBlock number)) ∨
      ∃ migrated otherMigrated outcome, (migrate policy source).result = .ok (migrated, outcome) ∧
        (migrate policy other).result = .ok (otherMigrated, outcome) ∧
        (policy ≠ .collapse → ∀ place : Nat,
          (source.splitLines[place]? = other.splitLines[place]? →
            migrated.splitLines[place]? = otherMigrated.splitLines[place]?) ∧
          (source.splitLines[place]? ≠ other.splitLines[place]? →
            migrated.splitLines[place]? = source.splitLines[place]? ∧
              otherMigrated.splitLines[place]? = other.splitLines[place]?))) := by
  obtain ⟨results, logs⟩ := Edit.run_varies short otherShort policy varies
  refine ⟨logs, ?_⟩
  rcases Edit.result_cases_of_short short policy with ⟨report, finished⟩ | ⟨number, stopped⟩
  · have done := result_migrate_of_ok finished
    have otherDone := result_migrate_of_ok (results.symm.trans finished)
    refine Or.inr ⟨_, _, _, done, otherDone, fun lenient => ?_⟩
    obtain ⟨_, _, lines, _⟩ := migrate_eq_of_ok done
    obtain ⟨_, _, otherLines, _⟩ := migrate_eq_of_ok otherDone
    have tracks := Edit.tracks_flatMap_written lenient (Edit.alike_sections varies)
    have kept := Edit.length_flatMap_written lenient (Edit.sections source.splitLines)
    have otherKept := Edit.length_flatMap_written lenient (Edit.sections other.splitLines)
    rw [← lines, Edit.flatMap_lines_sections] at kept
    rw [← otherLines, Edit.flatMap_lines_sections] at otherKept
    rw [← lines, ← otherLines, Edit.flatMap_lines_sections, Edit.flatMap_lines_sections] at tracks
    exact Edit.Tracks.getElem? tracks varies.length_eq kept otherKept
  · exact Or.inl ⟨number, result_migrate_of_error stopped,
      result_migrate_of_error (results.symm.trans stopped)⟩

def variantSource (first : Char) : Text :=
  Edit.sampleCall [] ++ first :: "how();\n".toList ++ "\x7d];\n".toList ++ Edit.sampleCall " ".toList

theorem inert_lines_irrelevant_sample :
    (variantSource 's').splitLines ≠ (variantSource 'k').splitLines ∧
      List.Forall₂ Varies (variantSource 's').splitLines (variantSource 'k').splitLines ∧
      ∃ migrated otherMigrated outcome, (migrate .skip (variantSource 's')).result = .ok (migrated, outcome) ∧
        (migrate .skip (variantSource 'k')).result = .ok (otherMigrated, outcome) ∧
        migrated.splitLines[0]? = otherMigrated.splitLines[0]? ∧
        migrated.splitLines[1]? = (variantSource 's').splitLines[1]? ∧
        otherMigrated.splitLines[1]? = (variantSource 'k').splitLines[1]? := by
  obtain ⟨short, otherShort⟩ :
      (∀ line ∈ (variantSource 's').splitLines, line.length < Block.widthLimit) ∧
      ∀ line ∈ (variantSource 'k').splitLines, line.length < Block.widthLimit := by
    decide +kernel
  obtain ⟨lines, otherLines⟩ :
      (variantSource 's').splitLines = [Edit.sampleCall [], 's' :: "how();\n".toList, "\x7d];\n".toList,
        Edit.sampleCall " ".toList] ∧
      (variantSource 'k').splitLines = [Edit.sampleCall [], 'k' :: "how();\n".toList, "\x7d];\n".toList,
        Edit.sampleCall " ".toList] := by
    decide +kernel
  have varies : List.Forall₂ Varies (variantSource 's').splitLines (variantSource 'k').splitLines := by
    rw [lines, otherLines]
    have inner : Varies ('s' :: "how();\n".toList) ('k' :: "how();\n".toList) :=
      Or.inr ⟨Edit.inert_cons (by decide) (by decide) (by decide) _,
        Edit.inert_cons (by decide) (by decide) (by decide) _⟩
    exact .cons (.inl rfl) (.cons inner (.cons (.inl rfl) (.cons (.inl rfl) .nil)))
  have different : (variantSource 's').splitLines[1]? ≠ (variantSource 'k').splitLines[1]? := by
    rw [lines, otherLines]
    intro same
    cases same
  refine ⟨fun same => different (by rw [same]), varies, ?_⟩
  rcases (inert_lines_irrelevant short otherShort varies).2 with ⟨number, stopped, _⟩ | found
  · obtain ⟨_, _, done⟩ := exists_migrated_of_going short
      (fun part _ => Edit.stops_eq_false_of_lenient (show Policy.skip ≠ .error by decide) part)
    rw [done] at stopped
    cases stopped
  · obtain ⟨migrated, otherMigrated, outcome, done, otherDone, placed⟩ := found
    obtain ⟨first, _⟩ := placed (by decide) 0
    obtain ⟨_, own⟩ := placed (by decide) 1
    exact ⟨migrated, otherMigrated, outcome, done, otherDone, first (by rw [lines, otherLines]; rfl),
      own different⟩

end Source

end AlertMigration
