import AlertMigration.Proofs.WrittenLines

/-!
A migration keeps the physical lines of a source in their places.

Unless an unclosed call is collapsed, every section is written in as many physical lines as it was read
from, each with the terminator of the line it takes the place of, and only the call and the closing line
of a section are written anew. The same then holds of the migrated text as a whole.
-/

namespace AlertMigration

open Text (Canonical)

namespace Edit

/-! ### The lines of one section -/

/-- The places of the lines in a section that are written anew: the call that is replaced, and the line
that closes its tap block. -/
def Section.rewrittenAt : Section → List Nat
  | .plain _ | .unclosed _ => []
  | .inline _ => [0]
  | .block _ body _ => [0, body.length + 1]

section Lenient

variable {policy : Policy} (lenient : policy ≠ .collapse)

include lenient

theorem length_written (part : Section) : (part.written policy).length = part.lines.length := by
  cases part with
  | plain line => rfl
  | inline line => rfl
  | block line body closer => simp [Section.written, Section.lines]
  | unclosed line =>
      cases policy with
      | skip => rfl
      | error => rfl
      | collapse => exact absurd rfl lenient

theorem map_terminator_written {part : Section} (canonical : Canonical part.lines) :
    (part.written policy).map Text.terminator = part.lines.map Text.terminator := by
  cases part with
  | plain line => rfl
  | inline line =>
      have lineIs := canonical.isLine line List.mem_cons_self
      simp only [Section.written, Section.lines, List.map_cons, List.map_nil,
        (endsIn_replaceCall_none lineIs).terminator_eq]
  | block line body closer =>
      have lineIs := canonical.isLine line List.mem_cons_self
      have closerIs := canonical.isLine closer (by simp [Section.lines])
      have terminated := terminated_of_canonical_block canonical
      simp only [Section.written, Section.lines, List.map_cons, List.map_append, List.map_nil,
        (endsIn_openingLine lineIs).terminator_eq, (endsIn_closingLine lineIs closerIs).terminator_eq,
        blockNewline_eq terminated]
  | unclosed line =>
      cases policy with
      | skip => rfl
      | error => rfl
      | collapse => exact absurd rfl lenient

private theorem getElem?_written {part : Section} {place : Nat} (kept : place ∉ part.rewrittenAt) :
    (part.written policy)[place]? = part.lines[place]? := by
  cases part with
  | plain line => rfl
  | inline line =>
      cases place with
      | zero => exact absurd List.mem_cons_self kept
      | succ place => rfl
  | block line body closer =>
      cases place with
      | zero => exact absurd List.mem_cons_self kept
      | succ place =>
          have inside : place ≠ body.length := by
            intro same
            exact kept (by simp [Section.rewrittenAt, same])
          simp only [Section.written, Section.lines, List.getElem?_cons_succ]
          rcases Nat.lt_or_ge place body.length with before | beyond
          · rw [List.getElem?_append_left before, List.getElem?_append_left before]
          · rw [List.getElem?_eq_none (by simp; omega), List.getElem?_eq_none (by simp; omega)]
  | unclosed line =>
      cases policy with
      | skip => rfl
      | error => rfl
      | collapse => exact absurd rfl lenient

/-! ### The lines of all sections -/

theorem length_flatMap_written (parts : List Section) :
    (parts.flatMap (Section.written policy)).length = (parts.flatMap Section.lines).length := by
  induction parts with
  | nil => rfl
  | cons part rest ih =>
      rw [List.flatMap_cons, List.flatMap_cons, List.length_append, List.length_append, ih,
        length_written lenient]

theorem map_terminator_flatMap_written {parts : List Section}
    (canonical : Canonical (parts.flatMap Section.lines)) :
    (parts.flatMap (Section.written policy)).map Text.terminator =
      (parts.flatMap Section.lines).map Text.terminator := by
  induction parts with
  | nil => rfl
  | cons part rest ih =>
      rw [List.flatMap_cons] at canonical ⊢
      obtain ⟨here, later, _⟩ := Text.canonical_append.mp canonical
      rw [List.flatMap_cons, List.map_append, List.map_append, ih later, map_terminator_written lenient here]

theorem getElem?_flatMap_written {parts : List Section} {place : Nat}
    (kept : ∀ before part after, parts = before ++ part :: after → ∀ inner ∈ part.rewrittenAt,
      place ≠ (before.flatMap Section.lines).length + inner) :
    (parts.flatMap (Section.written policy))[place]? = (parts.flatMap Section.lines)[place]? := by
  induction parts generalizing place with
  | nil => rfl
  | cons part rest ih =>
      have sameLength := length_written lenient part
      rw [List.flatMap_cons, List.flatMap_cons]
      rcases Nat.lt_or_ge place part.lines.length with within | beyond
      · rw [List.getElem?_append_left within, List.getElem?_append_left (by omega)]
        apply getElem?_written lenient
        intro rewritten
        exact kept [] part rest rfl place rewritten (Nat.zero_add place).symm
      · rw [List.getElem?_append_right beyond, List.getElem?_append_right (by omega), sameLength]
        apply ih
        intro before other after divided inner rewritten same
        apply kept (part :: before) other after (by rw [divided]; rfl) inner rewritten
        rw [List.flatMap_cons, List.length_append]
        omega

end Lenient

theorem getElem?_block_body (front back body : List Text) (first last : Text) {inner : Nat}
    (inside : inner < body.length) :
    (front ++ (first :: (body ++ [last]) ++ back))[front.length + (inner + 1)]? = body[inner]? := by
  rw [List.getElem?_append_right (by omega), Nat.add_sub_cancel_left, List.cons_append,
    List.getElem?_cons_succ, List.append_assoc, List.getElem?_append_left inside]

end Edit

/-! ### The lines of a source -/

namespace Source

open Edit (Section sections)

/-- A line is written anew: it is a call that is replaced, or closes the tap block of one. -/
def RewrittenAt (lines : List Text) (place : Nat) : Prop :=
  ∃ before part after, sections lines = before ++ part :: after ∧
    ∃ inner ∈ part.rewrittenAt, place = (before.flatMap Section.lines).length + inner

/-- A migration that collapses nothing leaves each physical line of its source in its place, with its
terminator, and as it was unless it is written anew; the body of a tap block is never touched. What is
written anew is told by the sections, by which the whole buffer is edited. -/
theorem migrate_keeps_lines {policy : Policy} {source migrated : Text} {outcome : Outcome}
    (lenient : policy ≠ .collapse)
    (done : (migrate policy source).result = .ok (migrated, outcome)) :
    migrated = ((sections source.splitLines).map (Section.emit policy)).flatten ∧
    migrated.splitLines.length = source.splitLines.length ∧
    (∀ place : Nat, migrated.splitLines[place]?.map Text.terminator =
      source.splitLines[place]?.map Text.terminator) ∧
    (∀ place : Nat, ¬ RewrittenAt source.splitLines place →
      migrated.splitLines[place]? = source.splitLines[place]?) ∧
    ∀ before line body closer after,
      sections source.splitLines = before ++ .block line body closer :: after →
      ∀ inner < body.length,
        source.splitLines[(before.flatMap Section.lines).length + (inner + 1)]? = body[inner]? ∧
        migrated.splitLines[(before.flatMap Section.lines).length + (inner + 1)]? = body[inner]? := by
  obtain ⟨_, joined, lines, _⟩ := migrate_eq_of_ok done
  have whole := Edit.flatMap_lines_sections source.splitLines
  have canonical := Text.canonical_splitLines source
  refine ⟨joined, ?_, ?_, ?_, ?_⟩
  · rw [lines, Edit.length_flatMap_written lenient, whole]
  · intro place
    have sameEnds := Edit.map_terminator_flatMap_written lenient (by rwa [whole])
    rw [whole, ← lines] at sameEnds
    rw [← List.getElem?_map, ← List.getElem?_map, sameEnds]
  · intro place kept
    have same := Edit.getElem?_flatMap_written lenient
      (fun before part after divided inner rewritten atPlace =>
        kept ⟨before, part, after, divided, inner, rewritten, atPlace⟩)
    rwa [whole, ← lines] at same
  · intro before line body closer after divided inner inside
    have sourceLines : source.splitLines = before.flatMap Section.lines ++
        (line :: (body ++ [closer]) ++ after.flatMap Section.lines) := by
      rw [← whole, divided, List.flatMap_append, List.flatMap_cons]
      rfl
    have migratedLines : migrated.splitLines = before.flatMap (Section.written policy) ++
        (Edit.openingLine line :: (body ++ [Edit.closingLine line closer])
          ++ after.flatMap (Section.written policy)) := by
      rw [lines, divided, List.flatMap_append, List.flatMap_cons]
      rfl
    constructor
    · rw [sourceLines]
      exact Edit.getElem?_block_body _ _ _ _ _ inside
    · rw [migratedLines, ← Edit.length_flatMap_written lenient before]
      exact Edit.getElem?_block_body _ _ _ _ _ inside

theorem migrate_keeps_lines_sample :
    ∃ migrated outcome, (migrate .skip sampleSource).result = .ok (migrated, outcome) ∧
      migrated = ((sections sampleSource.splitLines).map (Section.emit .skip)).flatten ∧
      migrated.splitLines.length = sampleSource.splitLines.length ∧
      (∀ place : Nat, migrated.splitLines[place]?.map Text.terminator =
        sampleSource.splitLines[place]?.map Text.terminator) ∧
      ∀ place : Nat, ¬ RewrittenAt sampleSource.splitLines place →
        migrated.splitLines[place]? = sampleSource.splitLines[place]? := by
  obtain ⟨migrated, outcome, done⟩ := migrate_skip_sampleSource
  obtain ⟨joined, sameLength, sameEnds, kept, _⟩ := migrate_keeps_lines (by decide) done
  exact ⟨migrated, outcome, done, joined, sameLength, sameEnds, kept⟩

end Source

end AlertMigration
