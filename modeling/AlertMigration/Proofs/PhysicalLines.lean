import AlertMigration.Text.Basic
import Mathlib.Data.List.Chain

/-!
Physical lines.

`Canonical` says of a list of lines that it can be the lines of a text: each line breaks only at its end,
each but the last has a terminator, and no terminator runs into the line after it. The lines of a text
are canonical (`canonical_splitLines`), and canonical lines are the lines of the text they make up
(`splitLines_flatten`). `IsDivision` says the same as `Canonical` by what a line consists of, without the
function that looks for its terminator.
-/

namespace AlertMigration.Text

/-! ### Lines and their terminators -/

def endings : List Text :=
  [[], ['\n'], ['\r'], ['\r', '\n']]

theorem isBreak_of_mem_endings : ∀ ending ∈ endings, ∀ c ∈ ending, isBreak c = true := by
  simp [endings, isBreak]

theorem isBlank_of_mem_endings : ∀ ending ∈ endings, ∀ c ∈ ending, isBlank c = true := by
  intro ending known c member
  have breaks := isBreak_of_mem_endings ending known c member
  rw [isBreak, Bool.or_eq_true, beq_iff_eq, beq_iff_eq] at breaks
  rcases breaks with rfl | rfl
  · decide
  · decide

def Unbroken (text : Text) : Prop :=
  ∀ c ∈ text, isBreak c = false

structure IsLine (line : Text) : Prop where
  nonempty : line ≠ []
  shape : ∃ content ending, line = content ++ ending ∧ Unbroken content ∧ ending ∈ endings

instance (text : Text) : Decidable (Unbroken text) :=
  List.decidableBAll (fun c => isBreak c = false) text

theorem unbroken_nil : Unbroken [] :=
  fun _ member => (List.not_mem_nil member).elim

theorem unbroken_append {first second : Text} :
    Unbroken (first ++ second) ↔ Unbroken first ∧ Unbroken second :=
  List.forall_mem_append

theorem unbroken_of_subset {text part : Text} (subset : part ⊆ text) (unbroken : Unbroken text) :
    Unbroken part :=
  fun c member => unbroken c (subset member)

private theorem terminator_append {content ending : Text} (unbroken : Unbroken content)
    (known : ending ∈ endings) : terminator (content ++ ending) = ending := by
  have lastPlain : ∀ c ∈ content.reverse.head?, c ≠ '\n' ∧ c ≠ '\r' := by
    intro c atEnd
    have plain := unbroken c (List.mem_reverse.mp (List.mem_of_mem_head? atEnd))
    rw [isBreak, Bool.or_eq_false_iff] at plain
    exact ⟨ne_of_beq_false plain.1, ne_of_beq_false plain.2⟩
  unfold terminator
  rw [List.reverse_append]
  generalize content.reverse = back at lastPlain
  simp only [endings, List.mem_cons, List.not_mem_nil, or_false] at known
  cases back with
  | nil => rcases known with rfl | rfl | rfl | rfl <;> rfl
  | cons c back =>
      obtain ⟨noFeed, noReturn⟩ := lastPlain c rfl
      rcases known with rfl | rfl | rfl | rfl
      · simp only [List.reverse_nil, List.nil_append]
        split <;> simp_all
      · simp only [List.reverse_singleton, List.singleton_append]
        split <;> simp_all
      · simp only [List.reverse_singleton, List.singleton_append]
      · rfl

theorem terminator_mem_endings (line : Text) : terminator line ∈ endings := by
  unfold terminator
  split <;> simp [endings]

theorem IsLine.split {line : Text} (isLine : IsLine line) :
    ∃ content, line = content ++ terminator line ∧ Unbroken content := by
  obtain ⟨content, ending, rfl, unbroken, known⟩ := isLine.shape
  exact ⟨content, by rw [terminator_append unbroken known], unbroken⟩

/-- One line can be followed by the other: it has a terminator, and a carriage return does not meet a line
feed. -/
structure Follows (line next : Text) : Prop where
  terminated : terminator line ≠ []
  apart : terminator line = ['\r'] → next.head? ≠ some '\n'

structure Canonical (lines : List Text) : Prop where
  isLine : ∀ line ∈ lines, IsLine line
  chained : lines.IsChain Follows

theorem canonical_append {first second : List Text} :
    Canonical (first ++ second) ↔ Canonical first ∧ Canonical second ∧
      ∀ line ∈ first.getLast?, ∀ next ∈ second.head?, Follows line next := by
  constructor
  · intro whole
    obtain ⟨chainFirst, chainSecond, boundary⟩ := List.isChain_append.mp whole.chained
    exact ⟨⟨fun line member => whole.isLine line (List.mem_append_left _ member), chainFirst⟩,
      ⟨fun line member => whole.isLine line (List.mem_append_right _ member), chainSecond⟩, boundary⟩
  · rintro ⟨canonicalFirst, canonicalSecond, boundary⟩
    exact ⟨List.forall_mem_append.mpr ⟨canonicalFirst.isLine, canonicalSecond.isLine⟩,
      List.isChain_append.mpr ⟨canonicalFirst.chained, canonicalSecond.chained, boundary⟩⟩

private theorem canonical_nil : Canonical [] :=
  ⟨fun _ member => (List.not_mem_nil member).elim, List.IsChain.nil⟩

theorem canonical_cons {line : Text} {rest : List Text} :
    Canonical (line :: rest) ↔ IsLine line ∧ Canonical rest ∧ ∀ next ∈ rest.head?, Follows line next := by
  constructor
  · intro whole
    obtain ⟨boundary, chained⟩ := List.isChain_cons.mp whole.chained
    obtain ⟨isLine, others⟩ := List.forall_mem_cons.mp whole.isLine
    exact ⟨isLine, ⟨others, chained⟩, boundary⟩
  · rintro ⟨isLine, canonical, boundary⟩
    exact ⟨List.forall_mem_cons.mpr ⟨isLine, canonical.isLine⟩,
      List.isChain_cons.mpr ⟨boundary, canonical.chained⟩⟩

/-! ### The lines of a text are canonical -/

private theorem head?_flatten_of_isLine {lines : List Text} (isLine : ∀ line ∈ lines, IsLine line) :
    lines.flatten.head? = lines.head?.bind List.head? := by
  cases lines with
  | nil => rfl
  | cons line rest =>
      have nonempty := (isLine line List.mem_cons_self).nonempty
      rw [List.flatten_cons, List.head?_append_of_ne_nil _ nonempty]
      rfl

theorem Canonical.cons_char {c : Char} {line : Text} {lines : List Text} (plain : isBreak c = false)
    (canonical : Canonical (line :: lines)) : Canonical ((c :: line) :: lines) := by
  obtain ⟨isLine, others, boundary⟩ := canonical_cons.mp canonical
  obtain ⟨content, whole, unbroken⟩ := isLine.split
  have longer : Unbroken (c :: content) := List.forall_mem_cons.mpr ⟨plain, unbroken⟩
  have known := terminator_mem_endings line
  have extended : c :: line = (c :: content) ++ terminator line := by
    rw [List.cons_append, ← whole]
  have sameEnd : terminator (c :: line) = terminator line := by
    rw [extended, terminator_append longer known]
  refine canonical_cons.mpr ⟨⟨List.cons_ne_nil _ _, _, _, extended, longer, known⟩, others, ?_⟩
  intro next first
  obtain ⟨terminated, apart⟩ := boundary next first
  exact ⟨by rwa [sameEnd], by rwa [sameEnd]⟩

theorem Canonical.cons_ending {ending : Text} {lines : List Text} (known : ending ∈ endings)
    (nonempty : ending ≠ []) (apart : ending = ['\r'] → lines.flatten.head? ≠ some '\n')
    (canonical : Canonical lines) : Canonical (ending :: lines) := by
  have sameEnd : terminator ending = ending := terminator_append unbroken_nil known
  refine canonical_cons.mpr ⟨⟨nonempty, [], ending, rfl, unbroken_nil, known⟩, canonical, ?_⟩
  intro next first
  refine ⟨by rwa [sameEnd], ?_⟩
  rw [sameEnd]
  intro lone feed
  apply apart lone
  rw [head?_flatten_of_isLine canonical.isLine, first]
  exact feed

theorem canonical_splitLines (text : Text) : Canonical (splitLines text) := by
  fun_induction splitLines text with
  | case1 => exact canonical_nil
  | case2 rest ih =>
      exact ih.cons_ending (by simp [endings]) (List.cons_ne_nil _ _) (fun lone => by cases lone)
  | case3 c rest noPair broken ih =>
      have known : [c] ∈ endings := by
        rw [isBreak, Bool.or_eq_true, beq_iff_eq, beq_iff_eq] at broken
        rcases broken with rfl | rfl <;> simp [endings]
      refine ih.cons_ending known (List.cons_ne_nil _ _) ?_
      intro lone feed
      rw [flatten_splitLines] at feed
      obtain ⟨tail, opened⟩ := List.head?_eq_some_iff.mp feed
      exact noPair tail (List.singleton_inj.mp lone) opened
  | case4 c rest _ plain empty ih =>
      have unbroken : Unbroken [c] := by simpa [Unbroken] using plain
      refine canonical_cons.mpr ⟨⟨List.cons_ne_nil _ _, [c], [], rfl, unbroken, by simp [endings]⟩,
        canonical_nil, fun _ first => by cases first⟩
  | case5 c rest _ plain line lines split ih =>
      rw [split] at ih
      exact ih.cons_char (Bool.eq_false_iff.mpr plain)

/-! ### Canonical lines are the lines of their text -/

theorem splitLines_cons_of_plain {c : Char} (plain : isBreak c = false) (rest : Text) :
    splitLines (c :: rest) =
      match splitLines rest with
      | [] => [[c]]
      | line :: lines => (c :: line) :: lines := by
  have noReturn : c ≠ '\r' := by
    rw [isBreak, Bool.or_eq_false_iff] at plain
    exact ne_of_beq_false plain.2
  exact (splitLines.eq_3 c rest (fun _ same _ => noReturn same)).trans
    (if_neg (ne_true_of_eq_false plain))

private theorem splitLines_unbroken {content : Text} (unbroken : Unbroken content) (nonempty : content ≠ []) :
    splitLines content = [content] := by
  induction content with
  | nil => exact absurd rfl nonempty
  | cons c content ih =>
      obtain ⟨plain, later⟩ := List.forall_mem_cons.mp unbroken
      rw [splitLines_cons_of_plain plain]
      cases content with
      | nil => rw [splitLines]
      | cons next content => rw [ih later (List.cons_ne_nil _ _)]

private theorem splitLines_unbroken_append {content rest line : Text} {lines : List Text}
    (unbroken : Unbroken content) (split : splitLines rest = line :: lines) :
    splitLines (content ++ rest) = (content ++ line) :: lines := by
  induction content with
  | nil => exact split
  | cons c content ih =>
      obtain ⟨plain, later⟩ := List.forall_mem_cons.mp unbroken
      rw [List.cons_append, splitLines_cons_of_plain plain, ih later]
      rfl

private theorem splitLines_ending_append {ending rest : Text} (known : ending ∈ endings)
    (nonempty : ending ≠ []) (apart : ending = ['\r'] → rest.head? ≠ some '\n') :
    splitLines (ending ++ rest) = ending :: splitLines rest := by
  simp only [endings, List.mem_cons, List.not_mem_nil, or_false] at known
  rcases known with rfl | rfl | rfl | rfl
  · exact absurd rfl nonempty
  · rw [List.singleton_append, splitLines.eq_3 _ _ (fun _ same _ => by cases same)]
    rfl
  · rw [List.singleton_append, splitLines.eq_3 _ _ (fun tail _ opened => apart rfl (by rw [opened]; rfl))]
    rfl
  · rw [List.cons_append, List.singleton_append, splitLines]

theorem splitLines_flatten {lines : List Text} (canonical : Canonical lines) :
    splitLines lines.flatten = lines := by
  induction lines with
  | nil => rw [List.flatten_nil, splitLines]
  | cons line rest ih =>
      obtain ⟨isLine, others, boundary⟩ := canonical_cons.mp canonical
      obtain ⟨content, whole, unbroken⟩ := isLine.split
      by_cases terminated : terminator line = []
      · have last : rest = [] := by
          cases rest with
          | nil => rfl
          | cons next more => exact absurd terminated (boundary next rfl).terminated
        rw [terminated, List.append_nil] at whole
        rw [last, List.flatten_cons, List.flatten_nil, List.append_nil]
        exact splitLines_unbroken (by rwa [whole]) isLine.nonempty
      · have apart : terminator line = ['\r'] → rest.flatten.head? ≠ some '\n' := by
          intro lone feed
          rw [head?_flatten_of_isLine others.isLine] at feed
          obtain ⟨next, first, opened⟩ := Option.bind_eq_some_iff.mp feed
          exact (boundary next first).apart lone opened
        have ended := splitLines_ending_append (terminator_mem_endings line) terminated apart
        calc splitLines (line :: rest).flatten
            = splitLines (content ++ (terminator line ++ rest.flatten)) := by
              rw [List.flatten_cons, ← List.append_assoc, ← whole]
          _ = (content ++ terminator line) :: splitLines rest.flatten :=
              splitLines_unbroken_append unbroken ended
          _ = line :: rest := by rw [← whole, ih others]

/-! ### The only division of a text -/

structure Splits (line content ending : Text) : Prop where
  whole : line = content ++ ending
  unbroken : Unbroken content
  known : ending ∈ endings

/-- Lines that can follow one another in a text: each but the last has a terminator, and a carriage return at the end
of a line is not half of a pair. -/
structure IsDivision (lines : List Text) : Prop where
  nonempty : ∀ line ∈ lines, line ≠ []
  splits : ∀ line ∈ lines, ∃ content ending, Splits line content ending
  terminated : ∀ line ∈ lines.dropLast, ∃ content ending, Splits line content ending ∧ ending ≠ []
  apart : lines.IsChain fun line next => ∀ content, Splits line content ['\r'] → next.head? ≠ some '\n'

theorem Splits.terminator_eq {line content ending : Text} (splits : Splits line content ending) :
    terminator line = ending := by
  rw [splits.whole, terminator_append splits.unbroken splits.known]

private theorem splits_terminator {line : Text} (isLine : IsLine line) :
    ∃ content, Splits line content (terminator line) := by
  obtain ⟨content, whole, unbroken⟩ := isLine.split
  exact ⟨content, whole, unbroken, terminator_mem_endings line⟩

theorem isLine_iff_splits {line : Text} :
    IsLine line ↔ line ≠ [] ∧ ∃ content ending, Splits line content ending := by
  constructor
  · rintro ⟨nonempty, content, ending, whole, unbroken, known⟩
    exact ⟨nonempty, content, ending, whole, unbroken, known⟩
  · rintro ⟨nonempty, content, ending, whole, unbroken, known⟩
    exact ⟨nonempty, content, ending, whole, unbroken, known⟩

private theorem follows_iff {line next : Text} (isLine : IsLine line) :
    Follows line next ↔ (∃ content ending, Splits line content ending ∧ ending ≠ []) ∧
      ∀ content, Splits line content ['\r'] → next.head? ≠ some '\n' := by
  obtain ⟨content, splits⟩ := splits_terminator isLine
  constructor
  · rintro ⟨terminated, apart⟩
    exact ⟨⟨content, terminator line, splits, terminated⟩, fun _ lone => apart lone.terminator_eq⟩
  · rintro ⟨⟨_, ending, ended, terminated⟩, apart⟩
    refine ⟨by rwa [ended.terminator_eq], ?_⟩
    intro lone
    rw [lone] at splits
    exact apart content splits

private theorem isChain_follows_iff {lines : List Text} (isLine : ∀ line ∈ lines, IsLine line) :
    lines.IsChain Follows ↔
      (∀ line ∈ lines.dropLast, ∃ content ending, Splits line content ending ∧ ending ≠ []) ∧
      lines.IsChain fun line next => ∀ content, Splits line content ['\r'] → next.head? ≠ some '\n' := by
  induction lines with
  | nil => exact iff_of_true .nil ⟨List.forall_mem_nil _, .nil⟩
  | cons line rest ih =>
      obtain ⟨here, others⟩ := List.forall_mem_cons.mp isLine
      cases rest with
      | nil => exact iff_of_true (.singleton line) ⟨List.forall_mem_nil _, .singleton line⟩
      | cons next rest =>
          rw [List.isChain_cons_cons, List.isChain_cons_cons, List.dropLast_cons_cons, List.forall_mem_cons,
            follows_iff here, ih others, and_and_and_comm]

theorem isDivision_iff_canonical {lines : List Text} : IsDivision lines ↔ Canonical lines := by
  constructor
  · rintro ⟨nonempty, splits, terminated, apart⟩
    have isLine : ∀ line ∈ lines, IsLine line :=
      fun line member => isLine_iff_splits.mpr ⟨nonempty line member, splits line member⟩
    exact ⟨isLine, (isChain_follows_iff isLine).mpr ⟨terminated, apart⟩⟩
  · rintro ⟨isLine, chained⟩
    obtain ⟨terminated, apart⟩ := (isChain_follows_iff isLine).mp chained
    exact ⟨fun line member => (isLine line member).nonempty,
      fun line member => (isLine_iff_splits.mp (isLine line member)).2, terminated, apart⟩

/-- The lines of a text make up the text, and they are its only division. The terminator of a line is what follows the
content in it. -/
theorem splitLines_unique (text : Text) :
    (splitLines text).flatten = text ∧
    (∀ lines : List Text, lines.flatten = text ∧ IsDivision lines ↔ lines = splitLines text) ∧
    ∀ line ∈ splitLines text, (∃ content, Splits line content (terminator line)) ∧
      ∀ content ending, Splits line content ending → terminator line = ending := by
  have canonical := canonical_splitLines text
  refine ⟨flatten_splitLines text, ?_, ?_⟩
  · intro lines
    rw [isDivision_iff_canonical]
    constructor
    · rintro ⟨rfl, divided⟩
      exact (splitLines_flatten divided).symm
    · rintro rfl
      exact ⟨flatten_splitLines text, canonical⟩
  · intro line member
    exact ⟨splits_terminator (canonical.isLine line member), fun _ _ splits => splits.terminator_eq⟩

/-- A lone carriage return, a pair, a line separator that breaks nothing, and no terminator at the end. -/
theorem splitLines_unique_sample :
    ([['a', '\r'], ['\r', '\n'], ['\n'], ['b', '\u2028', 'c']].flatten =
        ['a', '\r', '\r', '\n', '\n', 'b', '\u2028', 'c'] ∧
      IsDivision [['a', '\r'], ['\r', '\n'], ['\n'], ['b', '\u2028', 'c']]) ∧
    terminator ['\r', '\n'] = ['\r', '\n'] := by
  have split : splitLines ['a', '\r', '\r', '\n', '\n', 'b', '\u2028', 'c'] =
      [['a', '\r'], ['\r', '\n'], ['\n'], ['b', '\u2028', 'c']] := by
    decide +kernel
  obtain ⟨_, unique, ended⟩ := splitLines_unique ['a', '\r', '\r', '\n', '\n', 'b', '\u2028', 'c']
  refine ⟨(unique _).mpr split.symm, ?_⟩
  rw [split] at ended
  exact (ended ['\r', '\n'] (by simp)).2 [] _ ⟨rfl, unbroken_nil, by simp [endings]⟩

/-! ### Writing lines anew -/

structure EndsIn (ending text : Text) : Prop where
  known : ending ∈ endings
  shape : ∃ content, text = content ++ ending ∧ content ≠ [] ∧ Unbroken content

namespace EndsIn

variable {ending text : Text}

theorem isLine (ends : EndsIn ending text) : IsLine text := by
  obtain ⟨content, rfl, nonempty, unbroken⟩ := ends.shape
  exact ⟨List.append_ne_nil_of_left_ne_nil nonempty _, content, ending, rfl, unbroken, ends.known⟩

theorem terminator_eq (ends : EndsIn ending text) : terminator text = ending := by
  obtain ⟨content, rfl, _, unbroken⟩ := ends.shape
  exact terminator_append unbroken ends.known

theorem head?_ne (ends : EndsIn ending text) : text.head? ≠ some '\n' := by
  obtain ⟨content, rfl, nonempty, unbroken⟩ := ends.shape
  rw [List.head?_append_of_ne_nil _ nonempty]
  intro feed
  have broken := unbroken '\n' (List.mem_of_mem_head? feed)
  cases broken

end EndsIn

theorem Canonical.replace {front back : List Text} {line text : Text}
    (canonical : Canonical (front ++ line :: back)) (ends : EndsIn (terminator line) text) :
    Canonical (front ++ text :: back) := by
  obtain ⟨before, rest, boundary⟩ := canonical_append.mp canonical
  obtain ⟨_, after, onward⟩ := canonical_cons.mp rest
  refine canonical_append.mpr ⟨before, canonical_cons.mpr ⟨ends.isLine, after, ?_⟩, ?_⟩
  · intro next first
    obtain ⟨terminated, apart⟩ := onward next first
    exact ⟨by rwa [ends.terminator_eq], by rwa [ends.terminator_eq]⟩
  · intro last atEnd next first
    cases first
    exact ⟨(boundary last atEnd line rfl).terminated, fun _ => ends.head?_ne⟩

theorem Canonical.insert {front back : List Text} {ending line text : Text}
    (canonical : Canonical (front ++ line :: back)) (ends : EndsIn ending text) (terminated : ending ≠ [])
    (noFeed : line.head? ≠ some '\n') : Canonical (front ++ text :: line :: back) := by
  obtain ⟨before, rest, boundary⟩ := canonical_append.mp canonical
  refine canonical_append.mpr ⟨before, canonical_cons.mpr ⟨ends.isLine, rest, ?_⟩, ?_⟩
  · intro next first
    cases first
    exact ⟨by rwa [ends.terminator_eq], fun _ => noFeed⟩
  · intro last atEnd next first
    cases first
    exact ⟨(boundary last atEnd line rfl).terminated, fun _ => ends.head?_ne⟩

theorem IsLine.unbroken_before {line front back : Text} {c : Char} (isLine : IsLine line)
    (whole : line = front ++ c :: back) (plain : isBreak c = false) : Unbroken front := by
  obtain ⟨content, ending, split, unbroken, known⟩ := isLine.shape
  rw [whole] at split
  rcases List.append_eq_append_iff.mp split with ⟨inner, contentEq, _⟩ | ⟨inner, _, endingEq⟩
  · rw [contentEq, unbroken_append] at unbroken
    exact unbroken.1
  · exfalso
    have member : c ∈ ending := by rw [endingEq]; simp
    rw [isBreak_of_mem_endings ending known c member] at plain
    cases plain

end AlertMigration.Text
