import AlertMigration.Proofs.ArgumentMarkers
import AlertMigration.Proofs.CallAccounting

/-!
The language of legacy calls.

A legacy call is a line that falls into blanks, the opening of the call and the labels in order, with a gap
before each label. The search for the labels tries every place for each of them, and so finds such a division
whenever there is one (`followsLabels_iff`). Where no line feed stands before the last character, all gaps are
allowed, and it is enough to look for the leftmost occurrence of each label (`takesLeftmost_iff`).
-/

namespace AlertMigration

namespace Text

private theorem indexOf?_of_prefix {needle text : Text} (opens : needle <+: text) :
    indexOf? needle text = some 0 := by
  cases text with
  | nil => exact if_pos (List.isEmpty_iff.mpr (List.prefix_nil.mp opens))
  | cons c rest => exact if_pos (List.isPrefixOf_iff_prefix.mpr opens)

theorem indexOf?_le {needle front back : Text} {position : Nat}
    (found : indexOf? needle (front ++ (needle ++ back)) = some position) : position ≤ front.length := by
  induction front generalizing position with
  | nil =>
      rw [List.nil_append, indexOf?_of_prefix (List.prefix_append needle back)] at found
      cases found
      exact Nat.le_refl 0
  | cons c front ih =>
      rw [List.cons_append, indexOf?] at found
      split at found
      · cases found
        exact Nat.zero_le _
      · obtain ⟨later, restFound, rfl⟩ := Option.map_eq_some_iff.mp found
        exact Nat.succ_le_succ (ih restFound)

theorem notMem_dropLast_of_append {front rest : Text} {c : Char}
    (absent : c ∉ (front ++ rest).dropLast) : c ∉ rest.dropLast := by
  cases rest with
  | nil => exact List.not_mem_nil
  | cons d rest =>
      rw [List.dropLast_append_of_ne_nil (List.cons_ne_nil d rest), List.mem_append, not_or] at absent
      exact absent.2

end Text

namespace Alert

/-! ### Labels with gaps -/

/-- What may stand before a label: a stretch without a line feed, or blanks. -/
def IsGap (gap : Text) : Prop :=
  '\n' ∉ gap ∨ ∀ c ∈ gap, isBlank c = true

/-- A text that shows the labels in order, each after an allowed gap. -/
def Labelled (allowed : Text → Prop) : List Text → Text → Prop
  | [], _ => True
  | label :: labels, text =>
      ∃ gap rest, text = gap ++ (label ++ rest) ∧ allowed gap ∧ Labelled allowed labels rest

private theorem any_isPrefixOf?_iff {label text : Text} {next : Text → Bool} :
    (label.isPrefixOf? text).any next = true ↔ ∃ rest, text = label ++ rest ∧ next rest = true := by
  rw [Option.any_eq_true]
  constructor
  · rintro ⟨rest, found, holds⟩
    exact ⟨rest, (List.isPrefixOf?_eq_some_iff_append_eq.mp found).symm, holds⟩
  · rintro ⟨rest, rfl, holds⟩
    exact ⟨rest, List.isPrefixOf?_eq_some_iff_append_eq.mpr rfl, holds⟩

theorem seek_iff {admits : Char → Bool} {label : Text} {next : Text → Bool} {text : Text} :
    seek admits label next text = true ↔
      ∃ gap rest, text = gap ++ (label ++ rest) ∧ (∀ c ∈ gap, admits c = true) ∧ next rest = true := by
  induction text with
  | nil =>
      rw [seek, any_isPrefixOf?_iff]
      constructor
      · rintro ⟨rest, whole, holds⟩
        exact ⟨[], rest, whole, List.forall_mem_nil _, holds⟩
      · rintro ⟨gap, rest, whole, _, holds⟩
        exact ⟨rest, (List.append_eq_nil_iff.mp whole.symm).2.symm, holds⟩
  | cons c text ih =>
      rw [seek, Bool.or_eq_true, Bool.and_eq_true, any_isPrefixOf?_iff, ih]
      constructor
      · rintro (⟨rest, whole, holds⟩ | ⟨admitted, gap, rest, rfl, others, holds⟩)
        · exact ⟨[], rest, whole, List.forall_mem_nil _, holds⟩
        · exact ⟨c :: gap, rest, rfl, List.forall_mem_cons.mpr ⟨admitted, others⟩, holds⟩
      · rintro ⟨gap, rest, whole, admitted, holds⟩
        cases gap with
        | nil => exact .inl ⟨rest, whole, holds⟩
        | cons first gap =>
            obtain ⟨rfl, later⟩ := List.cons.inj whole
            obtain ⟨here, others⟩ := List.forall_mem_cons.mp admitted
            exact .inr ⟨here, gap, rest, later, others, holds⟩

private theorem isGap_iff {gap : Text} :
    IsGap gap ↔ (∀ c ∈ gap, (c != '\n') = true) ∨ ∀ c ∈ gap, isBlank c = true := by
  have feedless : '\n' ∉ gap ↔ ∀ c ∈ gap, (c != '\n') = true := by
    constructor
    · intro absent c member
      exact bne_iff_ne.mpr fun same => absent (same ▸ member)
    · intro others member
      exact bne_iff_ne.mp (others '\n' member) rfl
  rw [IsGap, feedless]

theorem followsLabels_iff {labels : List Text} {text : Text} :
    followsLabels labels text = true ↔ Labelled IsGap labels text := by
  induction labels generalizing text with
  | nil => exact iff_of_true rfl trivial
  | cons label labels ih =>
      rw [followsLabels, Bool.or_eq_true, seek_iff, seek_iff, Labelled]
      constructor
      · rintro (⟨gap, rest, whole, feedless, holds⟩ | ⟨gap, rest, whole, blank, holds⟩)
        · exact ⟨gap, rest, whole, isGap_iff.mpr (.inl feedless), ih.mp holds⟩
        · exact ⟨gap, rest, whole, .inr blank, ih.mp holds⟩
      · rintro ⟨gap, rest, whole, allowed, holds⟩
        rcases isGap_iff.mp allowed with feedless | blank
        · exact .inl ⟨gap, rest, whole, feedless, ih.mpr holds⟩
        · exact .inr ⟨gap, rest, whole, blank, ih.mpr holds⟩

/-! ### The opening of a call -/

private theorem trimStart_append_opening {blanks : Text} (blank : ∀ c ∈ blanks, isBlank c = true)
    (rest : Text) :
    (blanks ++ (opening ++ rest)).trimStart = opening ++ rest := by
  rw [Text.trimStart, List.dropWhile_append_of_pos blank, opening_cons, List.cons_append,
    List.dropWhile_cons_of_neg (by decide)]

private theorem isCall_iff_trimStart {line : Text} :
    isCall line = true ↔ ∃ rest, line.trimStart = opening ++ rest ∧ Labelled IsGap labels rest := by
  rw [isCall, any_isPrefixOf?_iff]
  simp only [followsLabels_iff]

theorem isCall_iff_labelled {line : Text} :
    isCall line = true ↔ ∃ blanks rest, line = blanks ++ (opening ++ rest) ∧
      (∀ c ∈ blanks, isBlank c = true) ∧ Labelled IsGap labels rest := by
  rw [isCall_iff_trimStart]
  constructor
  · rintro ⟨rest, opened, labelled⟩
    refine ⟨line.blankHead, rest, ?_, List.all_eq_true.mp List.all_takeWhile, labelled⟩
    rw [← opened, Text.blankHead_append_trimStart]
  · rintro ⟨blanks, rest, rfl, blank, labelled⟩
    exact ⟨rest, trimStart_append_opening blank rest, labelled⟩

def IsDeclared (line : Text) : Prop :=
  ∃ blanks first second third fourth rest : Text, (∀ c ∈ blanks, isBlank c = true) ∧
    IsGap first ∧ IsGap second ∧ IsGap third ∧ IsGap fourth ∧
    line = blanks ++ "[UIAlertView showWithTitle".toList ++ first ++ "message:".toList ++ second
      ++ "cancelButtonTitle:".toList ++ third ++ "otherButtonTitles:".toList ++ fourth
      ++ "tapBlock:".toList ++ rest

theorem isCall_iff_isDeclared {line : Text} : isCall line = true ↔ IsDeclared line := by
  rw [isCall_iff_labelled]
  simp only [IsDeclared, labels, Labelled, List.append_assoc]
  constructor
  · rintro ⟨blanks, _, rfl, blank, first, _, rfl, firstGap, second, _, rfl, secondGap, third, _, rfl,
      thirdGap, fourth, rest, rfl, fourthGap, _⟩
    exact ⟨blanks, first, second, third, fourth, rest, blank, firstGap, secondGap, thirdGap, fourthGap, rfl⟩
  · rintro ⟨blanks, first, second, third, fourth, rest, blank, firstGap, secondGap, thirdGap, fourthGap, rfl⟩
    exact ⟨blanks, _, rfl, blank, first, _, rfl, firstGap, second, _, rfl, secondGap, third, _, rfl,
      thirdGap, fourth, rest, rfl, fourthGap, trivial⟩

/-! ### Leftmost labels -/

/-- Takes the leftmost occurrence of each label in turn, each after the end of the one before. -/
def takesLeftmost : List Text → Text → Bool
  | [], _ => true
  | label :: labels, text =>
      match Text.indexOf? label text with
      | none => false
      | some position => takesLeftmost labels (text.drop (position + label.length))

private theorem labelled_append {allowed : Text → Prop} (any : ∀ gap, allowed gap) {labels : List Text}
    {text : Text}
    (labelled : Labelled allowed labels text) (front : Text) : Labelled allowed labels (front ++ text) := by
  cases labels with
  | nil => trivial
  | cons label labels =>
      obtain ⟨gap, rest, rfl, _, later⟩ := labelled
      exact ⟨front ++ gap, rest, (List.append_assoc ..).symm, any _, later⟩

theorem takesLeftmost_iff {labels : List Text} {text : Text} :
    takesLeftmost labels text = true ↔ Labelled (fun _ => True) labels text := by
  induction labels generalizing text with
  | nil => exact iff_of_true rfl trivial
  | cons label labels ih =>
      rw [takesLeftmost]
      constructor
      · intro taken
        split at taken
        · cases taken
        · rename_i position found
          refine ⟨text.take position, _, ?_, trivial, ih.mp taken⟩
          rw [← List.append_assoc, ← Text.take_add_of_indexOf? found, List.take_append_drop]
      · rintro ⟨gap, rest, rfl, _, labelled⟩
        have inside : label <:+: gap ++ (label ++ rest) := ⟨gap, rest, List.append_assoc ..⟩
        obtain ⟨position, found⟩ := Text.exists_indexOf?_of_infix inside
        have early := Text.indexOf?_le found
        have follows : (gap ++ (label ++ rest)).drop (position + label.length) =
            (gap ++ label).drop (position + label.length) ++ rest := by
          rw [← List.append_assoc, List.drop_append_of_le_length]
          rw [List.length_append]
          omega
        simp only [found, follows]
        exact ih.mpr (labelled_append (fun _ => trivial) labelled _)

theorem Labelled.imp {allowed other : Text → Prop} (weaker : ∀ gap, allowed gap → other gap)
    {labels : List Text} {text : Text} (labelled : Labelled allowed labels text) :
    Labelled other labels text := by
  induction labels generalizing text with
  | nil => trivial
  | cons label labels ih =>
      obtain ⟨gap, rest, whole, fits, later⟩ := labelled
      exact ⟨gap, rest, whole, weaker gap fits, ih later⟩

theorem Labelled.isGap {labels : List Text} (present : ∀ label ∈ labels, label ≠ []) {text : Text}
    (feedless : '\n' ∉ text.dropLast) (labelled : Labelled (fun _ => True) labels text) :
    Labelled IsGap labels text := by
  induction labels generalizing text with
  | nil => trivial
  | cons label labels ih =>
      obtain ⟨here, others⟩ := List.forall_mem_cons.mp present
      obtain ⟨gap, rest, rfl, _, later⟩ := labelled
      have goesOn : label ++ rest ≠ [] := List.append_ne_nil_of_left_ne_nil here rest
      rw [List.dropLast_append_of_ne_nil goesOn, List.mem_append, not_or] at feedless
      have feedlessRest := Text.notMem_dropLast_of_append feedless.2
      exact ⟨gap, rest, rfl, .inl feedless.1, ih others feedlessRest later⟩

theorem isCall_iff_takesLeftmost {line : Text} (feedless : '\n' ∉ line.dropLast) :
    isCall line = true ↔ ∃ rest, line.trimStart = opening ++ rest ∧ takesLeftmost labels rest = true := by
  have present : ∀ label ∈ labels, label ≠ [] := by decide +kernel
  rw [isCall_iff_trimStart]
  simp only [takesLeftmost_iff]
  constructor
  · rintro ⟨rest, opened, labelled⟩
    exact ⟨rest, opened, labelled.imp fun _ _ => trivial⟩
  · rintro ⟨rest, opened, labelled⟩
    have whole : line = (line.blankHead ++ opening) ++ rest := by
      rw [List.append_assoc, ← opened, Text.blankHead_append_trimStart]
    rw [whole] at feedless
    exact ⟨rest, opened, labelled.isGap present (Text.notMem_dropLast_of_append feedless)⟩

/-! ### The decision -/

/-- A line is classified as a legacy call exactly if it is declared to be one, and as one with a tap block
exactly if it holds a brace as well. Without a line feed before the last character, a line is such a call
exactly if it starts with the opening after blanks, and the leftmost occurrences of the labels follow one
another. -/
theorem classify_decides (line : Text) :
    (classify line ≠ .other ↔ IsDeclared line) ∧
    (classify line = .block ↔ IsDeclared line ∧ '{' ∈ line) ∧
    ('\n' ∉ line.dropLast →
      (IsDeclared line ↔
        ∃ rest, line.trimStart = opening ++ rest ∧ takesLeftmost labels rest = true)) := by
  have declared : isCall line = true ↔ IsDeclared line := isCall_iff_isDeclared
  refine ⟨classify_ne_other_iff.trans declared, ?_, ?_⟩
  · rw [classify_eq_block_iff, declared, opensBlock, List.contains_iff_mem]
  · intro feedless
    exact declared.symm.trans (isCall_iff_takesLeftmost feedless)

theorem classify_decides_sample :
    '\n' ∉ (Edit.sampleCall []).dropLast ∧ IsDeclared (Edit.sampleCall []) ∧
      ∃ rest, (Edit.sampleCall []).trimStart = opening ++ rest ∧ takesLeftmost labels rest = true := by
  obtain ⟨feedless, call⟩ : '\n' ∉ (Edit.sampleCall []).dropLast ∧
      classify (Edit.sampleCall []) ≠ .other := by
    decide +kernel
  obtain ⟨decided, _, leftmost⟩ := classify_decides (Edit.sampleCall [])
  exact ⟨feedless, decided.mp call, (leftmost feedless).mp (decided.mp call)⟩

end Alert

end AlertMigration
