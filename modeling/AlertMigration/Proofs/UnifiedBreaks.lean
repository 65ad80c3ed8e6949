import AlertMigration.Proofs.ReportedLines
import Mathlib.Data.List.TakeWhile

/-!
Line terminators do not matter to legacy calls.

The lines of a text with unified breaks are the lines of the text with unified breaks, one by one
(`splitLines_unifyBreaks`), and whether a line holds a legacy call does not depend on its terminator. So the
numbers of the lines with a legacy call are the same before and after.
-/

namespace AlertMigration

/-! ### Lines of a text with unified breaks -/

namespace Text

private theorem unifyBreaks_cons_of_plain {c : Char} (plain : isBreak c = false) (rest : Text) :
    unifyBreaks (c :: rest) = c :: unifyBreaks rest := by
  have noReturn : c ≠ '\r' := by
    rw [isBreak, Bool.or_eq_false_iff] at plain
    exact ne_of_beq_false plain.2
  exact unifyBreaks.eq_4 c rest (fun _ same _ => noReturn same) (fun same => noReturn same)

private theorem unifyBreaks_cons_of_break {c : Char} (breaking : isBreak c = true) {rest : Text}
    (noPair : ∀ tail, c = '\r' → rest = '\n' :: tail → False) :
    unifyBreaks (c :: rest) = '\n' :: unifyBreaks rest := by
  rw [isBreak, Bool.or_eq_true, beq_iff_eq, beq_iff_eq] at breaking
  rcases breaking with rfl | rfl
  · exact unifyBreaks.eq_4 '\n' rest (fun _ same _ => by cases same) (fun same => by cases same)
  · exact unifyBreaks.eq_3 rest (fun tail opened => noPair tail rfl opened)

theorem unifyBreaks_append {content : Text} (unbroken : Unbroken content) (ending : Text) :
    unifyBreaks (content ++ ending) = content ++ unifyBreaks ending := by
  induction content with
  | nil => rfl
  | cons c content ih =>
      obtain ⟨plain, later⟩ := List.forall_mem_cons.mp unbroken
      rw [List.cons_append, unifyBreaks_cons_of_plain plain, ih later, List.cons_append]

theorem unifyBreaks_mem_endings : ∀ ending ∈ endings, unifyBreaks ending ∈ endings := by
  decide

private theorem splitLines_cons_feed (rest : Text) :
    splitLines ('\n' :: rest) = ['\n'] :: splitLines rest := by
  rw [splitLines.eq_3 _ _ (fun _ same _ => by cases same)]
  rfl

theorem splitLines_unifyBreaks (text : Text) :
    splitLines (unifyBreaks text) = (splitLines text).map unifyBreaks := by
  fun_induction splitLines text with
  | case1 => rfl
  | case2 rest ih =>
      rw [unifyBreaks, splitLines_cons_feed, ih]
      rfl
  | case3 c rest noPair breaking ih =>
      have alone : unifyBreaks [c] = ['\n'] :=
        unifyBreaks_cons_of_break breaking (fun _ _ opened => by cases opened)
      rw [unifyBreaks_cons_of_break breaking noPair, splitLines_cons_feed, ih, List.map_cons, alone]
  | case4 c rest _ plain empty ih =>
      have plain : isBreak c = false := Bool.eq_false_iff.mpr plain
      rw [empty] at ih
      rw [unifyBreaks_cons_of_plain plain, splitLines_cons_of_plain plain, ih, List.map_singleton,
        unifyBreaks_cons_of_plain plain]
      rfl
  | case5 c rest _ plain line lines split ih =>
      have plain : isBreak c = false := Bool.eq_false_iff.mpr plain
      rw [split] at ih
      rw [unifyBreaks_cons_of_plain plain, splitLines_cons_of_plain plain, ih, List.map_cons,
        List.map_cons, unifyBreaks_cons_of_plain plain]

end Text

/-! ### Calls and their terminators -/

namespace Alert

open Text (Unbroken isBreak)

section Ending

variable {ending : Text} (breaks : ∀ c ∈ ending, isBreak c = true)

include breaks

private theorem isPrefixOf?_append_ending {label : Text} (unbroken : Unbroken label) (text : Text) :
    label.isPrefixOf? (text ++ ending) = (label.isPrefixOf? text).map (· ++ ending) := by
  induction label generalizing text with
  | nil => rfl
  | cons c label ih =>
      obtain ⟨plain, later⟩ := List.forall_mem_cons.mp unbroken
      cases text with
      | nil =>
          cases ending with
          | nil => rfl
          | cons d ending =>
              have different : (c == d) = false := by
                apply beq_false_of_ne
                rintro rfl
                rw [breaks c List.mem_cons_self] at plain
                cases plain
              exact if_neg (ne_true_of_eq_false different)
      | cons d text =>
          by_cases same : (c == d) = true
          · have here (rest : Text) : (c :: label).isPrefixOf? (d :: rest) = label.isPrefixOf? rest :=
              if_pos same
            rw [List.cons_append, here, here, ih later]
          · have here (rest : Text) : (c :: label).isPrefixOf? (d :: rest) = none := if_neg same
            rw [List.cons_append, here, here]
            rfl

private theorem seek_ending {label : Text} (unbroken : Unbroken label) (present : label ≠ [])
    (admits : Char → Bool)
    (next : Text → Bool) : seek admits label next ending = false := by
  have nothing : label.isPrefixOf? [] = none := by
    cases label with
    | nil => exact absurd rfl present
    | cons c label => rfl
  induction ending with
  | nil => rw [seek, nothing, Option.any_none]
  | cons c rest ih =>
      have missing := isPrefixOf?_append_ending breaks unbroken []
      rw [List.nil_append, nothing, Option.map_none] at missing
      rw [seek, missing, Option.any_none, ih (List.forall_mem_cons.mp breaks).2, Bool.and_false,
        Bool.or_false]

private theorem seek_append_ending {label : Text} (unbroken : Unbroken label) (present : label ≠ [])
    (admits : Char → Bool) {next : Text → Bool} (same : ∀ rest, next (rest ++ ending) = next rest)
    (text : Text) : seek admits label next (text ++ ending) = seek admits label next text := by
  induction text with
  | nil =>
      rw [List.nil_append, seek_ending breaks unbroken present,
        seek_ending (List.forall_mem_nil _) unbroken present]
  | cons c rest ih =>
      have found := isPrefixOf?_append_ending breaks unbroken (c :: rest)
      rw [List.cons_append] at found
      rw [List.cons_append, seek, seek, found, ih]
      congr 1
      cases label.isPrefixOf? (c :: rest) with
      | none => rfl
      | some after => exact same after

private theorem followsLabels_append_ending {labels : List Text}
    (plain : ∀ label ∈ labels, Unbroken label ∧ label ≠ []) (text : Text) :
    followsLabels labels (text ++ ending) = followsLabels labels text := by
  induction labels generalizing text with
  | nil => rfl
  | cons label labels ih =>
      obtain ⟨⟨unbroken, present⟩, later⟩ := List.forall_mem_cons.mp plain
      rw [followsLabels, followsLabels, seek_append_ending breaks unbroken present _ (ih later),
        seek_append_ending breaks unbroken present _ (ih later)]

private theorem isCall_append_ending (content : Text) : isCall (content ++ ending) = isCall content := by
  obtain ⟨openingUnbroken, labelsPlain⟩ :
      Unbroken opening ∧ ∀ label ∈ labels, Unbroken label ∧ label ≠ [] := by
    decide +kernel
  have blank : ∀ c ∈ ending, isBlank c = true := by
    intro c member
    have breaking := breaks c member
    rw [isBreak, Bool.or_eq_true, beq_iff_eq, beq_iff_eq] at breaking
    rcases breaking with rfl | rfl
    · decide
    · decide
  unfold isCall Text.trimStart
  rw [List.dropWhile_append]
  split
  · rename_i allBlank
    have nothing : ending.dropWhile isBlank = [] := List.dropWhile_eq_nil_iff.mpr blank
    rw [nothing, List.isEmpty_iff.mp allBlank]
  · rw [isPrefixOf?_append_ending breaks openingUnbroken]
    cases opening.isPrefixOf? (content.dropWhile isBlank) with
    | none => rfl
    | some after => exact followsLabels_append_ending breaks labelsPlain after

end Ending

theorem isCall_unifyBreaks {line : Text} (isLine : Text.IsLine line) :
    isCall line.unifyBreaks = isCall line := by
  obtain ⟨content, ending, rfl, unbroken, known⟩ := isLine.shape
  have unified := Text.isBreak_of_mem_endings _ (Text.unifyBreaks_mem_endings ending known)
  rw [Text.unifyBreaks_append unbroken, isCall_append_ending unified,
    isCall_append_ending (Text.isBreak_of_mem_endings ending known)]

end Alert

theorem Source.legacyLines_unifyBreaks (source : Text) :
    legacyLines source.unifyBreaks = legacyLines source := by
  rw [legacyLines_eq_positions, legacyLines_eq_positions, Text.splitLines_unifyBreaks]
  apply positions_map_congr
  intro line member
  exact Alert.isCall_unifyBreaks ((Text.canonical_splitLines source).isLine line member)

end AlertMigration
