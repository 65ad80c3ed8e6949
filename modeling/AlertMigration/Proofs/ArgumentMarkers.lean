import AlertMigration.Proofs.WrittenLines
import Mathlib.Data.List.Infix

/-!
Arguments and the markers around them.

The arguments of a call are read off between the first occurrences of its markers, and each pair of
neighbouring markers is looked up on its own. Joined with the markers again, the arguments are the stretch of
the line that the markers delimit exactly if the first occurrences follow one another in order. A line can be
a call without that: a label may be quoted in an earlier argument, or may not be set off by a space.
-/

namespace AlertMigration

namespace Text

/-! ### First occurrences -/

theorem exists_indexOf?_of_infix {needle text : Text} (inside : needle <:+: text) :
    ∃ position, indexOf? needle text = some position := by
  induction text with
  | nil =>
      have empty : needle.isEmpty = true := List.isEmpty_iff.mpr (List.infix_nil.mp inside)
      exact ⟨0, if_pos empty⟩
  | cons c rest ih =>
      unfold indexOf?
      split
      · exact ⟨0, rfl⟩
      · rename_i elsewhere
        rcases List.infix_cons_iff.mp inside with here | later
        · exact absurd (List.isPrefixOf_iff_prefix.mpr here) elsewhere
        · obtain ⟨position, found⟩ := ih later
          exact ⟨position + 1, by rw [found]; rfl⟩

theorem indexOf?_add_length_le {needle text : Text} {position : Nat}
    (found : indexOf? needle text = some position) : position + needle.length ≤ text.length := by
  induction text generalizing position with
  | nil =>
      unfold indexOf? at found
      split at found
      · rename_i empty
        cases found
        simp [List.isEmpty_iff.mp empty]
      · cases found
  | cons c rest ih =>
      unfold indexOf? at found
      split at found
      · rename_i opens
        cases found
        rw [Nat.zero_add]
        exact (List.isPrefixOf_iff_prefix.mp opens).length_le
      · obtain ⟨later, restFound, same⟩ := Option.map_eq_some_iff.mp found
        have within := ih restFound
        rw [List.length_cons]
        omega

theorem take_add_of_indexOf? {needle text : Text} {position : Nat}
    (found : indexOf? needle text = some position) :
    text.take (position + needle.length) = text.take position ++ needle := by
  obtain ⟨back, whole⟩ := take_append_of_indexOf? found
  have within := indexOf?_add_length_le found
  have reach : (text.take position ++ needle).length = position + needle.length := by
    rw [List.length_append, List.length_take]
    omega
  conv => lhs; rw [whole, ← List.append_assoc]
  exact List.take_left' reach

/-! ### Neighbouring markers -/

def Before (line marker next : Text) : Prop :=
  ∃ start ∈ indexOf? marker line, ∃ stop ∈ indexOf? next line, start + marker.length ≤ stop

instance (line marker next : Text) : Decidable (Before line marker next) :=
  inferInstanceAs
    (Decidable (∃ start ∈ indexOf? marker line, ∃ stop ∈ indexOf? next line, start + marker.length ≤ stop))

section Found

variable {line marker next : Text} {start stop : Nat}
  (found : indexOf? marker line = some start) (foundNext : indexOf? next line = some stop)

include found foundNext

theorem before_iff : Before line marker next ↔ start + marker.length ≤ stop := by
  unfold Before
  rw [found, foundNext]
  simp

theorem between_eq : between marker next line = (line.take stop).drop (start + marker.length) := by
  unfold between
  rw [found, foundNext]

private theorem length_between : (between marker next line).length = stop - (start + marker.length) := by
  have within := indexOf?_add_length_le foundNext
  rw [between_eq found foundNext, List.length_drop, List.length_take]
  omega

theorem take_eq_of_before (ordered : start + marker.length ≤ stop) :
    line.take stop = line.take start ++ (marker ++ between marker next line) := by
  have opened : (line.take stop).take (start + marker.length) = line.take start ++ marker := by
    rw [List.take_take, Nat.min_eq_left ordered, take_add_of_indexOf? found]
  rw [between_eq found foundNext, ← List.append_assoc, ← opened, List.take_append_drop]

end Found

theorem between_eq_nil_of_not_before {line marker next : Text} (disordered : ¬ Before line marker next) :
    between marker next line = [] := by
  cases found : indexOf? marker line with
  | none =>
      unfold between
      rw [found]
  | some start =>
      cases foundNext : indexOf? next line with
      | none =>
          unfold between
          rw [found, foundNext]
      | some stop =>
          rw [before_iff found foundNext] at disordered
          apply List.eq_nil_of_length_eq_zero
          rw [length_between found foundNext]
          omega

/-! ### A row of markers -/

def joined (line : Text) : List Text → Text
  | [] => []
  | [last] => last
  | marker :: next :: rest => marker ++ (between marker next line ++ joined line (next :: rest))

theorem infix_joined {line marker : Text} {markers : List Text} (member : marker ∈ markers) :
    marker <:+: joined line markers := by
  fun_induction joined line markers with
  | case1 => cases member
  | case2 last => rw [List.mem_singleton.mp member]
  | case3 first next rest ih =>
      rcases List.mem_cons.mp member with rfl | later
      · exact (List.prefix_append _ _).isInfix
      · exact (ih later).trans
          ((List.suffix_append _ _).trans (List.suffix_append _ _)).isInfix

theorem exists_indexOf?_of_isChain {line marker : Text} {rest : List Text}
    (ordered : (marker :: rest).IsChain (Before line)) :
    ∀ next ∈ rest, ∃ position, indexOf? next line = some position := by
  induction rest generalizing marker with
  | nil => exact fun _ member => (List.not_mem_nil member).elim
  | cons next rest ih =>
      obtain ⟨⟨_, _, stop, foundNext, _⟩, later⟩ := List.isChain_cons_cons.mp ordered
      exact List.forall_mem_cons.mpr ⟨⟨stop, foundNext⟩, ih later⟩

theorem eq_append_joined {line marker : Text} {rest : List Text} {start : Nat}
    (ordered : (marker :: rest).IsChain (Before line)) (found : indexOf? marker line = some start) :
    ∃ back, line = line.take start ++ (joined line (marker :: rest) ++ back) := by
  induction rest generalizing marker start with
  | nil => exact take_append_of_indexOf? found
  | cons next rest ih =>
      obtain ⟨here, later⟩ := List.isChain_cons_cons.mp ordered
      obtain ⟨stop, foundNext⟩ := exists_indexOf?_of_isChain ordered next List.mem_cons_self
      obtain ⟨back, whole⟩ := ih later foundNext
      refine ⟨back, ?_⟩
      conv => lhs; rw [whole, take_eq_of_before found foundNext ((before_iff found foundNext).mp here)]
      simp only [joined, List.append_assoc]

/-- The joined text is as long as the stretch that the outermost markers delimit exactly if the markers are in
order, and otherwise longer. -/
theorem length_joined {line marker : Text} {rest : List Text} {start stop : Nat}
    (present : ∀ next ∈ rest, ∃ position, indexOf? next line = some position)
    (found : indexOf? marker line = some start)
    (foundLast : indexOf? (rest.getLastD marker) line = some stop) :
    stop + (rest.getLastD marker).length ≤ start + (joined line (marker :: rest)).length ∧
      (stop + (rest.getLastD marker).length = start + (joined line (marker :: rest)).length ↔
        (marker :: rest).IsChain (Before line)) := by
  induction rest generalizing marker start with
  | nil =>
      rw [List.getLastD_nil, found, Option.some_inj] at foundLast
      rw [List.getLastD_nil, foundLast]
      exact ⟨Nat.le_refl _, iff_of_true rfl (List.IsChain.singleton marker)⟩
  | cons next rest ih =>
      obtain ⟨⟨position, foundNext⟩, others⟩ := List.forall_mem_cons.mp present
      rw [List.getLastD_cons] at foundLast ⊢
      obtain ⟨bounded, exactly⟩ := ih others foundNext foundLast
      have gap := length_between found foundNext
      rw [List.isChain_cons_cons, before_iff found foundNext, ← exactly]
      simp only [joined, List.length_append]
      omega

end Text

/-! ### The arguments of a call -/

namespace Alert.Fields

def markers : List Text :=
  [titleMarker, messageMarker, cancelMarker, otherMarker, tapBlockMarker]

def rejoined (fields : Fields) : Text :=
  titleMarker ++ fields.title ++ messageMarker ++ fields.message ++ cancelMarker ++ fields.cancelLabel
    ++ otherMarker ++ fields.otherLabels ++ tapBlockMarker

private theorem rejoined_ofLine (line : Text) : (ofLine line).rejoined = Text.joined line markers := by
  simp only [rejoined, ofLine, markers, Text.joined, List.append_assoc]

/-- The markers of a call are found in a line, the first occurrence of each after that of the one before. -/
def MarkersInOrder (line : Text) : Prop :=
  markers.IsChain (Text.Before line)

instance (line : Text) : Decidable (MarkersInOrder line) :=
  inferInstanceAs (Decidable (markers.IsChain (Text.Before line)))

/-- The arguments that are read off a line, joined with their markers, are the stretch of the line from the
first title marker to the end of the first tap block marker exactly if the markers are in order. Otherwise an
argument comes out empty. -/
theorem arguments_kept_iff (line : Text) :
    ((∃ front back stop, line = front ++ ((ofLine line).rejoined ++ back) ∧
      Text.indexOf? titleMarker line = some front.length ∧
      Text.indexOf? tapBlockMarker line = some stop ∧
      stop + tapBlockMarker.length = front.length + (ofLine line).rejoined.length) ↔
        MarkersInOrder line) ∧
    (¬ MarkersInOrder line →
      (ofLine line).title = [] ∨ (ofLine line).message = [] ∨ (ofLine line).cancelLabel = [] ∨
        (ofLine line).otherLabels = []) := by
  rw [rejoined_ofLine]
  refine ⟨⟨?_, ?_⟩, ?_⟩
  · rintro ⟨front, back, stop, whole, found, foundLast, reach⟩
    have inside : Text.joined line markers <:+: line :=
      ⟨front, back, by rw [List.append_assoc, ← whole]⟩
    have present (marker : Text) (member : marker ∈ markers.tail) :=
      Text.exists_indexOf?_of_infix
        ((Text.infix_joined (List.mem_of_mem_tail member)).trans inside)
    exact (Text.length_joined present found foundLast).2.mp reach
  · intro ordered
    obtain ⟨⟨start, found, _⟩, _⟩ := List.isChain_cons_cons.mp ordered
    have present := Text.exists_indexOf?_of_isChain ordered
    obtain ⟨stop, foundLast⟩ := present tapBlockMarker (by simp)
    obtain ⟨back, whole⟩ := Text.eq_append_joined ordered found
    have length : (line.take start).length = start := by
      have within := Text.indexOf?_add_length_le found
      rw [List.length_take]
      omega
    refine ⟨line.take start, back, stop, whole, by rw [length]; exact found, foundLast, ?_⟩
    rw [length]
    exact (Text.length_joined present found foundLast).2.mpr ordered
  · intro disordered
    by_contra kept
    simp only [not_or] at kept
    have before {marker next : Text} (kept : Text.between marker next line ≠ []) :
        Text.Before line marker next := by
      by_contra apart
      exact kept (Text.between_eq_nil_of_not_before apart)
    apply disordered
    simp only [MarkersInOrder, markers, List.isChain_cons_cons]
    exact ⟨before kept.1, before kept.2.1, before kept.2.2.1, before kept.2.2.2, List.IsChain.singleton _⟩

example : MarkersInOrder (Edit.sampleCall []) := by
  decide +kernel

def quotedLabelCall : Text :=
  "[UIAlertView showWithTitle:@\" cancelButtonTitle:\" message:m cancelButtonTitle:c otherButtonTitles:o tapBlock:nil];\n".toList

def tabbedCall : Text :=
  "[UIAlertView showWithTitle:t\tmessage:m cancelButtonTitle:c otherButtonTitles:o tapBlock:nil];\n".toList

/-- There are calls, each a line of a source, of whose arguments some text is lost. -/
theorem rejoined_not_infix :
    (quotedLabelCall ∈ Text.splitLines quotedLabelCall ∧ classify quotedLabelCall = .inline ∧
      ¬ (ofLine quotedLabelCall).rejoined <:+: quotedLabelCall) ∧
    tabbedCall ∈ Text.splitLines tabbedCall ∧ classify tabbedCall = .inline ∧
      ¬ (ofLine tabbedCall).rejoined <:+: tabbedCall := by
  decide +kernel

end Alert.Fields

end AlertMigration
