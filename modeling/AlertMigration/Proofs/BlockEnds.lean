import AlertMigration.Proofs.Resting
import Mathlib.Order.Bounds.Basic

/-!
Where a tap block ends.

The end of a block is the first line after its call whose blanks at the start are exactly as many as the
indentation and are followed by the closing token (`findEnd_first`). A call that has been replaced is neither
such a line nor a call again, whatever its arguments and its body hold (`replacement_inert`).
-/

namespace AlertMigration

namespace Text

structure IsBlankHead (text head : Text) : Prop where
  front : head <+: text
  blank : ∀ c ∈ head, isBlank c = true
  longest : ∀ other, other <+: text → (∀ c ∈ other, isBlank c = true) → other <+: head

theorem isBlankHead_append_cons {blanks : Text} (blank : ∀ c ∈ blanks, isBlank c = true) {c : Char}
    (solid : isBlank c = false) (rest : Text) : IsBlankHead (blanks ++ c :: rest) blanks := by
  refine ⟨List.prefix_append _ _, blank, fun other front blankOther => ?_⟩
  have absent : c ∉ other := by
    intro member
    rw [blankOther c member] at solid
    cases solid
  have snoc : blanks ++ [c] <+: blanks ++ c :: rest := ⟨rest, by rw [List.append_assoc]; rfl⟩
  rcases List.prefix_or_prefix_of_prefix front snoc with within | further
  · rcases List.prefix_concat_iff.mp within with same | shorter
    · exact absurd (by rw [same]; exact List.mem_append_right blanks List.mem_cons_self) absent
    · exact shorter
  · exact absurd (further.subset (List.mem_append_right blanks List.mem_cons_self)) absent

end Text

namespace Block

/-! ### Closing lines -/

/-- The blanks at the start of the line are exactly so many, and the closing token follows them. -/
def IsClosing (width : Nat) (line : Text) : Prop :=
  ∃ indent rest, line = indent ++ (closeToken ++ rest) ∧ line.IsBlankHead indent ∧ indent.length = width

theorem closes_iff_isClosing {width : Nat}
    {line : Text} : closes width line = true ↔ IsClosing width line := by
  constructor
  · intro closing
    obtain ⟨blanks, rest, rfl, blank⟩ := eq_append_of_closes closing
    have counted : width = blanks.length := (closes_append_closeToken_iff blank rest width).mp closing
    refine ⟨blanks, rest, rfl, ?_, counted.symm⟩
    rw [closeToken_cons]
    exact Text.isBlankHead_append_cons blank (by decide) _
  · rintro ⟨indent, rest, rfl, head, rfl⟩
    exact (closes_append_closeToken_iff head.blank rest indent.length).mpr rfl

private theorem closes_eq_false_iff {width : Nat} {line : Text} :
    closes width line = false ↔ ¬ IsClosing width line := by
  rw [← closes_iff_isClosing, Bool.not_eq_true]

/-! ### The search for the end -/

def ClosedAt (lines : List Text) (width : Nat) (position : Int) : Prop :=
  ∃ (index : Nat) (line : Text), position = index ∧ lines[index]? = some line ∧ IsClosing width line

/-- What the search has found: the lines up to the start, those passed over, and a closing line. -/
structure Reached (lines : List Text) (start : Int) (width : Nat) (stop : Int) (front body : List Text)
    (closer : Text) (after : List Text) : Prop where
  whole : lines = front ++ (body ++ closer :: after)
  begun : (front.length : Int) = start + 1
  ended : stop = start + 1 + body.length
  unclosed : ∀ line ∈ body, ¬ IsClosing width line
  closing : IsClosing width closer

section Search

variable {lines : List Text} {start : Int} {width : Nat}

private theorem exists_reached (begins : -1 ≤ start) (narrow : width < widthLimit) {stop : Int}
    (found : findEnd lines start width = .ok (some stop)) :
    ∃ front body closer after, Reached lines start width stop front body closer after := by
  rw [findEnd_eq begins narrow, Except.ok.injEq, Option.map_eq_some_iff] at found
  obtain ⟨offset, searched, rfl⟩ := found
  cases cut : Edit.cutAtCloser? width (lines.drop (start + 1).toNat) with
  | none =>
      rw [Edit.firstClosing?_eq_none cut] at searched
      cases searched
  | some parts =>
      obtain ⟨body, closer, after⟩ := parts
      rw [Edit.firstClosing?_of_cutAtCloser? cut] at searched
      cases searched
      obtain ⟨rest, unclosed, closing⟩ := Edit.cutAtCloser?_eq_some cut
      have enough : (start + 1).toNat < lines.length := by
        have length := congrArg List.length rest
        rw [List.length_drop, List.length_append, List.length_cons] at length
        omega
      refine ⟨lines.take (start + 1).toNat, body, closer, after, ?_, ?_, rfl, ?_, ?_⟩
      · rw [← rest, List.take_append_drop]
      · rw [List.length_take]
        omega
      · exact fun line member => closes_eq_false_iff.mp (unclosed line member)
      · exact closes_iff_isClosing.mp closing

theorem findEnd_eq_ok_none_iff (lines : List Text) (begins : -1 ≤ start) (narrow : width < widthLimit) :
    findEnd lines start width = .ok none ↔ ∀ position, start < position → ¬ ClosedAt lines width position := by
  rw [findEnd_eq begins narrow, Except.ok.injEq, Option.map_eq_none_iff, firstClosing?,
    List.findIdx?_eq_none_iff]
  constructor
  · rintro unclosed position later ⟨index, line, rfl, present, closing⟩
    have ahead : (start + 1).toNat ≤ index := by omega
    have dropped : (lines.drop (start + 1).toNat)[index - (start + 1).toNat]? = some line := by
      rw [List.getElem?_drop, Nat.add_sub_cancel' ahead, present]
    exact closes_eq_false_iff.mp (unclosed line (List.mem_of_getElem? dropped)) closing
  · intro unclosed line member
    obtain ⟨offset, present⟩ := List.mem_iff_getElem?.mp member
    rw [List.getElem?_drop] at present
    rw [closes_eq_false_iff]
    intro closing
    exact unclosed ((start + 1).toNat + offset : Nat) (by omega) ⟨_, line, rfl, present, closing⟩

theorem findEnd_cases (lines : List Text) (begins : -1 ≤ start) (narrow : width < widthLimit) :
    findEnd lines start width = .ok none ∨ ∃ stop, findEnd lines start width = .ok (some stop) := by
  rw [findEnd_eq begins narrow]
  cases firstClosing? width (lines.drop (start + 1).toNat) with
  | none => exact .inl rfl
  | some offset => exact .inr ⟨start + 1 + offset, rfl⟩

end Search

namespace Reached

variable {lines front body after : List Text} {start stop : Int} {width : Nat} {closer : Text}
  (reached : Reached lines start width stop front body closer after)

include reached

theorem toNat_stop : stop.toNat = front.length + body.length := by
  have begun := reached.begun
  have ended := reached.ended
  omega

theorem getElem?_stop : lines[front.length + body.length]? = some closer := by
  rw [reached.whole, List.getElem?_append_right (by omega), List.getElem?_append_right (by omega)]
  simp

theorem isLeast : IsLeast {position | start < position ∧ ClosedAt lines width position} stop := by
  have begun := reached.begun
  have ended := reached.ended
  refine ⟨⟨by omega, _, closer, by omega, reached.getElem?_stop, reached.closing⟩, ?_⟩
  rintro position ⟨later, index, line, rfl, present, closing⟩
  by_contra early
  have inside : body[index - front.length]? = some line := by
    rw [reached.whole, List.getElem?_append_right (by omega),
      List.getElem?_append_left (by omega)] at present
    exact present
  exact reached.unclosed line (List.mem_of_getElem? inside) closing

theorem between_eq : (lines.take stop.toNat).drop (start + 1).toNat = body := by
  have first : (start + 1).toNat = front.length := by rw [← reached.begun, Int.toNat_natCast]
  have last : stop.toNat = (front ++ body).length := by
    rw [reached.toNat_stop, List.length_append]
  rw [first, last, reached.whole, ← List.append_assoc, List.take_left, List.drop_left]

theorem capture_eq : capture lines start stop = .ok ⟨start, stop, body.flatten⟩ := by
  have begun := reached.begun
  have ended := reached.ended
  have length := congrArg List.length reached.whole
  rw [List.length_append, List.length_append, List.length_cons] at length
  have first : Position.clamp lines.length (start + 1) = (start + 1).toNat := by
    rw [Position.clamp, if_pos (by omega)]
    omega
  have last : Position.clamp lines.length stop = stop.toNat := by
    rw [Position.clamp, if_pos (by omega)]
    omega
  rw [capture, if_neg (by omega), Position.slice, first, last, reached.between_eq]

theorem flatten_eq (inside : 0 ≤ start) :
    ∃ opener, lines[start.toNat]? = some opener ∧
      opener ++ body.flatten ++ closer = ((lines.take (stop.toNat + 1)).drop start.toNat).flatten := by
  have begun := reached.begun
  rcases List.eq_nil_or_concat front with empty | ⟨earlier, opener, snoc⟩
  · rw [empty, List.length_nil] at begun
    omega
  · rw [List.concat_eq_append] at snoc
    have length := congrArg List.length snoc
    rw [List.length_append, List.length_singleton] at length
    have first : start.toNat = earlier.length := by omega
    have last : stop.toNat + 1 = (earlier ++ opener :: (body ++ [closer])).length := by
      rw [reached.toNat_stop]
      simp only [List.length_append, List.length_cons, List.length_nil]
      omega
    have whole : lines = (earlier ++ opener :: (body ++ [closer])) ++ after := by
      rw [reached.whole, snoc]
      simp
    refine ⟨opener, ?_, ?_⟩
    · rw [whole, first, List.append_assoc, List.getElem?_append_right (Nat.le_refl _)]
      simp
    · rw [last, whole, List.take_left, first, List.drop_left]
      simp

end Reached

/-- The search finds the first closing line after its start and nothing else. The block up to the line that it
finds can be taken out: it is the lines in between, none of which closes it. -/
theorem findEnd_first {lines : List Text} {start : Int} {width : Nat} (begins : -1 ≤ start)
    (narrow : width < widthLimit) :
    (∀ stop, findEnd lines start width = .ok (some stop) ↔
      IsLeast {position | start < position ∧ ClosedAt lines width position} stop) ∧
    (findEnd lines start width = .ok none ↔ ¬ ∃ position, start < position ∧ ClosedAt lines width position) ∧
    ∀ stop, findEnd lines start width = .ok (some stop) →
      ∃ span, capture lines start stop = .ok span ∧ span.start = start ∧ span.stop = stop ∧
        span.body = ((lines.take stop.toNat).drop (start + 1).toNat).flatten ∧
        (∀ line ∈ (lines.take stop.toNat).drop (start + 1).toNat, ¬ IsClosing width line) ∧
        (0 ≤ start → ∃ opener closer, lines[start.toNat]? = some opener ∧ lines[stop.toNat]? = some closer ∧
          opener ++ span.body ++ closer = ((lines.take (stop.toNat + 1)).drop start.toNat).flatten) := by
  have least : ∀ stop, findEnd lines start width = .ok (some stop) →
      IsLeast {position | start < position ∧ ClosedAt lines width position} stop := by
    intro stop found
    obtain ⟨front, body, closer, after, reached⟩ := exists_reached begins narrow found
    exact reached.isLeast
  have missing := findEnd_eq_ok_none_iff lines begins narrow
  refine ⟨fun stop => ⟨least stop, fun first => ?_⟩, ?_, fun stop found => ?_⟩
  · rcases findEnd_cases lines begins narrow with none | ⟨other, found⟩
    · exact absurd first.1.2 (missing.mp none stop first.1.1)
    · rw [found, (least other found).unique first]
  · rw [missing]
    simp only [not_exists, not_and]
  · obtain ⟨front, body, closer, after, reached⟩ := exists_reached begins narrow found
    refine ⟨⟨start, stop, body.flatten⟩, reached.capture_eq, rfl, rfl, ?_, ?_, fun inside => ?_⟩
    · rw [reached.between_eq]
    · rw [reached.between_eq]
      exact reached.unclosed
    · obtain ⟨opener, present, joined⟩ := reached.flatten_eq inside
      refine ⟨opener, closer, present, ?_, joined⟩
      rw [reached.toNat_stop]
      exact reached.getElem?_stop

def mixedLines : List Text :=
  ["  [self open:^\x7b\n".toList, [], "\t\x7d];\n".toList, " \n \x7d];\n".toList, "\t\u00a0\x7d]; // done\n".toList,
    "  \x7d];\n".toList]

theorem findEnd_first_sample :
    (-1 : Int) ≤ 0 ∧ 2 < widthLimit ∧
      IsLeast {position | 0 < position ∧ ClosedAt mixedLines 2 position} 4 ∧
      ∃ span, capture mixedLines 0 4 = .ok span ∧
        span.body = ((mixedLines.take 4).drop 1).flatten ∧
        ∀ line ∈ (mixedLines.take 4).drop 1, ¬ IsClosing 2 line := by
  have begins : (-1 : Int) ≤ 0 := by decide
  have narrow : 2 < widthLimit := by decide
  have found : findEnd mixedLines 0 (2 : Nat) = .ok (some 4) := by decide +kernel
  obtain ⟨first, _, captured⟩ := @findEnd_first mixedLines 0 2 begins narrow
  obtain ⟨span, taken, _, _, body, unclosed, _⟩ := captured 4 found
  exact ⟨begins, narrow, (first 4).mp found, span, taken, body, unclosed⟩

end Block

namespace Alert

/-! ### Replaced calls -/

private theorem isBlankHead_indentation {line : Text} (call : isCall line = true) :
    line.IsBlankHead (indentation line) := by
  obtain ⟨after, whole⟩ := exists_eq_blankHead_append call
  have blank := isBlank_indentation call
  rw [← indentation_eq_blankHead call, opening_cons] at whole
  have head := Text.isBlankHead_append_cons blank (by decide : isBlank '[' = false) (opening.drop 1 ++ after)
  rw [← List.cons_append, ← whole] at head
  exact head

/-- The indentation of a call is all that is blank before it. What takes the call's place is no call and ends no
tap block, whatever its arguments and body hold and whatever follows it. -/
theorem replacement_inert {line : Text} (call : classify line ≠ .other) :
    line.IsBlankHead (indentation line) ∧
      ∀ (fields : Fields) (body : Option Text) (newline tail : Text),
        classify (replacement (indentation line) fields body newline ++ tail) = .other ∧
        ∀ width : Nat, width < Block.widthLimit →
          ∃ closer, Block.Closer.ofWidth? width = some closer ∧
            closer.reach? (replacement (indentation line) fields body newline ++ tail) = none := by
  have called := isCall_of_ne_other call
  refine ⟨isBlankHead_indentation called, fun fields body newline tail => ⟨?_, fun width narrow => ?_⟩⟩
  · rw [classify_eq_other_iff]
    exact isCall_replacement_append line fields body newline tail
  · refine ⟨.indented width, Block.ofWidth?_natCast narrow, ?_⟩
    have unclosed : Block.closes width (replacement (indentation line) fields body newline ++ tail) = false := by
      rw [replacement, List.append_assoc]
      exact Edit.closes_controllerHead called fields _ width
    rw [Block.Closer.reach?, unclosed, if_neg Bool.false_ne_true]

def sampleReplacement : Text :=
  replacement (indentation (Edit.sampleCall "\t ".toList)) ⟨Edit.sampleCall [], [], [], []⟩
    (some (Edit.sampleCall [] ++ "\t \x7d];\n".toList)) "\n".toList

/-- The title, the body and the text behind hold calls and closing lines at the call's own indentation. -/
theorem replacement_inert_sample :
    classify (Edit.sampleCall "\t ".toList) ≠ .other ∧ 2 < Block.widthLimit ∧
      (Edit.sampleCall "\t ".toList).IsBlankHead (indentation (Edit.sampleCall "\t ".toList)) ∧
      classify (sampleReplacement ++ "\n\t \x7d];\n".toList) = .other ∧
      ∃ closer, Block.Closer.ofWidth? (2 : Nat) = some closer ∧
        closer.reach? (sampleReplacement ++ "\n\t \x7d];\n".toList) = none := by
  have call : classify (Edit.sampleCall "\t ".toList) ≠ .other := by decide +kernel
  have narrow : 2 < Block.widthLimit := by decide
  obtain ⟨head, inert⟩ := replacement_inert call
  obtain ⟨other, unclosed⟩ := inert ⟨Edit.sampleCall [], [], [], []⟩
    (some (Edit.sampleCall [] ++ "\t \x7d];\n".toList)) "\n".toList "\n\t \x7d];\n".toList
  exact ⟨call, narrow, head, other, unclosed 2 narrow⟩

end Alert

end AlertMigration
