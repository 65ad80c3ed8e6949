import AlertMigration.Proofs.CallAccounting

/-!
Which of the written lines close a tap block.

A line closes a block of one width at most, and only the closing line of a replaced block does so among
all that is written: it closes the width that the line in its place has closed. So an edit neither gives
an earlier call a closing line nor takes one away (`closes_map_emit`, `closes_flatMap_written_iff`).
-/

namespace AlertMigration

namespace Block

theorem closeToken_cons : closeToken = '}' :: closeToken.drop 1 := by
  decide +kernel

private theorem closes_append_cons_iff {blanks : Text} (blank : ∀ c ∈ blanks, isBlank c = true) {c : Char}
    (solid : isBlank c = false) (rest : Text) (width : Nat) :
    closes width (blanks ++ c :: rest) = true ↔
      width = blanks.length ∧ closeToken.isPrefixOf (c :: rest) = true := by
  unfold closes
  induction blanks generalizing width with
  | nil =>
      cases width with
      | zero => simp
      | succ width => simp [solid]
  | cons first blanks ih =>
      obtain ⟨here, later⟩ := List.forall_mem_cons.mp blank
      cases width with
      | zero =>
          have different : ('}' == first) = false := by
            apply beq_false_of_ne
            rintro rfl
            cases here
          rw [closeToken_cons]
          simp [List.isPrefixOf, different]
      | succ width =>
          have tail := ih later width
          simp only [List.cons_append, List.take_succ_cons, List.drop_succ_cons, List.all_cons, here,
            Bool.true_and, List.length_cons, Nat.add_right_cancel_iff]
          exact tail

theorem closes_append_of_ne {blanks : Text} (blank : ∀ c ∈ blanks, isBlank c = true) {c : Char}
    (solid : isBlank c = false) (other : c ≠ '}') (rest : Text) (width : Nat) :
    closes width (blanks ++ c :: rest) = false := by
  apply Bool.eq_false_iff.mpr
  intro closing
  obtain ⟨_, token⟩ := (closes_append_cons_iff blank solid rest width).mp closing
  rw [closeToken_cons, List.isPrefixOf, Bool.and_eq_true, beq_iff_eq] at token
  exact other token.1.symm

theorem closes_append_closeToken_iff {blanks : Text} (blank : ∀ c ∈ blanks, isBlank c = true)
    (rest : Text) (width : Nat) :
    closes width (blanks ++ (closeToken ++ rest)) = true ↔ width = blanks.length := by
  have shape : closeToken ++ rest = '}' :: (closeToken.drop 1 ++ rest) := by
    rw [← List.cons_append, ← closeToken_cons]
  rw [shape, closes_append_cons_iff blank (by decide), ← shape]
  exact and_iff_left (List.isPrefixOf_iff_prefix.mpr (List.prefix_append _ _))

theorem width_unique {width other : Nat} {line : Text} (closing : closes width line = true)
    (also : closes other line = true) : other = width := by
  obtain ⟨blanks, rest, rfl, blank⟩ := eq_append_of_closes closing
  rw [closes_append_closeToken_iff blank] at closing also
  rw [closing, also]

end Block

namespace Alert

theorem exists_eq_blankHead_append {line : Text} (call : isCall line = true) :
    ∃ after, line = line.blankHead ++ (opening ++ after) := by
  obtain ⟨after, opened, _⟩ := (Option.any_eq_true _ _).mp call
  have trimmed : opening ++ after = line.trimStart := List.isPrefixOf?_eq_some_iff_append_eq.mp opened
  exact ⟨after, by rw [trimmed, Text.blankHead_append_trimStart]⟩

theorem indentation_eq_blankHead {line : Text} (call : isCall line = true) :
    indentation line = line.blankHead := by
  obtain ⟨after, whole⟩ := exists_eq_blankHead_append call
  have noBracket : '[' ∉ line.blankHead := by
    intro member
    cases List.all_eq_true.mp List.all_takeWhile '[' member
  conv => lhs; rw [whole, opening_cons]
  exact indentation_append noBracket _

theorem isBlank_indentation {line : Text} (call : isCall line = true) :
    ∀ c ∈ indentation line, isBlank c = true := by
  rw [indentation_eq_blankHead call]
  exact List.all_eq_true.mp List.all_takeWhile

theorem closes_of_isCall {line : Text} (call : isCall line = true) (width : Nat) :
    Block.closes width line = false := by
  apply Bool.eq_false_iff.mpr
  intro closing
  rw [Block.isCall_eq_false_of_closes closing] at call
  cases call

end Alert

namespace Edit

/-! ### Written lines -/

section Written

variable {line : Text} (call : Alert.isCall line = true)

include call

theorem closes_controllerHead (fields : Alert.Fields) (rest : Text) (width : Nat) :
    Block.closes width (Alert.controllerHead (Alert.indentation line) fields ++ rest) = false := by
  have callHead : Alert.controllerCall = '[' :: Alert.controllerCall.drop 1 := by decide +kernel
  unfold Alert.controllerHead
  rw [callHead]
  simp only [List.append_assoc, List.cons_append]
  exact Block.closes_append_of_ne (Alert.isBlank_indentation call) (by decide) (by decide) _ width

theorem closes_replaceCall (body : Option Text) (last : Text) (width : Nat) :
    Block.closes width (replaceCall line body last) = false := by
  unfold replaceCall Alert.replacement
  rw [List.append_assoc]
  exact closes_controllerHead call _ _ width

private theorem closes_openingLine (width : Nat) : Block.closes width (openingLine line) = false := by
  unfold openingLine
  rw [List.append_assoc]
  exact closes_controllerHead call _ _ width

theorem closes_closingLine_iff (last : Text) (width : Nat) :
    Block.closes width (closingLine line last) = true ↔ width = (Alert.indentation line).length := by
  unfold closingLine
  rw [List.append_assoc]
  exact Block.closes_append_closeToken_iff (Alert.isBlank_indentation call) _ width

end Written

/-! ### Sections -/

section Sections

variable {width : Nat}

theorem closes_emit {part : Section} (valid : part.Valid) (policy : Policy)
    (unclosed : ∀ line ∈ part.lines, Block.closes width line = false) :
    Block.closes width (part.emit policy) = false := by
  cases part with
  | plain line => exact unclosed line List.mem_cons_self
  | inline line =>
      exact closes_replaceCall (Alert.isCall_of_inline valid) none line width
  | block line body closer =>
      obtain ⟨kind, _, _⟩ := valid
      exact closes_replaceCall (Alert.isCall_of_block kind) (some body.flatten) closer width
  | unclosed line =>
      cases policy with
      | skip => exact unclosed line List.mem_cons_self
      | error => exact unclosed line List.mem_cons_self
      | collapse => exact closes_replaceCall (Alert.isCall_of_block valid) (some []) line width

/-- What is emitted for lines that do not close a block does not close it either. -/
theorem closes_map_emit {buffer : List Text} (policy : Policy)
    (unclosed : ∀ line ∈ buffer, Block.closes width line = false) :
    ∀ text ∈ (sections buffer).map (Section.emit policy), Block.closes width text = false := by
  intro text member
  obtain ⟨part, found, rfl⟩ := List.mem_map.mp member
  apply closes_emit (valid_sections buffer part found)
  intro line within
  apply unclosed
  rw [← flatMap_lines_sections buffer]
  exact List.mem_flatMap_of_mem found within

theorem closes_closingLine_eq {line closer : Text} (call : Alert.isCall line = true)
    (closing : Block.closes (Alert.indentation line).length closer = true) :
    Block.closes width (closingLine line closer) = Block.closes width closer := by
  rw [Bool.eq_iff_iff, closes_closingLine_iff call]
  constructor
  · rintro rfl
    exact closing
  · exact Block.width_unique closing

theorem closes_written_iff {part : Section} (valid : part.Valid) :
    (∀ line ∈ part.written .skip, Block.closes width line = false) ↔
      ∀ line ∈ part.lines, Block.closes width line = false := by
  cases part with
  | plain line => rfl
  | inline line =>
      have call := Alert.isCall_of_inline valid
      have before := Alert.closes_of_isCall call width
      simp [Section.written, Section.lines, before, closes_replaceCall call]
  | block line body closer =>
      obtain ⟨kind, _, closing⟩ := valid
      have call := Alert.isCall_of_block kind
      have before := Alert.closes_of_isCall call width
      simp only [Section.written, Section.lines, List.forall_mem_cons, List.forall_mem_append, before,
        closes_openingLine call, closes_closingLine_eq call closing]
  | unclosed line => rfl

theorem closes_flatMap_written_iff {parts : List Section} (valid : ∀ part ∈ parts, part.Valid) :
    (∀ line ∈ parts.flatMap (Section.written .skip), Block.closes width line = false) ↔
      ∀ line ∈ parts.flatMap Section.lines, Block.closes width line = false := by
  rw [List.forall_mem_flatMap, List.forall_mem_flatMap]
  constructor
  · intro written part member
    exact (closes_written_iff (valid part member)).mp (written part member)
  · intro read part member
    exact (closes_written_iff (valid part member)).mpr (read part member)

end Sections

end Edit

end AlertMigration
