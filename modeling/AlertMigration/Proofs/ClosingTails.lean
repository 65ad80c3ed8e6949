import AlertMigration.Proofs.StoppedRuns
import Mathlib.Data.List.DropRight

/-!
What stays of the line that closes a replaced tap block.

A closing line may go on after its token. Of what follows there, a replacement takes over the blanks at the
end, with the terminator, so that the lines after the block stay where they were. Main statement: the
element written for a tap block ends in the token and those blanks, and so keeps all that follows the token
exactly if nothing but blanks does.
-/

namespace AlertMigration

namespace Text

theorem blankTail_append_cons {c : Char} (solid : isBlank c = false) (front tail : Text) :
    blankTail (front ++ c :: tail) = blankTail tail := by
  have stops : (c :: front.reverse).takeWhile isBlank = [] :=
    List.takeWhile_cons_of_neg (by rw [solid]; exact Bool.false_ne_true)
  unfold blankTail
  rw [List.reverse_append, List.reverse_cons, List.append_assoc, List.singleton_append,
    List.takeWhile_append, stops, List.append_nil]
  split
  · rename_i whole
    rw [(List.takeWhile_prefix isBlank).eq_of_length whole]
  · rfl

theorem blankTail_eq_self_iff {text : Text} : blankTail text = text ↔ ∀ c ∈ text, isBlank c = true :=
  List.rtakeWhile_eq_self_iff

end Text

theorem Block.blankTail_closing (blanks tail : Text) :
    (blanks ++ (closeToken ++ tail)).blankTail = tail.blankTail := by
  have token : closeToken = "\x7d]".toList ++ [';'] := by decide +kernel
  rw [token, List.append_assoc, List.singleton_append, ← List.append_assoc]
  exact Text.blankTail_append_cons (by decide) _ tail

namespace Edit

private theorem emit_block (policy : Policy) (line : Text) (body : List Text) (blanks tail : Text) :
    Section.emit policy (.block line body (blanks ++ (Block.closeToken ++ tail))) =
      openingLine line ++ body.flatten ++ Alert.indentation line ++ (Block.closeToken ++ tail.blankTail) := by
  rw [Section.emit, replaceCall_some, closingLine, Block.blankTail_closing]
  simp only [List.append_assoc]

/-- However a run ends, a tap block that it has replaced ends in the closing token and the blanks at the end
of what followed the token. That is all that followed it exactly if nothing else did. -/
theorem replaced_block_keeps_blanks (policy : Policy) (buffer : List Text) :
    ∃ done left, sections buffer = done ++ left ∧
      (run policy buffer).buffer = done.map (Section.emit policy) ++ left.flatMap Section.lines ∧
      (∀ report, (run policy buffer).result = .ok report → left = []) ∧
      ∀ (index : Nat) line body closer, done[index]? = some (.block line body closer) →
        ∀ blanks tail, closer = blanks ++ (Block.closeToken ++ tail) →
          (∀ c ∈ blanks, isBlank c = true) →
          (run policy buffer).buffer[index]? =
            some (openingLine line ++ body.flatten ++ Alert.indentation line ++
              (Block.closeToken ++ tail.blankTail)) ∧
          (tail.blankTail = tail ↔ ∀ c ∈ tail, isBlank c = true) := by
  obtain ⟨done, left, divided, edited, complete⟩ := run_divided policy buffer
  refine ⟨done, left, divided, edited, complete, ?_⟩
  rintro index line body closer found blanks tail rfl _
  refine ⟨?_, Text.blankTail_eq_self_iff⟩
  obtain ⟨within, _⟩ := List.getElem?_eq_some_iff.mp found
  rw [edited, List.getElem?_append_left (by rwa [List.length_map]), List.getElem?_map, found,
    Option.map_some, emit_block]

def commentedBuffer : List Text :=
  [sampleCall [], "show();\n".toList, "\x7d]; // done\n".toList]

private theorem sections_commentedBuffer :
    sections commentedBuffer =
      [.block (sampleCall []) ["show();\n".toList]
        ([] ++ (Block.closeToken ++ " // done\n".toList))] := by
  decide +kernel

private theorem run_commentedBuffer (policy : Policy) :
    run policy commentedBuffer =
      Pass.toRun ⟨.settled, (sections commentedBuffer).map (Section.emit policy),
        enterAll policy 0 .empty (sections commentedBuffer)⟩ := by
  apply run_eq_of_going (by decide +kernel)
  rw [sections_commentedBuffer]
  exact List.forall_mem_singleton.mpr (stops_eq_false_of_closed rfl)

theorem replaced_block_keeps_blanks_sample :
    sections commentedBuffer =
        [.block (sampleCall []) ["show();\n".toList] ([] ++ (Block.closeToken ++ " // done\n".toList))] ∧
      (run .skip commentedBuffer).buffer[0]? =
        some (openingLine (sampleCall []) ++ ["show();\n".toList].flatten ++
          Alert.indentation (sampleCall []) ++ (Block.closeToken ++ Text.blankTail " // done\n".toList)) := by
  refine ⟨sections_commentedBuffer, ?_⟩
  obtain ⟨done, left, divided, _, complete, kept⟩ := replaced_block_keeps_blanks .skip commentedBuffer
  have finished : left = [] := complete _ (by rw [run_commentedBuffer]; rfl)
  have found : done[0]? = some (.block (sampleCall []) ["show();\n".toList]
      ([] ++ (Block.closeToken ++ " // done\n".toList))) := by
    rw [finished, List.append_nil, sections_commentedBuffer] at divided
    rw [← divided, List.getElem?_cons_zero]
  exact (kept 0 _ _ _ found [] _ rfl (fun _ member => (List.not_mem_nil member).elim)).1

private theorem comment_dropped (policy : Policy) :
    ∃ report element, (run policy commentedBuffer).result = .ok report ∧ report.blockConverted = 1 ∧
      (run policy commentedBuffer).buffer = [element] ∧
      ¬ (Block.closeToken ++ " // done\n".toList) <:+ element := by
  rw [run_commentedBuffer, sections_commentedBuffer]
  refine ⟨_, replaceCall (sampleCall []) (some ["show();\n".toList].flatten) _, rfl, rfl, rfl, ?_⟩
  decide +kernel

/-- Under none of the policies does a replaced tap block keep all that follows its closing token. -/
theorem replaced_block_drops_comment :
    (∃ report element, (run .skip commentedBuffer).result = .ok report ∧ report.blockConverted = 1 ∧
      (run .skip commentedBuffer).buffer = [element] ∧
      ¬ (Block.closeToken ++ " // done\n".toList) <:+ element) ∧
    (∃ report element, (run .collapse commentedBuffer).result = .ok report ∧ report.blockConverted = 1 ∧
      (run .collapse commentedBuffer).buffer = [element] ∧
      ¬ (Block.closeToken ++ " // done\n".toList) <:+ element) ∧
    ∃ report element, (run .error commentedBuffer).result = .ok report ∧ report.blockConverted = 1 ∧
      (run .error commentedBuffer).buffer = [element] ∧
      ¬ (Block.closeToken ++ " // done\n".toList) <:+ element :=
  ⟨comment_dropped .skip, comment_dropped .collapse, comment_dropped .error⟩

end Edit

end AlertMigration
