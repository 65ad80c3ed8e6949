import AlertMigration.Proofs.FileMigration

/-!
A text is reported as changed exactly if it has changed.

The report counts replacements and compares no texts. A run without replacements gives its text back, since the
lines of a text hold all of it. With replacements, the text up to the first replaced call is as it was, and
there the two calls part at their ninth character, whatever follows.
-/

namespace AlertMigration

namespace Alert

theorem controllerCall_append_ne (rest other : Text) : controllerCall ++ rest ≠ opening ++ other := by
  intro same
  obtain ⟨modern, legacy⟩ : controllerCall[8]? = some 'C' ∧ opening[8]? = some 'V' := by decide +kernel
  obtain ⟨modernReaches, _⟩ := List.getElem?_eq_some_iff.mp modern
  obtain ⟨legacyReaches, _⟩ := List.getElem?_eq_some_iff.mp legacy
  have ninth : (controllerCall ++ rest)[8]? = (opening ++ other)[8]? := by rw [same]
  rw [List.getElem?_append_left modernReaches, List.getElem?_append_left legacyReaches, modern,
    legacy] at ninth
  cases ninth

end Alert

namespace Edit

private theorem exists_replaceCall_eq {line : Text} (call : Alert.isCall line = true) (body : Option Text)
    (last : Text) :
    ∃ after, replaceCall line body last = line.blankHead ++ (Alert.controllerCall ++ after) := by
  simp only [replaceCall, Alert.replacement, Alert.controllerHead, Alert.indentation_eq_blankHead call,
    List.append_assoc]
  exact ⟨_, rfl⟩

private theorem replaceCall_append_ne {line : Text} (call : Alert.isCall line = true) (body : Option Text)
    (last rest other : Text) : replaceCall line body last ++ rest ≠ line ++ other := by
  intro same
  obtain ⟨later, replaced⟩ := exists_replaceCall_eq call body last
  obtain ⟨after, whole⟩ := Alert.exists_eq_blankHead_append call
  have parted : line.blankHead ++ (Alert.controllerCall ++ (later ++ rest)) =
      line.blankHead ++ (Alert.opening ++ (after ++ other)) :=
    calc line.blankHead ++ (Alert.controllerCall ++ (later ++ rest))
        = replaceCall line body last ++ rest := by simp only [replaced, List.append_assoc]
      _ = line ++ other := same
      _ = (line.blankHead ++ (Alert.opening ++ after)) ++ other := by rw [← whole]
      _ = line.blankHead ++ (Alert.opening ++ (after ++ other)) := by simp only [List.append_assoc]
  exact Alert.controllerCall_append_ne _ _ (List.append_cancel_left parted)

private theorem emit_append_ne {policy : Policy} {part : Section} (valid : part.Valid)
    (replaced : part.replacedCalls policy ≠ []) (rest other : Text) :
    part.emit policy ++ rest ≠ part.lines.flatten ++ other := by
  cases part with
  | plain line => exact absurd rfl replaced
  | inline line =>
      rw [Section.lines, List.flatten_singleton]
      exact replaceCall_append_ne (Alert.isCall_of_inline valid) _ _ _ _
  | block line body closer =>
      rw [Section.lines, List.flatten_cons, List.append_assoc]
      exact replaceCall_append_ne (Alert.isCall_of_block valid.1) _ _ _ _
  | unclosed line =>
      rw [Section.lines, List.flatten_singleton]
      cases policy with
      | skip => exact absurd rfl replaced
      | error => exact absurd rfl replaced
      | collapse => exact replaceCall_append_ne (Alert.isCall_of_block valid) _ _ _ _

theorem flatten_map_emit_ne {policy : Policy} {parts : List Section} (valid : ∀ part ∈ parts, part.Valid)
    (replaced : parts.flatMap (Section.replacedCalls policy) ≠ []) :
    (parts.map (Section.emit policy)).flatten ≠ (parts.flatMap Section.lines).flatten := by
  induction parts with
  | nil => exact absurd rfl replaced
  | cons part rest ih =>
      obtain ⟨here, later⟩ := List.forall_mem_cons.mp valid
      rw [List.map_cons, List.flatten_cons, List.flatMap_cons, List.flatten_append]
      by_cases kept : part.replacedCalls policy = []
      · rw [List.flatMap_cons, kept, List.nil_append] at replaced
        rw [lines_eq_of_replacedCalls kept, List.flatten_singleton]
        exact fun same => ih later replaced (List.append_cancel_left same)
      · exact emit_append_ne here kept _ _

end Edit

namespace Source

theorem changed_iff_replacedCalls {policy : Policy} {source migrated : Text} {outcome : Outcome}
    (done : (migrate policy source).result = .ok (migrated, outcome)) :
    outcome.changed = true ↔
      (Edit.sections source.splitLines).flatMap (Edit.Section.replacedCalls policy) ≠ [] := by
  obtain ⟨_, _, _, rfl⟩ := migrate_eq_of_ok done
  have counted := Edit.converted_enterAll policy 0 .empty (Edit.sections source.splitLines)
  change decide (0 < _) = true ↔ _
  rw [decide_eq_true_iff, counted, ← List.length_pos_iff]
  exact Iff.of_eq (congrArg (0 < ·) (Nat.zero_add _))

theorem changed_iff_ne {policy : Policy} {source migrated : Text} {outcome : Outcome}
    (done : (migrate policy source).result = .ok (migrated, outcome)) :
    outcome.changed = true ↔ migrated ≠ source := by
  obtain ⟨_, joined, _, _⟩ := migrate_eq_of_ok done
  have whole : ((Edit.sections source.splitLines).flatMap Edit.Section.lines).flatten = source := by
    rw [Edit.flatMap_lines_sections, Text.flatten_splitLines]
  rw [changed_iff_replacedCalls done, joined]
  constructor
  · intro replaced
    have different := Edit.flatten_map_emit_ne (Edit.valid_sections source.splitLines) replaced
    rwa [whole] at different
  · intro different none
    rw [Edit.map_emit_eq_of_replacedCalls none, whole] at different
    exact different rfl

end Source

namespace File

open File.Tree (FileAt)

section Written

variable {job : Job} {tree : Tree} {path : Path} {place : Location} {source migrated : Text}
  {outcome : Source.Outcome} (file : FileAt tree path place (encode source))
  (done : (Source.migrate job.policy source).result = .ok (migrated, outcome)) (wanted : job.write = true)

include file done

private theorem migrate_of_eq (same : migrated = source) :
    (migrate job tree path).result = .ok ⟨path, outcome⟩ ∧ (migrate job tree path).tree = tree := by
  have unchanged : outcome.changed = false := by
    apply Bool.eq_false_iff.mpr
    exact fun changed => (Source.changed_iff_ne done).mp changed same
  have readable := Tree.read_eq_ok_iff.mpr ⟨place, file⟩
  exact migrate_of_idle readable (decode?_encode source) done (by rw [unchanged, Bool.and_false])

include wanted

private theorem migrate_of_ne (different : migrated ≠ source) (allowed : StoreAllowed job tree path) :
    (migrate job tree path).result = .ok ⟨path, outcome⟩ ∧
      FileAt (migrate job tree path).tree path place (encode migrated) := by
  have due : WriteDue job tree path place (encode source) migrated outcome :=
    ⟨file, ⟨source, decode?_encode source, done⟩, wanted, (Source.changed_iff_ne done).mpr different⟩
  obtain ⟨finished, replaced⟩ := (migrate_of_due due).1 allowed
  exact ⟨finished, replaced.written⟩

theorem migrate_of_allowed (allowed : StoreAllowed job tree path) :
    (migrate job tree path).result = .ok ⟨path, outcome⟩ ∧
      FileAt (migrate job tree path).tree path place (encode migrated) := by
  by_cases same : migrated = source
  · obtain ⟨finished, kept⟩ := migrate_of_eq file done same
    rw [kept, same]
    exact ⟨finished, file⟩
  · exact migrate_of_ne file done wanted same allowed

end Written

/-- A migrated text is reported as changed exactly if it differs from its source. So a file is written exactly
if its content is about to change. -/
theorem changed_exact {policy : Policy} {source migrated : Text} {outcome : Source.Outcome}
    (done : (Source.migrate policy source).result = .ok (migrated, outcome)) :
    (outcome.changed = true ↔ migrated ≠ source) ∧
    ∀ (job : Job) (tree : Tree) (path : Path) (place : Location), job.policy = policy → job.write = true →
      FileAt tree path place (encode source) →
      (migrated = source → (migrate job tree path).tree = tree) ∧
      (migrated ≠ source → StoreAllowed job tree path →
        FileAt (migrate job tree path).tree path place (encode migrated)) := by
  refine ⟨Source.changed_iff_ne done, fun job tree path place chosen wanted file => ?_⟩
  rw [← chosen] at done
  exact ⟨fun same => (migrate_of_eq file done same).2,
    fun different allowed => (migrate_of_ne file done wanted different allowed).2⟩

theorem changed_exact_sample :
    ∃ migrated outcome, (Source.migrate .skip Source.nestedSource).result = .ok (migrated, outcome) ∧
      migrated ≠ Source.nestedSource ∧
      FileAt (migrate (sampleJob false) sampleTree samplePath).tree samplePath samplePlace
        (encode migrated) := by
  obtain ⟨migrated, outcome, done, changed⟩ := exists_changed_nestedSource .skip
  obtain ⟨exactly, written⟩ := changed_exact done
  have different := exactly.mp changed
  have stored := (written (sampleJob false) sampleTree samplePath _ rfl rfl fileAt_sampleTree.1).2
  exact ⟨migrated, outcome, done, different, stored different storeAllowed_sampleTree⟩

end File

end AlertMigration
