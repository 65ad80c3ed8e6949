import AlertMigration.Proofs.Resting

/-!
What one pass does.

A pass goes over lines that it keeps, and then ends: at the end of the buffer, at a call that it replaces, or at
a call that stops it. `passFrom_cases` says this for every policy, buffer and ledger; what a pass leaves of the
lines, the report and the skipped positions is read off from there.
-/

namespace AlertMigration.Edit

/-! ### One replacement -/

/-- What is written over a call that `rest` follows, and the lines that are left after it. -/
inductive Conversion (policy : Policy) (line : Text) (rest : List Text) : Text → List Text → Prop
  | inline (kind : Alert.classify line = .inline) :
      Conversion policy line rest (replaceCall line none line) rest
  | block {body after : List Text} {closer : Text} (kind : Alert.classify line = .block)
      (cut : cutAtCloser? (Alert.indentation line).length rest = some (body, closer, after)) :
      Conversion policy line rest (replaceCall line (some body.flatten) closer) after
  | collapsed (kind : Alert.classify line = .block)
      (missing : cutAtCloser? (Alert.indentation line).length rest = none) (chosen : policy = .collapse) :
      Conversion policy line rest (replaceCall line (some []) line) rest

theorem Conversion.isCall {policy : Policy} {line text : Text} {rest left : List Text}
    (conversion : Conversion policy line rest text left) :
    Alert.isCall line = true ∧ Alert.isCall text = false := by
  cases conversion with
  | inline kind => exact ⟨Alert.isCall_of_inline kind, isCall_replaceCall ..⟩
  | block kind _ => exact ⟨Alert.isCall_of_block kind, isCall_replaceCall ..⟩
  | collapsed kind _ _ => exact ⟨Alert.isCall_of_block kind, isCall_replaceCall ..⟩

/-! ### The way of a pass -/

/-- A pass goes over lines that `rest` follows, from the first ledger to the second: it keeps all of them, and
notes the unterminated calls among them that are not skipped yet. -/
inductive GoesOver (policy : Policy) (rest : List Text) : Nat → Ledger → List Text → Ledger → Prop
  | nil (index : Nat) (ledger : Ledger) : GoesOver policy rest index ledger [] ledger
  | skipped {index : Nat} {ledger noted : Ledger} {front : List Text} (line : Text)
      (member : index ∈ ledger.skipped) (later : GoesOver policy rest (index + 1) ledger front noted) :
      GoesOver policy rest index ledger (line :: front) noted
  | plain {index : Nat} {ledger noted : Ledger} {front : List Text} {line : Text}
      (kind : Alert.classify line = .other) (later : GoesOver policy rest (index + 1) ledger front noted) :
      GoesOver policy rest index ledger (line :: front) noted
  | leftOpen {index : Nat} {ledger noted : Ledger} {front : List Text} {line : Text} (chosen : policy = .skip)
      (leftOpen : LeftOpen line (front ++ rest))
      (later : GoesOver policy rest (index + 1) (ledger.noteSkipped index) front noted) :
      GoesOver policy rest index ledger (line :: front) noted

inductive Entered (index : Nat) (ledger : Ledger) : Ledger → Prop
  | inline : Entered index ledger (ledger.noteInline index)
  | block (stop : Nat) : Entered index ledger (ledger.noteBlock index stop)
  | collapsed : Entered index ledger (ledger.noteCollapsed index)

inductive EndsAt (policy : Policy) (index : Nat) (ledger : Ledger) : List Text → Pass → Prop
  | settled : EndsAt policy index ledger [] ⟨.settled, [], ledger⟩
  | converted {line text : Text} {rest left : List Text} {entered : Ledger} (fresh : index ∉ ledger.skipped)
      (conversion : Conversion policy line rest text left) (counted : Entered index ledger entered) :
      EndsAt policy index ledger (line :: rest) ⟨.converted, text :: left, entered⟩
  | unterminated {line : Text} {rest : List Text} (chosen : policy = .error) (leftOpen : LeftOpen line rest) :
      EndsAt policy index ledger (line :: rest)
        ⟨.failed (.unterminatedBlock (index + 1)), line :: rest, ledger⟩
  | tooWide {line : Text} {rest : List Text} (wide : Block.widthLimit ≤ (Alert.indentation line).length) :
      EndsAt policy index ledger (line :: rest) ⟨.failed .indentTooWide, line :: rest, ledger⟩

/-- A pass goes over the front of a buffer and ends at the rest. -/
def Proceeds (policy : Policy) (index : Nat) (ledger : Ledger) (buffer : List Text) (pass : Pass) : Prop :=
  ∃ front rest noted last, buffer = front ++ rest ∧ GoesOver policy rest index ledger front noted ∧
    EndsAt policy (index + front.length) noted rest last ∧ pass = last.afterAll front

theorem Proceeds.of_endsAt {policy : Policy} {index : Nat} {ledger : Ledger} {buffer : List Text}
    {pass : Pass}
    (ends : EndsAt policy index ledger buffer pass) : Proceeds policy index ledger buffer pass :=
  ⟨[], buffer, ledger, pass, rfl, .nil index ledger, ends, rfl⟩

theorem Proceeds.after {policy : Policy} {index : Nat} {ledger next : Ledger} {line : Text}
    {lines : List Text} {pass : Pass} (proceeds : Proceeds policy (index + 1) next lines pass)
    (passed : ∀ front rest noted, lines = front ++ rest → GoesOver policy rest (index + 1) next front noted →
      GoesOver policy rest index ledger (line :: front) noted) :
    Proceeds policy index ledger (line :: lines) (pass.after line) := by
  obtain ⟨front, rest, noted, last, divided, goes, ends, rfl⟩ := proceeds
  refine ⟨line :: front, rest, noted, last, by rw [divided]; rfl, passed front rest noted divided goes, ?_,
    rfl⟩
  rwa [List.length_cons, Nat.add_comm front.length, ← Nat.add_assoc]

theorem passFrom_cases (policy : Policy) (index : Nat) (ledger : Ledger) (buffer : List Text) :
    Proceeds policy index ledger buffer (passFrom policy index ledger buffer) := by
  induction buffer generalizing index ledger with
  | nil => exact .of_endsAt .settled
  | cons line lines ih =>
      rw [passFrom]
      split
      · rename_i skipped
        exact (ih (index + 1) ledger).after fun _ _ _ _ later =>
          .skipped line (List.contains_iff_mem.mp skipped) later
      · rename_i active
        have fresh : index ∉ ledger.skipped := fun member => active (List.contains_iff_mem.mpr member)
        cases kind : Alert.classify line with
        | other =>
            rw [decideAt_other kind]
            exact (ih (index + 1) ledger).after fun _ _ _ _ later => .plain kind later
        | inline =>
            rw [decideAt_inline kind]
            exact .of_endsAt (.converted fresh (.inline kind) .inline)
        | block =>
            by_cases narrow : (Alert.indentation line).length < Block.widthLimit
            · cases cut : cutAtCloser? (Alert.indentation line).length lines with
              | some found =>
                  rcases found with ⟨body, closer, after⟩
                  obtain ⟨decided, left⟩ := decideAt_block kind narrow cut
                  rw [decided]
                  simp only [left]
                  exact .of_endsAt (.converted fresh (.block kind cut) (.block _))
              | none =>
                  have leftOpen : LeftOpen line lines := ⟨kind, narrow, cutAtCloser?_eq_none cut⟩
                  rw [decideAt_unterminated kind narrow cut]
                  cases policy with
                  | skip =>
                      exact (ih (index + 1) (ledger.noteSkipped index)).after fun _ _ _ divided later =>
                        .leftOpen rfl (divided ▸ leftOpen) later
                  | collapse => exact .of_endsAt (.converted fresh (.collapsed kind cut rfl) .collapsed)
                  | error => exact .of_endsAt (.unterminated rfl leftOpen)
            · rw [decideAt_tooWide kind narrow]
              exact .of_endsAt (.tooWide (Nat.le_of_not_lt narrow))

/-! ### Lines that a pass has gone over -/

section GoesOver

variable {policy : Policy} {rest front : List Text} {index : Nat} {ledger noted : Ledger}

theorem GoesOver.skipped_subset (goes : GoesOver policy rest index ledger front noted) :
    ledger.skipped ⊆ noted.skipped := by
  induction goes with
  | nil index ledger => exact List.Subset.refl _
  | skipped line member later ih => exact ih
  | plain kind later ih => exact ih
  | leftOpen chosen leftOpen later ih => exact fun position member => ih (List.mem_append_left _ member)

theorem GoesOver.mem_skipped (goes : GoesOver policy rest index ledger front noted) {place : Nat}
    {line : Text} (present : front[place]? = some line) (call : Alert.classify line ≠ .other) :
    index + place ∈ noted.skipped := by
  induction goes generalizing place with
  | nil index ledger => cases present
  | @skipped index _ _ _ _ member later ih =>
      cases place with
      | zero => exact later.skipped_subset member
      | succ place =>
          rw [← Nat.add_assoc, Nat.add_right_comm]
          exact ih present
  | @plain index _ _ _ _ kind later ih =>
      cases place with
      | zero =>
          cases present
          exact absurd kind call
      | succ place =>
          rw [← Nat.add_assoc, Nat.add_right_comm]
          exact ih present
  | @leftOpen index _ _ _ _ chosen leftOpen later ih =>
      cases place with
      | zero => exact later.skipped_subset (List.mem_append_right _ (List.mem_singleton_self index))
      | succ place =>
          rw [← Nat.add_assoc, Nat.add_right_comm]
          exact ih present

theorem GoesOver.converted_eq (goes : GoesOver policy rest index ledger front noted) :
    noted.report.converted = ledger.report.converted := by
  induction goes with
  | nil index ledger => rfl
  | skipped line member later ih => exact ih
  | plain kind later ih => exact ih
  | leftOpen chosen leftOpen later ih => exact ih

theorem GoesOver.eq_of_ne_skip (goes : GoesOver policy rest index ledger front noted)
    (strict : policy ≠ .skip) : noted = ledger := by
  induction goes with
  | nil index ledger => rfl
  | skipped line member later ih => exact ih
  | plain kind later ih => exact ih
  | leftOpen chosen leftOpen later ih => exact absurd chosen strict

end GoesOver

theorem Entered.converted_eq {index : Nat} {ledger entered : Ledger}
    (counted : Entered index ledger entered) :
    entered.report.converted = ledger.report.converted + 1 := by
  cases counted <;> rfl

theorem Conversion.exists_taken {policy : Policy} {line text : Text} {rest left : List Text}
    (conversion : Conversion policy line rest text left) : ∃ taken, rest = taken ++ left := by
  cases conversion with
  | inline kind => exact ⟨[], rfl⟩
  | @block body after closer kind cut =>
      refine ⟨body ++ [closer], ?_⟩
      rw [(cutAtCloser?_eq_some cut).1, List.append_assoc]
      rfl
  | collapsed kind missing chosen => exact ⟨[], rfl⟩

theorem Entered.skipped_eq {index : Nat} {ledger entered : Ledger} (counted : Entered index ledger entered) :
    entered.skipped = ledger.skipped := by
  cases counted <;> rfl

theorem report_passes {policy : Policy} {buffer : List Text} {report : Report}
    (finished : (run policy buffer).result = .ok report) :
    (passes policy buffer .empty).ledger.report = report := by
  rw [run, Pass.toRun] at finished
  dsimp only at finished
  split at finished
  · cases finished
  · exact Except.ok.inj finished

end AlertMigration.Edit
