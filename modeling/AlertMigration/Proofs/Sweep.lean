import AlertMigration.Edit

/-!
A run is one sweep.

A run starts over from the first line after each replacement, and so reads its own output again and
again. A sweep reads the buffer once from left to right and never looks at what it has emitted. Main
statement: both leave the same buffer, report, log and error behind.

The invariant is `Settled`: a pass goes over the emitted lines without effect. Every step of the sweep
keeps it, since all that is written is inert and a call that is left alone is noted as such.
-/

namespace AlertMigration.Alert

theorem classify_eq_other_iff {line : Text} : classify line = .other ↔ isCall line = false := by
  unfold classify
  cases isCall line with
  | false => simp
  | true => cases opensBlock line <;> simp

theorem classify_ne_other_iff {line : Text} : classify line ≠ .other ↔ isCall line = true := by
  rw [ne_eq, classify_eq_other_iff, Bool.not_eq_false]

theorem classify_eq_inline_iff {line : Text} :
    classify line = .inline ↔ isCall line = true ∧ opensBlock line = false := by
  unfold classify
  cases isCall line <;> cases opensBlock line <;> simp

theorem classify_eq_block_iff {line : Text} :
    classify line = .block ↔ isCall line = true ∧ opensBlock line = true := by
  unfold classify
  cases isCall line <;> cases opensBlock line <;> simp

theorem isCall_of_ne_other {line : Text} (kind : classify line ≠ .other) : isCall line = true :=
  classify_ne_other_iff.mp kind

theorem isCall_of_inline {line : Text} (kind : classify line = .inline) : isCall line = true :=
  isCall_of_ne_other (by rw [kind]; decide)

theorem isCall_of_block {line : Text} (kind : classify line = .block) : isCall line = true :=
  isCall_of_ne_other (by rw [kind]; decide)

theorem length_indentation_le (line : Text) : (indentation line).length ≤ line.length := by
  unfold indentation
  split
  · exact (List.takeWhile_prefix _).length_le
  · exact Nat.zero_le _

end AlertMigration.Alert

namespace AlertMigration.Edit

/-! ### The sweep -/

def cutAtCloser? (width : Nat) : List Text → Option (List Text × Text × List Text)
  | [] => none
  | line :: rest =>
      if Block.closes width line then
        some ([], line, rest)
      else
        (cutAtCloser? width rest).map fun (body, closer, after) => (line :: body, closer, after)

theorem cutAtCloser?_eq_some {width : Nat} {lines body after : List Text} {closer : Text}
    (cut : cutAtCloser? width lines = some (body, closer, after)) :
    lines = body ++ closer :: after ∧ (∀ line ∈ body, Block.closes width line = false) ∧
      Block.closes width closer = true := by
  induction lines generalizing body with
  | nil => cases cut
  | cons line rest ih =>
      unfold cutAtCloser? at cut
      split at cut
      · rename_i closing
        cases cut
        exact ⟨rfl, fun _ member => (List.not_mem_nil member).elim, closing⟩
      · rename_i other
        obtain ⟨⟨inner, found, remaining⟩, restCut, same⟩ := Option.map_eq_some_iff.mp cut
        cases same
        obtain ⟨whole, before, closing⟩ := ih restCut
        refine ⟨by rw [whole]; rfl, ?_, closing⟩
        exact List.forall_mem_cons.mpr ⟨Bool.eq_false_iff.mpr other, before⟩

theorem cutAtCloser?_eq_none {width : Nat} {lines : List Text}
    (missing : cutAtCloser? width lines = none) : ∀ line ∈ lines, Block.closes width line = false := by
  induction lines with
  | nil => exact fun _ member => (List.not_mem_nil member).elim
  | cons line rest ih =>
      unfold cutAtCloser? at missing
      split at missing
      · cases missing
      · rename_i other
        have later := ih (Option.map_eq_none_iff.mp missing)
        exact List.forall_mem_cons.mpr ⟨Bool.eq_false_iff.mpr other, later⟩

theorem length_lt_of_cutAtCloser? {width : Nat} {lines body after : List Text} {closer : Text}
    (cut : cutAtCloser? width lines = some (body, closer, after)) : after.length < lines.length := by
  obtain ⟨whole, _⟩ := cutAtCloser?_eq_some cut
  rw [whole, List.length_append, List.length_cons]
  omega

/-- A sweep over the lines that are left to read. Positions are counted in the lines emitted so far, and
the end of a tap block is only looked for among the lines to come. -/
def sweepFrom (policy : Policy) (emitted : List Text) (ledger : Ledger) : List Text → Pass
  | [] => ⟨.settled, emitted, ledger⟩
  | line :: rest =>
      match Alert.classify line with
      | .other => sweepFrom policy (emitted ++ [line]) ledger rest
      | .inline =>
          sweepFrom policy (emitted ++ [replaceCall line none line])
            (ledger.noteInline emitted.length) rest
      | .block =>
          match cut : cutAtCloser? (Alert.indentation line).length rest with
          | some (body, closer, after) =>
              have : after.length < rest.length := length_lt_of_cutAtCloser? cut
              sweepFrom policy (emitted ++ [replaceCall line (some body.flatten) closer])
                (ledger.noteBlock emitted.length (emitted.length + (body.length + 1))) after
          | none =>
              match policy with
              | .skip =>
                  sweepFrom policy (emitted ++ [line]) (ledger.noteSkipped emitted.length) rest
              | .collapse =>
                  sweepFrom policy (emitted ++ [replaceCall line (some []) line])
                    (ledger.noteCollapsed emitted.length) rest
              | .error =>
                  ⟨.failed (.unterminatedBlock (emitted.length + 1)), emitted ++ line :: rest, ledger⟩
termination_by lines => lines.length

def sweep (policy : Policy) (buffer : List Text) : Run :=
  (sweepFrom policy [] .empty buffer).toRun

/-! ### What is decided at a line -/

theorem firstClosing?_of_cutAtCloser? {width : Nat} {lines body after : List Text} {closer : Text}
    (cut : cutAtCloser? width lines = some (body, closer, after)) :
    Block.firstClosing? width lines = some body.length := by
  obtain ⟨whole, before, closing⟩ := cutAtCloser?_eq_some cut
  have noneBefore : body.findIdx? (Block.closes width) = none := List.findIdx?_eq_none_iff.mpr before
  rw [Block.firstClosing?, whole, List.findIdx?_append, noneBefore, List.findIdx?_cons, closing]
  simp

theorem firstClosing?_eq_none {width : Nat} {lines : List Text}
    (missing : cutAtCloser? width lines = none) : Block.firstClosing? width lines = none :=
  List.findIdx?_eq_none_iff.mpr (cutAtCloser?_eq_none missing)

theorem decideAt_other {line : Text} (kind : Alert.classify line = .other) (rest : List Text) :
    decideAt line rest = .keep := by
  simp only [decideAt, kind]

theorem decideAt_inline {line : Text} (kind : Alert.classify line = .inline) (rest : List Text) :
    decideAt line rest = .inline (replaceCall line none line) := by
  simp only [decideAt, kind]

theorem decideAt_block {line : Text} {rest body after : List Text} {closer : Text}
    (kind : Alert.classify line = .block) (narrow : (Alert.indentation line).length < Block.widthLimit)
    (cut : cutAtCloser? (Alert.indentation line).length rest = some (body, closer, after)) :
    decideAt line rest = .block (body.length + 1) (replaceCall line (some body.flatten) closer) ∧
      rest.drop (body.length + 1) = after := by
  obtain ⟨whole, _⟩ := cutAtCloser?_eq_some cut
  have bodyTaken : rest.take body.length = body := by rw [whole]; simp
  have closerFound : rest.getD body.length [] = closer := by rw [whole]; simp
  constructor
  · simp only [decideAt, kind, if_pos narrow, firstClosing?_of_cutAtCloser? cut, bodyTaken, closerFound]
  · rw [whole]
    simp

theorem decideAt_unterminated {line : Text} {rest : List Text}
    (kind : Alert.classify line = .block) (narrow : (Alert.indentation line).length < Block.widthLimit)
    (missing : cutAtCloser? (Alert.indentation line).length rest = none) :
    decideAt line rest = .unterminated (replaceCall line (some []) line) := by
  simp only [decideAt, kind, if_pos narrow, firstClosing?_eq_none missing]

theorem decideAt_tooWide {line : Text} (kind : Alert.classify line = .block)
    (wide : ¬ (Alert.indentation line).length < Block.widthLimit) (rest : List Text) :
    decideAt line rest = .tooWide := by
  simp only [decideAt, kind, if_neg wide]

/-! ### Going over settled lines -/

/-- A pass goes over the emitted lines without effect: each is inert or left alone. Nothing beyond them
is left alone. -/
structure Settled (emitted : List Text) (ledger : Ledger) : Prop where
  inert : ∀ index line, emitted[index]? = some line → Alert.isCall line = true → index ∈ ledger.skipped
  bounded : ∀ index ∈ ledger.skipped, index < emitted.length

theorem Settled.empty : Settled [] .empty where
  inert index line present := by simp at present
  bounded index member := (List.not_mem_nil member).elim

theorem Settled.push {emitted : List Text} {ledger next : Ledger} {text : Text}
    (settled : Settled emitted ledger) (inert : Alert.isCall text = false)
    (same : next.skipped = ledger.skipped) : Settled (emitted ++ [text]) next where
  inert index line present call := by
    rw [same]
    rcases Nat.lt_or_ge index emitted.length with earlier | later
    · rw [List.getElem?_append_left earlier] at present
      exact settled.inert index line present call
    · rw [List.getElem?_append_right later] at present
      obtain ⟨_, atEnd⟩ := List.getElem?_eq_some_iff.mp present
      rw [List.getElem_singleton] at atEnd
      rw [← atEnd, inert] at call
      cases call
  bounded index member := by
    rw [same] at member
    have earlier := settled.bounded index member
    simp only [List.length_append, List.length_singleton]
    omega

theorem Settled.pushSkipped {emitted : List Text} {ledger : Ledger} (settled : Settled emitted ledger)
    (line : Text) : Settled (emitted ++ [line]) (ledger.noteSkipped emitted.length) where
  inert index other present call := by
    change index ∈ ledger.skipped ++ [emitted.length]
    rcases Nat.lt_or_ge index emitted.length with earlier | later
    · rw [List.getElem?_append_left earlier] at present
      exact List.mem_append_left _ (settled.inert index other present call)
    · obtain ⟨within, _⟩ := List.getElem?_eq_some_iff.mp present
      simp only [List.length_append, List.length_singleton] at within
      exact List.mem_append_right _ (List.mem_singleton.mpr (by omega))
  bounded index member := by
    simp only [List.length_append, List.length_singleton]
    rcases List.mem_append.mp member with earlier | atEnd
    · have before := settled.bounded index earlier
      omega
    · have same : index = emitted.length := List.mem_singleton.mp atEnd
      omega

def Pass.afterAll (lines : List Text) (pass : Pass) : Pass :=
  { pass with buffer := lines ++ pass.buffer }

theorem Pass.afterAll_snoc (lines : List Text) (line : Text) (pass : Pass) :
    pass.afterAll (lines ++ [line]) = (pass.after line).afterAll lines := by
  simp only [afterAll, after, List.append_assoc, List.singleton_append]

theorem passFrom_append (policy : Policy) (start : Nat) (ledger : Ledger) (front rest : List Text)
    (inert : ∀ index line, front[index]? = some line → Alert.isCall line = true →
      start + index ∈ ledger.skipped) :
    passFrom policy start ledger (front ++ rest) =
      (passFrom policy (start + front.length) ledger rest).afterAll front := by
  induction front generalizing start with
  | nil => rfl
  | cons line front ih =>
      have later : passFrom policy (start + 1) ledger (front ++ rest) =
          (passFrom policy (start + 1 + front.length) ledger rest).afterAll front := by
        apply ih
        intro index other present call
        have skipped := inert (index + 1) other (by rw [List.getElem?_cons_succ]; exact present) call
        rwa [Nat.add_assoc, Nat.add_comm 1 index]
      have shifted : start + (line :: front).length = start + 1 + front.length := by
        rw [List.length_cons]
        omega
      have gone : (passFrom policy (start + 1) ledger (front ++ rest)).after line =
          (passFrom policy (start + (line :: front).length) ledger rest).afterAll (line :: front) := by
        rw [later, shifted]
        rfl
      rw [List.cons_append, passFrom]
      split
      · exact gone
      · rename_i active
        have plain : Alert.isCall line = false := by
          apply Bool.eq_false_iff.mpr
          intro call
          exact active (List.contains_iff_mem.mpr (inert 0 line rfl call))
        rw [decideAt_other (Alert.classify_eq_other_iff.mpr plain)]
        exact gone

theorem pass_settled {emitted : List Text} {ledger : Ledger} (settled : Settled emitted ledger)
    (policy : Policy) (rest : List Text) :
    pass policy (emitted ++ rest) ledger =
      (passFrom policy emitted.length ledger rest).afterAll emitted := by
  have gone := passFrom_append policy 0 ledger emitted rest (fun index line present call => by
    rw [Nat.zero_add]
    exact settled.inert index line present call)
  rwa [Nat.zero_add] at gone

theorem Settled.active {emitted : List Text} {ledger : Ledger} (settled : Settled emitted ledger) :
    ledger.skipped.contains emitted.length = false := by
  apply Bool.eq_false_iff.mpr
  intro left
  exact Nat.lt_irrefl _ (settled.bounded _ (List.contains_iff_mem.mp left))

/-! ### Passes made one after the other -/

theorem passes_eq (policy : Policy) (buffer : List Text) (ledger : Ledger) :
    passes policy buffer ledger =
      if (pass policy buffer ledger).verdict = .converted then
        passes policy (pass policy buffer ledger).buffer (pass policy buffer ledger).ledger
      else
        pass policy buffer ledger := by
  conv => lhs; unfold passes
  rfl

private theorem passes_of_converted {policy : Policy} {buffer next : List Text} {ledger after : Ledger}
    (step : pass policy buffer ledger = ⟨.converted, next, after⟩) :
    passes policy buffer ledger = passes policy next after := by
  rw [passes_eq, step, if_pos rfl]

theorem passes_of_ended {policy : Policy} {buffer : List Text} {ledger : Ledger} {last : Pass}
    (step : pass policy buffer ledger = last) (ended : last.verdict ≠ .converted) :
    passes policy buffer ledger = last := by
  rw [passes_eq, step, if_neg ended]

theorem passes_congr {policy : Policy} {buffer other : List Text} {ledger after : Ledger}
    (same : pass policy buffer ledger = pass policy other after) :
    passes policy buffer ledger = passes policy other after := by
  rw [passes_eq policy buffer ledger, passes_eq policy other after, same]

section Step

variable {policy : Policy} {emitted rest : List Text} {ledger : Ledger} {line : Text}

theorem passes_inline (settled : Settled emitted ledger) (kind : Alert.classify line = .inline) :
    passes policy (emitted ++ line :: rest) ledger =
      passes policy (emitted ++ [replaceCall line none line] ++ rest)
        (ledger.noteInline emitted.length) := by
  apply passes_of_converted
  rw [pass_settled settled, passFrom, settled.active, decideAt_inline kind, List.append_assoc]
  rfl

theorem passes_block {body after : List Text} {closer : Text} (settled : Settled emitted ledger)
    (kind : Alert.classify line = .block) (narrow : (Alert.indentation line).length < Block.widthLimit)
    (cut : cutAtCloser? (Alert.indentation line).length rest = some (body, closer, after)) :
    passes policy (emitted ++ line :: rest) ledger =
      passes policy (emitted ++ [replaceCall line (some body.flatten) closer] ++ after)
        (ledger.noteBlock emitted.length (emitted.length + (body.length + 1))) := by
  obtain ⟨decided, left⟩ := decideAt_block kind narrow cut
  apply passes_of_converted
  rw [pass_settled settled, passFrom, settled.active, decided, List.append_assoc, ← left]
  rfl

theorem passes_collapse (settled : Settled emitted ledger) (kind : Alert.classify line = .block)
    (narrow : (Alert.indentation line).length < Block.widthLimit)
    (missing : cutAtCloser? (Alert.indentation line).length rest = none) :
    passes .collapse (emitted ++ line :: rest) ledger =
      passes .collapse (emitted ++ [replaceCall line (some []) line] ++ rest)
        (ledger.noteCollapsed emitted.length) := by
  apply passes_of_converted
  rw [pass_settled settled, passFrom, settled.active, decideAt_unterminated kind narrow missing,
    List.append_assoc]
  rfl

theorem passes_skip (settled : Settled emitted ledger) (kind : Alert.classify line = .block)
    (narrow : (Alert.indentation line).length < Block.widthLimit)
    (missing : cutAtCloser? (Alert.indentation line).length rest = none) :
    passes .skip (emitted ++ line :: rest) ledger =
      passes .skip (emitted ++ [line] ++ rest) (ledger.noteSkipped emitted.length) := by
  apply passes_congr
  rw [pass_settled settled, pass_settled (settled.pushSkipped line), passFrom, settled.active,
    decideAt_unterminated kind narrow missing, Pass.afterAll_snoc, List.length_append]
  rfl

theorem passes_error (settled : Settled emitted ledger) (kind : Alert.classify line = .block)
    (narrow : (Alert.indentation line).length < Block.widthLimit)
    (missing : cutAtCloser? (Alert.indentation line).length rest = none) :
    passes .error (emitted ++ line :: rest) ledger =
      ⟨.failed (.unterminatedBlock (emitted.length + 1)), emitted ++ line :: rest, ledger⟩ := by
  refine passes_of_ended ?_ (by simp)
  rw [pass_settled settled, passFrom, settled.active, decideAt_unterminated kind narrow missing]
  rfl

theorem passes_tooWide (settled : Settled emitted ledger) (kind : Alert.classify line = .block)
    (wide : ¬ (Alert.indentation line).length < Block.widthLimit) :
    passes policy (emitted ++ line :: rest) ledger =
      ⟨.failed .indentTooWide, emitted ++ line :: rest, ledger⟩ := by
  refine passes_of_ended ?_ (by simp)
  rw [pass_settled settled, passFrom, settled.active, decideAt_tooWide kind wide]
  rfl

end Step

/-! ### The run as a sweep -/

/-- The passes over settled lines and the lines to come end as given, or they stop at a call that is
indented as far as the width limit. -/
def EndsAs (policy : Policy) (emitted : List Text) (ledger : Ledger) (todo : List Text) (last : Pass) :
    Prop :=
  passes policy (emitted ++ todo) ledger = last ∨
    (passes policy (emitted ++ todo) ledger).verdict = .failed .indentTooWide ∧
      ∃ line ∈ todo, Block.widthLimit ≤ (Alert.indentation line).length

theorem EndsAs.of_step {policy : Policy} {emitted next todo left : List Text} {ledger after : Ledger}
    {last : Pass} (ends : EndsAs policy next after left last)
    (same : passes policy (emitted ++ todo) ledger = passes policy (next ++ left) after)
    (subset : left ⊆ todo) : EndsAs policy emitted ledger todo last := by
  rcases ends with reached | ⟨stopped, line, member, wide⟩
  · exact Or.inl (same.trans reached)
  · exact Or.inr ⟨by rw [same]; exact stopped, line, subset member, wide⟩

theorem EndsAs.of_narrow {policy : Policy} {emitted rest : List Text} {ledger : Ledger} {line : Text}
    {last : Pass} (settled : Settled emitted ledger) (kind : Alert.classify line = .block)
    (ends : (Alert.indentation line).length < Block.widthLimit →
      EndsAs policy emitted ledger (line :: rest) last) :
    EndsAs policy emitted ledger (line :: rest) last := by
  by_cases narrow : (Alert.indentation line).length < Block.widthLimit
  · exact ends narrow
  · have stopped : (passes policy (emitted ++ line :: rest) ledger).verdict = .failed .indentTooWide := by
      rw [passes_tooWide settled kind narrow]
    exact Or.inr ⟨stopped, line, List.mem_cons_self, Nat.le_of_not_lt narrow⟩

theorem endsAs_sweepFrom {emitted : List Text} {ledger : Ledger} (policy : Policy) (todo : List Text)
    (settled : Settled emitted ledger) :
    EndsAs policy emitted ledger todo (sweepFrom policy emitted ledger todo) := by
  fun_induction sweepFrom policy emitted ledger todo with
  | case1 emitted ledger =>
      left
      refine passes_of_ended ?_ (by simp)
      rw [pass_settled settled]
      simp only [passFrom, Pass.afterAll, List.append_nil]
  | case2 emitted ledger line rest kind ih =>
      refine (ih (settled.push (Alert.classify_eq_other_iff.mp kind) rfl)).of_step ?_
        (List.subset_cons_self line rest)
      rw [List.append_assoc, List.singleton_append]
  | case3 emitted ledger line rest kind ih =>
      exact (ih (settled.push (isCall_replaceCall ..) rfl)).of_step (passes_inline settled kind)
        (List.subset_cons_self line rest)
  | case4 emitted ledger line rest kind body closer after cut shorter ih =>
      apply EndsAs.of_narrow settled kind
      intro narrow
      obtain ⟨whole, _⟩ := cutAtCloser?_eq_some cut
      refine (ih (settled.push (isCall_replaceCall ..) rfl)).of_step
        (passes_block settled kind narrow cut) ?_
      intro later member
      rw [whole]
      exact List.mem_cons_of_mem _ (List.mem_append_right _ (List.mem_cons_of_mem _ member))
  | case5 emitted ledger line rest kind missing chosen ih =>
      subst chosen
      apply EndsAs.of_narrow settled kind
      intro narrow
      exact (ih (settled.pushSkipped line)).of_step (passes_skip settled kind narrow missing)
        (List.subset_cons_self line rest)
  | case6 emitted ledger line rest kind missing chosen ih =>
      subst chosen
      apply EndsAs.of_narrow settled kind
      intro narrow
      exact (ih (settled.push (isCall_replaceCall ..) rfl)).of_step
        (passes_collapse settled kind narrow missing) (List.subset_cons_self line rest)
  | case7 emitted ledger line rest kind missing chosen =>
      subst chosen
      apply EndsAs.of_narrow settled kind
      intro narrow
      exact Or.inl (passes_error settled kind narrow missing)

theorem result_toRun_of_failed {last : Pass} {error : Error} (failed : last.verdict = .failed error) :
    last.toRun.result = .error error := by
  unfold Pass.toRun
  rw [failed]

theorem run_eq_sweep_of_ne_tooWide {policy : Policy} {buffer : List Text}
    (narrow : (run policy buffer).result ≠ .error .indentTooWide) :
    run policy buffer = sweep policy buffer := by
  rcases endsAs_sweepFrom policy buffer Settled.empty with reached | ⟨stopped, _⟩
  · exact congrArg Pass.toRun reached
  · exfalso
    exact narrow (result_toRun_of_failed stopped)

/-- Restarting after every replacement is the same as one sweep from left to right: on lines below the
width limit a run and a sweep leave the same buffer, report, log and error behind. -/
theorem run_eq_sweep (policy : Policy) (buffer : List Text)
    (short : ∀ line ∈ buffer, line.length < Block.widthLimit) :
    run policy buffer = sweep policy buffer := by
  rcases endsAs_sweepFrom policy buffer Settled.empty with reached | ⟨_, line, member, wide⟩
  · exact congrArg Pass.toRun reached
  · have bounded := Alert.length_indentation_le line
    have below := short line member
    omega

def sampleCall (indent : Text) : Text :=
  indent ++
    "[UIAlertView showWithTitle:t message:m cancelButtonTitle:c otherButtonTitles:o tapBlock:^\x7b\n".toList

def sampleBuffer : List Text :=
  [sampleCall [], "show();\n".toList, sampleCall "  ".toList, "\x7d];\n".toList, sampleCall " ".toList]

theorem run_eq_sweep_sample :
    (∀ line ∈ sampleBuffer, line.length < Block.widthLimit) ∧
      run .skip sampleBuffer = sweep .skip sampleBuffer ∧
      run .collapse sampleBuffer = sweep .collapse sampleBuffer ∧
      run .error sampleBuffer = sweep .error sampleBuffer :=
  have short : ∀ line ∈ sampleBuffer, line.length < Block.widthLimit := by decide +kernel
  ⟨short, run_eq_sweep _ _ short, run_eq_sweep _ _ short, run_eq_sweep _ _ short⟩

end AlertMigration.Edit
