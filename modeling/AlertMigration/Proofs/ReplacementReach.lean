import AlertMigration.Proofs.PassEffects

/-!
How far one replacement reaches.

A pass that replaces a call writes one line over it. It takes further lines with it only if the call shows a
brace, which counts as an open tap block wherever it stands, and a later line closes a block of the call's
indentation. That holds of every call, also of one that passes no tap block.
-/

namespace AlertMigration.Edit

/-! ### One replacement -/

def Converted (policy : Policy) (buffer next : List Text) : Prop :=
  ∃ front line rest text left, buffer = front ++ line :: rest ∧
    Conversion policy line rest text left ∧ next = front ++ text :: left

theorem converted_passFrom {policy : Policy} {index : Nat} {ledger : Ledger} {buffer : List Text}
    (ended : (passFrom policy index ledger buffer).verdict = .converted) :
    Converted policy buffer (passFrom policy index ledger buffer).buffer := by
  obtain ⟨front, rest, noted, last, divided, _, ends, passed⟩ := passFrom_cases policy index ledger buffer
  rw [passed] at ended ⊢
  cases ends with
  | settled | unterminated _ _ | tooWide _ => cases ended
  | converted fresh conversion counted =>
      exact ⟨front, _, _, _, _, divided, conversion, rfl⟩

/-! ### The replaced place -/

/-- A pass replaces the call at an index: the buffer that it leaves differs there for the first time. -/
structure ReplacesAt (policy : Policy) (buffer : List Text) (ledger : Ledger) (index : Nat) : Prop where
  ended : (pass policy buffer ledger).verdict = .converted
  before : ∀ earlier < index, (pass policy buffer ledger).buffer[earlier]? = buffer[earlier]?
  changed : (pass policy buffer ledger).buffer[index]? ≠ buffer[index]?

theorem ReplacesAt.conversion {policy : Policy} {buffer : List Text} {ledger : Ledger} {index : Nat}
    (replaces : ReplacesAt policy buffer ledger index) :
    ∃ front line rest text left, buffer = front ++ line :: rest ∧ front.length = index ∧
      Conversion policy line rest text left ∧
      (pass policy buffer ledger).buffer = front ++ text :: left := by
  obtain ⟨front, line, rest, text, left, whole, conversion, written⟩ := converted_passFrom replaces.ended
  change (pass policy buffer ledger).buffer = front ++ text :: left at written
  refine ⟨front, line, rest, text, left, whole, ?_, conversion, written⟩
  rcases Nat.lt_trichotomy front.length index with sooner | same | later
  · have kept := replaces.before front.length sooner
    rw [written, whole, List.getElem?_append_right (Nat.le_refl _),
      List.getElem?_append_right (Nat.le_refl _), Nat.sub_self] at kept
    have same : text = line := Option.some_inj.mp kept
    obtain ⟨call, inert⟩ := conversion.isCall
    rw [same, call] at inert
    cases inert
  · exact same
  · have changed := replaces.changed
    rw [written, whole, List.getElem?_append_left later, List.getElem?_append_left later] at changed
    exact absurd rfl changed

/-- A call is replaced alone exactly if it shows no brace or no later line closes a tap block of its
indentation. Otherwise the lines up to the first such line are replaced with it. -/
theorem replaced_alone_iff {policy : Policy} {buffer : List Text} {ledger : Ledger} {index : Nat}
    {line : Text} (replaces : ReplacesAt policy buffer ledger index)
    (present : buffer[index]? = some line) :
    ((∃ text, (pass policy buffer ledger).buffer = buffer.set index text) ↔
      Alert.opensBlock line = false ∨
        ∀ later ∈ buffer.drop (index + 1), Block.closes (Alert.indentation line).length later = false) ∧
    (Alert.opensBlock line = true →
      (∃ later ∈ buffer.drop (index + 1), Block.closes (Alert.indentation line).length later = true) →
      ∃ text body closer after, buffer.drop (index + 1) = body ++ closer :: after ∧
        (∀ inner ∈ body, Block.closes (Alert.indentation line).length inner = false) ∧
        Block.closes (Alert.indentation line).length closer = true ∧
        (pass policy buffer ledger).buffer = buffer.take index ++ text :: after) := by
  rcases replaces.conversion with ⟨front, call, rest, text, left, rfl, rfl, conversion, written⟩
  rw [List.getElem?_append_right (Nat.le_refl _), Nat.sub_self, List.getElem?_cons_zero,
    Option.some_inj] at present
  subst present
  have behind : (front ++ call :: rest).drop (front.length + 1) = rest := by simp
  have setHere (new : Text) : (front ++ call :: rest).set front.length new = front ++ new :: rest := by simp
  rw [written, behind, List.take_left]
  simp only [setHere]
  cases conversion with
  | inline kind =>
      obtain ⟨_, plain⟩ := Alert.classify_eq_inline_iff.mp kind
      refine ⟨iff_of_true ⟨_, rfl⟩ (Or.inl plain), fun opens => ?_⟩
      rw [plain] at opens
      cases opens
  | block kind cut =>
      obtain ⟨divided, before, closing⟩ := cutAtCloser?_eq_some cut
      refine ⟨iff_of_false ?_ ?_, fun _ _ => ⟨_, _, _, left, divided, before, closing, rfl⟩⟩
      · rintro ⟨other, same⟩
        have fewer := length_lt_of_cutAtCloser? cut
        have lengths := congrArg List.length same
        simp only [List.length_append, List.length_cons] at lengths
        omega
      · rintro (plain | unclosed)
        · rw [(Alert.classify_eq_block_iff.mp kind).2] at plain
          cases plain
        · have missed := unclosed _ (divided ▸ List.mem_append_right _ List.mem_cons_self)
          rw [closing] at missed
          cases missed
  | collapsed kind missing chosen =>
      have unclosed := cutAtCloser?_eq_none missing
      refine ⟨iff_of_true ⟨_, rfl⟩ (Or.inr unclosed), ?_⟩
      rintro _ ⟨later, member, closing⟩
      rw [unclosed later member] at closing
      cases closing

def nilCall (title : Text) : Text :=
  "[UIAlertView showWithTitle:".toList ++ title ++
    " message:m cancelButtonTitle:c otherButtonTitles:o tapBlock:nil];\n".toList

def nilBuffer (title : Text) : List Text :=
  [nilCall title, "save();\n".toList, "\x7d];\n".toList]

private theorem replacesAt_zero {policy : Policy} {line text : Text} {rest left : List Text}
    {ledger after : Ledger} (passed : pass policy (line :: rest) ledger = ⟨.converted, text :: left, after⟩)
    (call : Alert.isCall line = true) (inert : Alert.isCall text = false) :
    ReplacesAt policy (line :: rest) ledger 0 := by
  refine ⟨by rw [passed], fun _ sooner => absurd sooner (Nat.not_lt_zero _), ?_⟩
  rw [passed]
  intro same
  cases same
  rw [call] at inert
  cases inert

theorem replaced_alone_iff_sample :
    "tapBlock:nil];".toList <:+ (nilCall "t".toList).trimEnd ∧
      ReplacesAt .skip (nilBuffer "t".toList) .empty 0 ∧
      ∃ text, (pass .skip (nilBuffer "t".toList) .empty).buffer = (nilBuffer "t".toList).set 0 text := by
  have kind : Alert.classify (nilCall "t".toList) = .inline := by decide +kernel
  obtain ⟨call, plain⟩ := Alert.classify_eq_inline_iff.mp kind
  have passed : pass .skip (nilBuffer "t".toList) .empty =
      ⟨.converted, replaceCall (nilCall "t".toList) none (nilCall "t".toList) :: (nilBuffer "t".toList).tail,
        Ledger.empty.noteInline 0⟩ := by
    rw [pass, nilBuffer, passFrom, decideAt_inline kind]
    rfl
  have replaces := replacesAt_zero passed call (isCall_replaceCall ..)
  exact ⟨by decide +kernel, replaces, (replaced_alone_iff replaces rfl).1.mpr (Or.inl plain)⟩

def quotedBrace : Text :=
  "@\"\x7b\"".toList

private theorem classify_quotedBrace : Alert.classify (nilCall quotedBrace) = .block := by
  decide +kernel

private theorem quotedBrace_reaches_further (policy : Policy) :
    ReplacesAt policy (nilBuffer quotedBrace) .empty 0 ∧
      (pass policy (nilBuffer quotedBrace) .empty).buffer.length = 1 := by
  have unindented : Alert.indentation (nilCall quotedBrace) = [] := by decide +kernel
  have cut : cutAtCloser? (Alert.indentation (nilCall quotedBrace)).length (nilBuffer quotedBrace).tail =
      some (["save();\n".toList], "\x7d];\n".toList, []) := by
    rw [unindented]
    decide +kernel
  obtain ⟨decided, _⟩ := decideAt_block classify_quotedBrace (by rw [unindented]; decide) cut
  have passed : pass policy (nilBuffer quotedBrace) .empty =
      ⟨.converted,
        [replaceCall (nilCall quotedBrace) (some ["save();\n".toList].flatten) "\x7d];\n".toList],
        Ledger.empty.noteBlock 0 2⟩ := by
    rw [nilBuffer, List.tail_cons] at decided
    rw [pass, nilBuffer, passFrom, decided]
    rfl
  have call := Alert.isCall_of_block classify_quotedBrace
  exact ⟨replacesAt_zero passed call (isCall_replaceCall ..), by rw [passed]; rfl⟩

/-- Under each policy a call that passes no tap block, but quotes a brace, takes other lines with it. -/
theorem nil_call_takes_lines :
    Alert.classify (nilCall quotedBrace) ≠ .other ∧
      "tapBlock:nil];".toList <:+ (nilCall quotedBrace).trimEnd ∧ (nilBuffer quotedBrace).length = 3 ∧
      (ReplacesAt .skip (nilBuffer quotedBrace) .empty 0 ∧
        (pass .skip (nilBuffer quotedBrace) .empty).buffer.length = 1) ∧
      (ReplacesAt .collapse (nilBuffer quotedBrace) .empty 0 ∧
        (pass .collapse (nilBuffer quotedBrace) .empty).buffer.length = 1) ∧
      ReplacesAt .error (nilBuffer quotedBrace) .empty 0 ∧
        (pass .error (nilBuffer quotedBrace) .empty).buffer.length = 1 := by
  refine ⟨by rw [classify_quotedBrace]; decide, by decide +kernel, rfl, ?_⟩
  exact ⟨quotedBrace_reaches_further .skip, quotedBrace_reaches_further .collapse,
    quotedBrace_reaches_further .error⟩

end AlertMigration.Edit
