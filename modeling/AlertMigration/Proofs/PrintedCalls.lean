import AlertMigration.Proofs.CallLanguage
import AlertMigration.Proofs.ClosingLines

/-!
From the arguments of a call to its text and back.

Where the markers of a call are in order, the replacement takes over two stretches of the line as they are, up to the
last but one marker and from there on, whichever arguments the cuts between them yield. Read the other way, arguments
that are printed as a call are found again, unless one of them holds a marker that has yet to come: each marker but the
first starts with its only space, so that no occurrence of one reaches from an argument into the marker after it.
-/

namespace AlertMigration

namespace Text

/-! ### First occurrences -/

structure FirstAt (needle text : Text) (position : Nat) : Prop where
  here : needle <+: text.drop position
  first : ∀ earlier < position, ¬ needle <+: text.drop earlier

private theorem firstAt_iff_of_prefix {needle text : Text} {position : Nat} (opens : needle <+: text) :
    FirstAt needle text position ↔ 0 = position := by
  constructor
  · intro firstAt
    cases position with
    | zero => rfl
    | succ position => exact absurd opens (firstAt.first 0 (Nat.succ_pos position))
  · rintro rfl
    exact ⟨opens, fun _ before => absurd before (Nat.not_lt_zero _)⟩

private theorem firstAt_succ_iff {needle rest : Text} {c : Char} {position : Nat}
    (other : ¬ needle <+: c :: rest) :
    FirstAt needle (c :: rest) (position + 1) ↔ FirstAt needle rest position := by
  constructor
  · rintro ⟨here, first⟩
    exact ⟨here, fun earlier before => first (earlier + 1) (Nat.succ_lt_succ before)⟩
  · rintro ⟨here, first⟩
    refine ⟨here, ?_⟩
    intro earlier before
    cases earlier with
    | zero => exact other
    | succ earlier => exact first earlier (Nat.lt_of_succ_lt_succ before)

theorem indexOf?_eq_some_iff {needle text : Text} {position : Nat} :
    indexOf? needle text = some position ↔ FirstAt needle text position := by
  induction text generalizing position with
  | nil =>
      rw [indexOf?]
      split
      · rename_i empty
        have opens : needle <+: [] := by rw [List.isEmpty_iff.mp empty]
        rw [Option.some_inj, firstAt_iff_of_prefix opens]
      · rename_i solid
        constructor
        · intro found
          cases found
        · intro firstAt
          have opens := firstAt.here
          rw [List.drop_nil, List.prefix_nil] at opens
          exact absurd (List.isEmpty_iff.mpr opens) solid
  | cons c rest ih =>
      rw [indexOf?]
      split
      · rename_i start
        rw [Option.some_inj, firstAt_iff_of_prefix (List.isPrefixOf_iff_prefix.mp start)]
      · rename_i start
        have other : ¬ needle <+: c :: rest := fun opens => start (List.isPrefixOf_iff_prefix.mpr opens)
        cases position with
        | zero =>
            constructor
            · intro found
              obtain ⟨_, _, absurdity⟩ := Option.map_eq_some_iff.mp found
              cases absurdity
            · intro firstAt
              exact absurd firstAt.here other
        | succ position =>
            rw [firstAt_succ_iff other, ← ih, Option.map_eq_some_iff]
            constructor
            · rintro ⟨later, found, same⟩
              rw [found, Nat.succ.inj same]
            · intro found
              exact ⟨position, found, rfl⟩

private theorem firstAt_of_notMem {needle front : Text} {c : Char} (starts : needle.head? = some c)
    (absent : c ∉ front)
    (back : Text) : FirstAt needle (front ++ (needle ++ back)) front.length := by
  refine ⟨by rw [List.drop_left]; exact List.prefix_append _ _, ?_⟩
  intro earlier before opens
  obtain ⟨rest, rfl⟩ := List.head?_eq_some_iff.mp starts
  rw [List.drop_append_of_le_length (Nat.le_of_lt before), List.drop_eq_getElem_cons before] at opens
  obtain ⟨same, _⟩ := List.cons_prefix_cons.mp opens
  exact absent (same ▸ List.getElem_mem before)

private theorem between_of_firstAt {front marker argument next back : Text}
    (first : FirstAt marker (front ++ (marker ++ (argument ++ (next ++ back)))) front.length)
    (last : FirstAt next (front ++ (marker ++ (argument ++ (next ++ back))))
      (front ++ (marker ++ argument)).length) :
    between marker next (front ++ (marker ++ (argument ++ (next ++ back)))) = argument := by
  have whole : front ++ (marker ++ (argument ++ (next ++ back))) =
      (front ++ (marker ++ argument)) ++ (next ++ back) := by
    simp only [List.append_assoc]
  rw [between_eq (indexOf?_eq_some_iff.mpr first) (indexOf?_eq_some_iff.mpr last), whole, List.take_left,
    ← List.append_assoc, ← List.length_append, List.drop_left]

/-! ### Markers with one space -/

/-- A marker that starts with its only space. -/
structure Spaced (marker : Text) : Prop where
  opens : marker.head? = some ' '
  single : ' ' ∉ marker.tail

instance (marker : Text) : Decidable (Spaced marker) :=
  decidable_of_iff (marker.head? = some ' ' ∧ ' ' ∉ marker.tail)
    ⟨fun both => ⟨both.1, both.2⟩, fun spaced => ⟨spaced.opens, spaced.single⟩⟩

section Spaced

variable {marker : Text} (spaced : Spaced marker)

include spaced

theorem Spaced.prefix_of_append {front back : Text} (started : front ≠ [])
    (opens : marker <+: front ++ ' ' :: back) : marker <+: front := by
  rcases List.prefix_or_prefix_of_prefix opens (List.prefix_append front (' ' :: back)) with within | ⟨rest, whole⟩
  · exact within
  · cases rest with
    | nil =>
        rw [List.append_nil] at whole
        rw [whole]
    | cons c rest =>
        exfalso
        rw [← whole] at opens
        obtain ⟨rfl, _⟩ := List.cons_prefix_cons.mp ((List.prefix_append_right_inj front).mp opens)
        apply spaced.single
        rw [← whole, List.tail_append_of_ne_nil started]
        exact List.mem_append_right _ List.mem_cons_self

theorem Spaced.not_infix_append {front back : Text} (absent : ¬ marker <:+: front)
    (later : ¬ marker <:+: ' ' :: back) : ¬ marker <:+: front ++ ' ' :: back := by
  induction front with
  | nil => exact later
  | cons c front ih =>
      intro inside
      rcases List.infix_cons_iff.mp inside with here | further
      · exact absent (spaced.prefix_of_append (List.cons_ne_nil c front) here).isInfix
      · exact ih (fun within => absent (List.infix_cons_iff.mpr (.inr within))) further

theorem Spaced.not_infix_of_notMem {front back : Text} (spaceless : ' ' ∉ front) (absent : ¬ marker <:+: back) :
    ¬ marker <:+: front ++ back := by
  induction front with
  | nil => exact absent
  | cons c front ih =>
      obtain ⟨different, others⟩ := not_or.mp (List.mem_cons.not.mp spaceless)
      intro inside
      rcases List.infix_cons_iff.mp inside with here | further
      · obtain ⟨rest, rfl⟩ := List.head?_eq_some_iff.mp spaced.opens
        exact different (List.cons_prefix_cons.mp here).1
      · exact ih others further

theorem Spaced.firstAt_append {front : Text} (absent : ¬ marker <:+: front) (back : Text) :
    FirstAt marker (front ++ (marker ++ back)) front.length := by
  refine ⟨by rw [List.drop_left]; exact List.prefix_append _ _, ?_⟩
  intro earlier before opens
  obtain ⟨rest, whole⟩ := List.head?_eq_some_iff.mp spaced.opens
  have started : front.drop earlier ≠ [] := by
    rw [ne_eq, List.drop_eq_nil_iff, Nat.not_le]
    exact before
  rw [List.drop_append_of_le_length (Nat.le_of_lt before)] at opens
  nth_rewrite 2 [whole] at opens
  have within := spaced.prefix_of_append started opens
  exact absent (within.isInfix.trans (List.drop_suffix earlier front).isInfix)

end Spaced

def Differ (marker next : Text) : Prop :=
  ¬ marker <+: next ∧ ¬ next <+: marker

instance (marker next : Text) : Decidable (Differ marker next) :=
  inferInstanceAs (Decidable (¬ marker <+: next ∧ ¬ next <+: marker))

theorem Spaced.not_infix_spaced {marker next argument : Text} (spaced : Spaced marker)
    (nextSpaced : Spaced next)
    (differ : Differ next marker) (absent : ¬ marker <:+: argument) : ¬ marker <:+: next ++ argument := by
  obtain ⟨label, rfl⟩ := List.head?_eq_some_iff.mp nextSpaced.opens
  intro inside
  rcases List.infix_cons_iff.mp inside with here | further
  · rcases List.prefix_or_prefix_of_prefix here (List.prefix_append (' ' :: label) argument) with within | longer
    · exact differ.2 within
    · exact differ.1 longer
  · exact spaced.not_infix_of_notMem nextSpaced.single absent further

/-! ### Rows of arguments -/

def row (arguments : List (Text × Text)) : Text :=
  arguments.flatMap fun argument => argument.1 ++ argument.2

theorem row_cons (marker argument : Text) (arguments : List (Text × Text)) :
    row ((marker, argument) :: arguments) = marker ++ (argument ++ row arguments) := by
  rw [row, List.flatMap_cons, List.append_assoc]
  rfl

private theorem row_append (first second : List (Text × Text)) :
    row (first ++ second) = row first ++ row second :=
  List.flatMap_append

/-- No argument holds a marker that comes after it. -/
structure Legible (arguments : List (Text × Text)) : Prop where
  spaced : ∀ marker ∈ arguments.map Prod.fst, Spaced marker
  differ : (arguments.map Prod.fst).Pairwise Differ
  free : arguments.Pairwise fun earlier later => ¬ later.1 <:+: earlier.2

theorem Spaced.not_infix_row {marker front : Text} {arguments : List (Text × Text)} (spaced : Spaced marker)
    (absent : ¬ marker <:+: front)
    (apart : ∀ argument ∈ arguments, Spaced argument.1 ∧ Differ argument.1 marker ∧ ¬ marker <:+: argument.2) :
    ¬ marker <:+: front ++ row arguments := by
  induction arguments generalizing front with
  | nil =>
      rw [row, List.flatMap_nil, List.append_nil]
      exact absent
  | cons argument arguments ih =>
      obtain ⟨next, argument⟩ := argument
      obtain ⟨⟨nextSpaced, differ, free⟩, others⟩ := List.forall_mem_cons.mp apart
      have later : ¬ marker <:+: next ++ argument := spaced.not_infix_spaced nextSpaced differ free
      have longer : ¬ marker <:+: front ++ (next ++ argument) := by
        obtain ⟨label, rfl⟩ := List.head?_eq_some_iff.mp nextSpaced.opens
        exact spaced.not_infix_append absent later
      rw [row_cons, ← List.append_assoc next, ← List.append_assoc front]
      exact ih longer others

section Legible

variable {front marker argument : Text} {after : List (Text × Text)} (before : List (Text × Text))

theorem Legible.firstAt (legible : Legible (before ++ (marker, argument) :: after))
    (absent : ¬ marker <:+: front) :
    FirstAt marker (front ++ row (before ++ (marker, argument) :: after)) (front ++ row before).length := by
  obtain ⟨spaced, differ, free⟩ := legible
  rw [List.map_append, List.map_cons] at spaced differ
  have markerSpaced : Spaced marker := spaced marker (List.mem_append_right _ List.mem_cons_self)
  have apart : ∀ earlier ∈ before, Spaced earlier.1 ∧ Differ earlier.1 marker ∧ ¬ marker <:+: earlier.2 := by
    intro earlier member
    have listed : earlier.1 ∈ before.map Prod.fst := List.mem_map_of_mem member
    exact ⟨spaced _ (List.mem_append_left _ listed),
      (List.pairwise_append.mp differ).2.2 _ listed _ List.mem_cons_self,
      (List.pairwise_append.mp free).2.2 _ member _ List.mem_cons_self⟩
  have first := markerSpaced.firstAt_append (markerSpaced.not_infix_row absent apart) (argument ++ row after)
  rwa [row_append, ← List.append_assoc, row_cons]

theorem Legible.between_eq {next following : Text}
    (legible : Legible (before ++ (marker, argument) :: (next, following) :: after))
    (absent : ¬ marker <:+: front) (nextAbsent : ¬ next <:+: front) :
    between marker next (front ++ row (before ++ (marker, argument) :: (next, following) :: after)) = argument := by
  have first := legible.firstAt before absent
  have divided : before ++ (marker, argument) :: (next, following) :: after =
      (before ++ [(marker, argument)]) ++ (next, following) :: after := by
    rw [List.append_assoc]
    rfl
  have last := (divided ▸ legible).firstAt (before ++ [(marker, argument)]) nextAbsent
  rw [← divided] at last
  have whole : front ++ row (before ++ (marker, argument) :: (next, following) :: after) =
      (front ++ row before) ++ (marker ++ (argument ++ (next ++ (following ++ row after)))) := by
    rw [row_append, row_cons, row_cons, List.append_assoc]
  have reach : front ++ row (before ++ [(marker,
    argument)]) = (front ++ row before) ++ (marker ++ argument) := by
    rw [row_append, row_cons, List.append_assoc]
    exact congrArg (fun argument => front ++ (row before ++ (marker ++ argument))) (List.append_nil argument)
  rw [whole] at first last ⊢
  rw [reach] at last
  exact between_of_firstAt first last

/-- The first argument is also found after the marker without its space, if that starts with a character of its own. -/
theorem Legible.between_head {next following : Text} {c : Char}
    (legible : Legible ((' ' :: marker, argument) :: (next, following) :: after)) (starts : marker.head? = some c)
    (fresh : c ∉ front ++ [' ']) (nextAbsent : ¬ next <:+: front) :
    between marker next (front ++ row ((' ' :: marker, argument) :: (next, following) :: after)) = argument := by
  have last := legible.firstAt [(' ' :: marker, argument)] nextAbsent
  have whole : front ++ row ((' ' :: marker, argument) :: (next, following) :: after) =
      (front ++ [' ']) ++ (marker ++ (argument ++ (next ++ (following ++ row after)))) := by
    rw [row_cons, row_cons, List.append_assoc]
    rfl
  have reach : front ++ row [(' ' :: marker, argument)] = (front ++ [' ']) ++ (marker ++ argument) := by
    rw [row_cons, List.append_assoc]
    exact congrArg (fun argument => front ++ (' ' :: (marker ++ argument))) (List.append_nil argument)
  rw [reach, List.singleton_append, whole] at last
  rw [whole]
  exact between_of_firstAt (firstAt_of_notMem starts fresh _) last

end Legible

end Text

namespace Alert.Fields

open Text (FirstAt Spaced)

/-! ### The replacement of a call -/

/-- Where the markers of a call are found first, each after the end of the one before. -/
structure MarkedAt (line : Text) (title message cancel other tapBlock : Nat) : Prop where
  titleAt : FirstAt titleMarker line title
  messageAt : FirstAt messageMarker line message
  cancelAt : FirstAt cancelMarker line cancel
  otherAt : FirstAt otherMarker line other
  tapBlockAt : FirstAt tapBlockMarker line tapBlock
  titleBefore : title + titleMarker.length ≤ message
  messageBefore : message + messageMarker.length ≤ cancel
  cancelBefore : cancel + cancelMarker.length ≤ other
  otherBefore : other + otherMarker.length ≤ tapBlock

section Marked

variable {line : Text} {title message cancel other tapBlock : Nat}
  (marked : MarkedAt line title message cancel other tapBlock)

include marked

theorem MarkedAt.slice_to_other :
    (line.take other).drop (title + titleMarker.length) =
      (ofLine line).title ++ messageMarker ++ (ofLine line).message ++ cancelMarker
        ++ (ofLine line).cancelLabel := by
  have titleFound := Text.indexOf?_eq_some_iff.mpr marked.titleAt
  have messageFound := Text.indexOf?_eq_some_iff.mpr marked.messageAt
  have cancelFound := Text.indexOf?_eq_some_iff.mpr marked.cancelAt
  have otherFound := Text.indexOf?_eq_some_iff.mpr marked.otherAt
  have opened : (line.take title ++ titleMarker).length = title + titleMarker.length := by
    have within := Text.indexOf?_add_length_le titleFound
    rw [List.length_append, List.length_take]
    omega
  have taken : line.take other = (line.take title ++ titleMarker) ++
      ((ofLine line).title ++ messageMarker ++ (ofLine line).message ++ cancelMarker
        ++ (ofLine line).cancelLabel) := by
    rw [Text.take_eq_of_before cancelFound otherFound marked.cancelBefore,
      Text.take_eq_of_before messageFound cancelFound marked.messageBefore,
      Text.take_eq_of_before titleFound messageFound marked.titleBefore]
    simp only [ofLine, List.append_assoc]
  rw [taken, List.drop_left' opened]

theorem MarkedAt.slice_from_other :
    (line.take (tapBlock + tapBlockMarker.length)).drop other =
      otherMarker ++ (ofLine line).otherLabels ++ tapBlockMarker := by
  have otherFound := Text.indexOf?_eq_some_iff.mpr marked.otherAt
  have tapBlockFound := Text.indexOf?_eq_some_iff.mpr marked.tapBlockAt
  have started : (line.take other).length = other := by
    have within := Text.indexOf?_add_length_le otherFound
    rw [List.length_take]
    omega
  rw [Text.take_add_of_indexOf? tapBlockFound,
    Text.take_eq_of_before otherFound tapBlockFound marked.otherBefore,
    List.append_assoc, List.drop_left' started]
  rfl

end Marked

/-- The replacement of a call whose markers are in order keeps the line from the end of the title marker to the end of
the tap block marker as it is, except that the argument for a destructive button is put in. -/
theorem replacement_verbatim {line : Text} {title message cancel other tapBlock : Nat}
    (call : classify line ≠ .other) (marked : MarkedAt line title message cancel other tapBlock)
    (body : Option Text) (newline : Text) :
    replacement (indentation line) (ofLine line) body newline =
      line.blankHead ++ "[UIAlertController showAlertInViewController:self withTitle:".toList
        ++ (line.take other).drop (title + titleMarker.length) ++ " destructiveButtonTitle:nil".toList
        ++ (line.take (tapBlock + tapBlockMarker.length)).drop other
        ++ body.elim "nil];".toList fun inner =>
          blockSignature ++ " \x7b".toList ++ newline ++ inner ++ line.blankHead ++ "\x7d];".toList := by
  obtain ⟨opened, destructive⟩ :
      "[UIAlertController showAlertInViewController:self withTitle:".toList =
        controllerCall ++ " withTitle:".toList ∧
      " destructiveButtonTitle:nil otherButtonTitles:".toList =
        " destructiveButtonTitle:nil".toList ++ otherMarker := by
    decide +kernel
  have closed : Alert.tapBlock line.blankHead newline body =
      body.elim "nil];".toList fun inner =>
        blockSignature ++ " \x7b".toList ++ newline ++ inner ++ line.blankHead ++ "\x7d];".toList := by
    cases body with
    | none => rw [Alert.tapBlock, Option.elim_none]
    | some inner => rw [Alert.tapBlock, Option.elim_some]
  rw [marked.slice_to_other, marked.slice_from_other, replacement, controllerHead,
    indentation_eq_blankHead (classify_ne_other_iff.mp call), closed, opened, destructive]
  unfold messageMarker cancelMarker tapBlockMarker
  simp only [List.append_assoc]

def quotingCall : Text :=
  "\t[UIAlertView showWithTitle:@\"showWithTitle:\" message:@\" message:\" cancelButtonTitle:c otherButtonTitles:o tapBlock:^\x7b\n".toList

theorem replacement_verbatim_sample :
    classify quotingCall ≠ .other ∧ MarkedAt quotingCall 14 45 66 86 106 ∧
    replacement (indentation quotingCall) (ofLine quotingCall) (some "show();\n".toList) ['\n'] =
      quotingCall.blankHead ++ "[UIAlertController showAlertInViewController:self withTitle:".toList
        ++ (quotingCall.take 86).drop (14 + titleMarker.length) ++ " destructiveButtonTitle:nil".toList
        ++ (quotingCall.take (106 + tapBlockMarker.length)).drop 86
        ++ (blockSignature ++ " \x7b".toList ++ ['\n'] ++ "show();\n".toList ++ quotingCall.blankHead
          ++ "\x7d];".toList) := by
  obtain ⟨call, title, message, cancel, other, tapBlock, titleBefore, messageBefore, cancelBefore,
    otherBefore⟩ :
      classify quotingCall ≠ .other ∧ Text.indexOf? titleMarker quotingCall = some 14 ∧
      Text.indexOf? messageMarker quotingCall = some 45 ∧ Text.indexOf? cancelMarker quotingCall = some 66 ∧
      Text.indexOf? otherMarker quotingCall = some 86 ∧ Text.indexOf? tapBlockMarker quotingCall = some 106 ∧
      14 + titleMarker.length ≤ 45 ∧ 45 + messageMarker.length ≤ 66 ∧ 66 + cancelMarker.length ≤ 86 ∧
      86 + otherMarker.length ≤ 106 := by
    decide +kernel
  rw [Text.indexOf?_eq_some_iff] at title message cancel other tapBlock
  have marked : MarkedAt quotingCall 14 45 66 86 106 :=
    ⟨title, message, cancel, other, tapBlock, titleBefore, messageBefore, cancelBefore, otherBefore⟩
  exact ⟨call, marked, replacement_verbatim call marked (some _) ['\n']⟩

/-! ### Printed calls -/

def printed (fields : Fields) (blanks rest : Text) : Text :=
  blanks ++ "[UIAlertView showWithTitle:".toList ++ fields.title ++ " message:".toList ++ fields.message
    ++ " cancelButtonTitle:".toList ++ fields.cancelLabel ++ " otherButtonTitles:".toList ++ fields.otherLabels
    ++ " tapBlock:".toList ++ rest

/-- No argument holds a marker that has yet to come. -/
structure Separable (fields : Fields) : Prop where
  title : ∀ marker ∈ [messageMarker, cancelMarker, otherMarker, tapBlockMarker], ¬ marker <:+: fields.title
  message : ∀ marker ∈ [cancelMarker, otherMarker, tapBlockMarker], ¬ marker <:+: fields.message
  cancelLabel : ∀ marker ∈ [otherMarker, tapBlockMarker], ¬ marker <:+: fields.cancelLabel
  otherLabels : ¬ tapBlockMarker <:+: fields.otherLabels

def arguments (fields : Fields) (rest : Text) : List (Text × Text) :=
  [(' ' :: titleMarker, fields.title), (messageMarker, fields.message), (cancelMarker, fields.cancelLabel),
    (otherMarker, fields.otherLabels), (tapBlockMarker, rest)]

theorem Separable.legible {fields : Fields} (separable : fields.Separable) (rest : Text) :
    Text.Legible (fields.arguments rest) := by
  have markers : (fields.arguments rest).map Prod.fst =
      [' ' :: titleMarker, messageMarker, cancelMarker, otherMarker, tapBlockMarker] := rfl
  obtain ⟨spaced, differ⟩ :
      (∀ marker ∈ [' ' :: titleMarker, messageMarker, cancelMarker, otherMarker, tapBlockMarker], Spaced marker) ∧
      [' ' :: titleMarker, messageMarker, cancelMarker, otherMarker, tapBlockMarker].Pairwise Text.Differ := by
    decide +kernel
  refine ⟨markers ▸ spaced, markers ▸ differ, ?_⟩
  obtain ⟨title, message, cancelLabel, otherLabels⟩ := separable
  simp only [List.forall_mem_cons, List.not_mem_nil, IsEmpty.forall_iff, implies_true, and_true]
    at title message cancelLabel
  simp only [arguments, List.pairwise_cons, List.forall_mem_cons, List.not_mem_nil, IsEmpty.forall_iff,
    implies_true,
    and_true]
  exact ⟨title, message, cancelLabel, otherLabels, trivial, .nil⟩

def receiver (blanks : Text) : Text :=
  blanks ++ "[UIAlertView".toList

private theorem printed_eq (fields : Fields) (blanks rest : Text) :
    fields.printed blanks rest = receiver blanks ++ Text.row (fields.arguments rest) := by
  have opened : "[UIAlertView showWithTitle:".toList = "[UIAlertView".toList ++ ' ' :: titleMarker := by
    decide +kernel
  rw [printed, arguments, receiver, opened, Text.row_cons, Text.row_cons, Text.row_cons, Text.row_cons,
    Text.row_cons]
  unfold messageMarker cancelMarker otherMarker tapBlockMarker
  simp only [List.append_assoc, Text.row, List.flatMap_nil, List.append_nil]

private theorem notMem_receiver {blanks : Text} (blank : ∀ c ∈ blanks, isBlank c = true) {c : Char}
    (solid : isBlank c = false) (other : c ∉ "[UIAlertView".toList) : c ∉ receiver blanks := by
  intro member
  rcases List.mem_append.mp member with inBlanks | inName
  · rw [blank c inBlanks] at solid
    cases solid
  · exact other inName

/-- The arguments of a printed call are read off again, if none of them holds a marker that has yet to come. -/
theorem ofLine_printed {fields : Fields} (separable : fields.Separable) {blanks : Text}
    (blank : ∀ c ∈ blanks, isBlank c = true) (rest : Text) :
    ofLine (fields.printed blanks rest) = fields := by
  obtain ⟨colons, noColon, noLetter, starts⟩ :
      (∀ marker ∈ [messageMarker, cancelMarker, otherMarker, tapBlockMarker], ':' ∈ marker) ∧
      ':' ∉ "[UIAlertView".toList ∧ 's' ∉ "[UIAlertView".toList ∧ titleMarker.head? = some 's' := by
    decide +kernel
  have absent (marker : Text) (member : marker ∈ [messageMarker, cancelMarker, otherMarker, tapBlockMarker]) :
      ¬ marker <:+: receiver blanks :=
    fun inside => notMem_receiver blank (by decide) noColon (inside.subset (colons marker member))
  have fresh : 's' ∉ receiver blanks ++ [' '] := by
    rw [List.mem_append, not_or]
    exact ⟨notMem_receiver blank (by decide) noLetter, by decide⟩
  have legible := separable.legible rest
  rw [printed_eq]
  change Fields.mk _ _ _ _ = Fields.mk fields.title fields.message fields.cancelLabel fields.otherLabels
  congr 1
  · exact legible.between_head starts fresh (absent _ (by simp))
  · exact legible.between_eq [(' ' :: titleMarker, fields.title)] (absent _ (by simp)) (absent _ (by simp))
  · exact legible.between_eq [(' ' :: titleMarker, fields.title), (messageMarker, fields.message)]
      (absent _ (by simp)) (absent _ (by simp))
  · exact legible.between_eq [(' ' :: titleMarker, fields.title), (messageMarker, fields.message),
      (cancelMarker, fields.cancelLabel)] (absent _ (by simp)) (absent _ (by simp))

def quotingFields : Fields :=
  ⟨"@\"showWithTitle: message\"".toList, "@\" message:\"".toList, [], " cancelButtonTitle: message:".toList⟩

theorem ofLine_printed_sample :
    quotingFields.Separable ∧ (∀ c ∈ ['\t', ' '], isBlank c = true) ∧
      ofLine (quotingFields.printed ['\t', ' '] " tapBlock:nil];".toList) = quotingFields := by
  obtain ⟨title, message, cancelLabel, otherLabels, blank⟩ :
      (∀ marker ∈ [messageMarker, cancelMarker, otherMarker, tapBlockMarker], ¬ marker <:+: quotingFields.title) ∧
      (∀ marker ∈ [cancelMarker, otherMarker, tapBlockMarker], ¬ marker <:+: quotingFields.message) ∧
      (∀ marker ∈ [otherMarker, tapBlockMarker], ¬ marker <:+: quotingFields.cancelLabel) ∧
      ¬ tapBlockMarker <:+: quotingFields.otherLabels ∧ ['\t', ' '].all isBlank = true := by
    decide +kernel
  have separable : quotingFields.Separable := ⟨title, message, cancelLabel, otherLabels⟩
  have blanks := List.all_eq_true.mp blank
  exact ⟨separable, blanks, ofLine_printed separable blanks _⟩

end Alert.Fields

end AlertMigration
