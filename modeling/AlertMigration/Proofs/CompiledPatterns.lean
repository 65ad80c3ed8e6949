import AlertMigration.StructuralPattern
import Mathlib.Data.List.Basic

/-!
Patterns that compile.

The patterns with which calls and closing lines are looked for are written from few means: characters,
repetitions of one, alternatives and groups. Whatever is written from these compiles
(`Regular.check_eq_ok`), so an escaped text does, and the pattern of a call. The pattern of a closing line
compiles exactly if there is a closer for its width (`check_closePattern_eq_ok_iff`).
-/

namespace AlertMigration.StructuralPattern

/-! ### Regular patterns -/

def operators : Text :=
  "|)[(*+?\x7b^$\\".toList

/-- A token that matches one character, whatever stands around it. -/
def isOrdinary : Token → Bool
  | .plain c => !operators.contains c
  | .escaped c => isCategory c || !(isDecimal c || isAsciiLetter c)
  | .dangling => false

inductive Regular : List Token → Prop where
  | nil : Regular []
  | start {rest : List Token} (regular : Regular rest) : Regular (.plain '^' :: rest)
  | one {token : Token} {rest : List Token} (ordinary : isOrdinary token = true) (regular : Regular rest) :
      Regular (token :: rest)
  | many {token : Token} {rest : List Token} (ordinary : isOrdinary token = true) (regular : Regular rest) :
      Regular (token :: .plain '*' :: rest)
  | times {token : Token} {digits : Text} {rest : List Token} (ordinary : isOrdinary token = true)
      (written : digits ≠ []) (decimal : ∀ c ∈ digits, isDecimal c = true)
      (short : digits.length ≤ Text.numeralLimit) (small : Nat.ofDigitChars 10 digits 0 < repeatLimit)
      (regular : Regular rest) :
      Regular (token :: .plain '\x7b' :: (digits.map .plain ++ .plain '\x7d' :: rest))
  /-- A brace stands for itself if no number follows it. -/
  | brace {rest : List Token} (regular : Regular rest) : Regular (.plain '\x7b' :: .plain '-' :: rest)
  | either {rest : List Token} (regular : Regular rest) : Regular (.plain '|' :: rest)
  | group {body rest : List Token} (inside : Regular body) (regular : Regular rest) :
      Regular (.plain '(' :: (body ++ .plain ')' :: rest))

/-- What can follow a repetition without changing it. -/
structure Follows (rest : List Token) : Prop where
  whole : .dangling ∉ rest
  notLazy : rest.head? ≠ some (.plain '?')
  notPossessive : rest.head? ≠ some (.plain '+')

theorem Follows.nil : Follows [] :=
  ⟨List.not_mem_nil, nofun, nofun⟩

theorem Follows.plain {rest : List Token} (follows : Follows rest) (c : Char) (other : c ∉ ['?', '+']) :
    Follows (.plain c :: rest) := by
  obtain ⟨notLazy, notPossessive⟩ : c ≠ '?' ∧ c ≠ '+' := by simpa using other
  exact ⟨by simpa using follows.whole, by simpa using notLazy, by simpa using notPossessive⟩

private theorem not_mem_of_isOrdinary {c : Char} {signs : Text} (ordinary : isOrdinary (.plain c) = true)
    (special : signs.all (fun sign => !isOrdinary (.plain sign)) = true) : c ∉ signs := by
  intro sign
  have other := List.all_eq_true.mp special c sign
  rw [ordinary] at other
  cases other

theorem Follows.ordinary {token : Token} {rest : List Token} (follows : Follows rest)
    (ordinary : isOrdinary token = true) : Follows (token :: rest) := by
  cases token with
  | plain c =>
      exact follows.plain c (not_mem_of_isOrdinary ordinary (by decide))
  | escaped c => exact ⟨by simpa using follows.whole, nofun, nofun⟩
  | dangling => cases ordinary

private theorem isOrdinary_of_notMem {c : Char} (other : c ∉ operators) : isOrdinary (.plain c) = true := by
  rw [isOrdinary, List.contains_eq_mem, decide_eq_false other]
  rfl

private theorem isOrdinary_of_isDecimal {c : Char} (decimal : isDecimal c = true) :
    isOrdinary (.plain c) = true := by
  have signs : operators.all (fun sign => !isDecimal sign) = true := by decide +kernel
  apply isOrdinary_of_notMem
  intro sign
  have other := List.all_eq_true.mp signs c sign
  rw [decimal] at other
  cases other

theorem Follows.digits {digits : Text} {rest : List Token} (follows : Follows rest)
    (decimal : ∀ c ∈ digits, isDecimal c = true) : Follows (digits.map .plain ++ rest) := by
  induction digits with
  | nil => exact follows
  | cons c digits ih =>
      obtain ⟨here, later⟩ := List.forall_mem_cons.mp decimal
      exact (ih later).ordinary (isOrdinary_of_isDecimal here)

theorem Regular.follows {front rest : List Token} (regular : Regular front) (follows : Follows rest) :
    Follows (front ++ rest) := by
  induction regular generalizing rest with
  | nil => exact follows
  | start _ ih => exact (ih follows).plain '^' (by decide)
  | one ordinary _ ih => exact (ih follows).ordinary ordinary
  | many ordinary _ ih => exact ((ih follows).plain '*' (by decide)).ordinary ordinary
  | times ordinary _ decimal _ _ _ ih =>
      have counted := ((ih follows).plain '\x7d' (by decide)).digits decimal
      simpa using (counted.plain '\x7b' (by decide)).ordinary ordinary
  | brace _ ih => exact ((ih follows).plain '-' (by decide)).plain '\x7b' (by decide)
  | either _ ih => exact (ih follows).plain '|' (by decide)
  | group _ _ insideIh ih =>
      have closed := (ih follows).plain ')' (by decide)
      simpa using (insideIh closed).plain '(' (by decide)

/-! ### Steps over regular patterns -/

theorem advance_cons {size : Nat} {token : Token} {rest : List Token} (whole : .dangling ∉ rest) :
    advance size (token :: rest) = .ok rest := by
  unfold advance
  split <;> simp_all

theorem skip?_eq_none {size : Nat} {sign : Char} {left : List Token}
    (other : left.head? ≠ some (.plain sign)) :
    skip? size sign left = .ok none := by
  unfold skip?
  split
  · rename_i c _
    have differs : (c == sign) = false := by simpa using other
    simp [differs]
  · rfl

theorem skip?_cons {size : Nat} {sign : Char} {rest : List Token} (whole : .dangling ∉ rest) :
    skip? size sign (.plain sign :: rest) = .ok (some rest) := by
  simp [skip?, advance_cons whole, Except.map]

private theorem isAnchor_of_isCategory {c : Char} (category : isCategory c = true) : isAnchor c = false := by
  have signs : "dDsSwW".toList.all (fun sign => !isAnchor sign) = true := by decide +kernel
  have other := List.all_eq_true.mp signs c (List.contains_iff_mem.mp category)
  rwa [Bool.not_eq_true'] at other

private theorem ne_of_isAsciiLetter {c letter : Char} (other : isAsciiLetter c = false)
    (isLetter : isAsciiLetter letter = true) : c ≠ letter := by
  rintro rfl
  rw [other] at isLetter
  cases isLetter

private theorem isAnchor_eq_false {c : Char} (other : isAsciiLetter c = false) : isAnchor c = false := by
  have signs : "AbBZ".toList.all isAsciiLetter = true := by decide +kernel
  apply Bool.eq_false_iff.mpr
  intro anchor
  exact ne_of_isAsciiLetter other (List.all_eq_true.mp signs c (List.contains_iff_mem.mp anchor)) rfl

private theorem controlCode?_eq_none {c : Char}
    (other : isAsciiLetter c = false) : controlCode? c = none := by
  have letters : ∀ entry ∈ [('a', 7), ('f', 12), ('n', 10), ('r', 13), ('t', 9), ('v', 11)],
      isAsciiLetter entry.1 = true := by decide +kernel
  apply List.lookup_eq_none_iff.mpr
  intro entry mem
  exact bne_iff_ne.mpr (ne_of_isAsciiLetter other (letters entry mem))

private theorem readCode?_eq_none {c : Char} (other : isAsciiLetter c = false) (lexicon : Lexicon)
    (size : Nat)
    (left : List Token) : readCode? lexicon size c left = none := by
  have differs (letter : Char) (isLetter : isAsciiLetter letter = true) : (c == letter) = false :=
    beq_false_of_ne (ne_of_isAsciiLetter other isLetter)
  simp [readCode?, differs 'x' (by decide), differs 'u' (by decide), differs 'U' (by decide),
    differs 'N' (by decide)]

private theorem readEscape_ordinary (reader : Reader) (lexicon : Lexicon) (size start : Nat) {c : Char}
    (ordinary : isOrdinary (.escaped c) = true) (left : List Token) :
    reader.readEscape lexicon size start c left = .ok (reader.append .other start .one, left) := by
  cases category : isCategory c with
  | true => simp [Reader.readEscape, isAnchor_of_isCategory category, category]
  | false =>
      rw [isOrdinary, category, Bool.false_or, Bool.not_eq_true', Bool.or_eq_false_iff] at ordinary
      obtain ⟨noDigit, noLetter⟩ := ordinary
      have notZero : (c == '0') = false := by
        apply beq_false_of_ne
        rintro rfl
        cases noDigit
      simp [Reader.readEscape, isAnchor_eq_false noLetter, category, controlCode?_eq_none noLetter,
        readCode?_eq_none noLetter, notZero, noDigit, noLetter]

private theorem readPlain_ordinary (reader : Reader) (lexicon : Lexicon) (size start : Nat) {c : Char}
    (ordinary : isOrdinary (.plain c) = true) (left : List Token) :
    reader.readPlain lexicon size start c left = .ok (reader.append .other start .one, left) := by
  unfold Reader.readPlain
  split
  case h_9 => rfl
  all_goals exact absurd ordinary (by decide +kernel)

private theorem takeSome_digits (size : Nat) {rest : List Token} {digits : Text}
    (decimal : ∀ c ∈ digits, isDecimal c = true) {sign : Char} (stop : isDecimal sign = false)
    (whole : .dangling ∉ rest) {count : Nat} (enough : digits.length ≤ count) :
    takeSome size isDecimal count (digits.map .plain ++ .plain sign :: rest) =
      .ok (digits, .plain sign :: rest) := by
  induction digits generalizing count with
  | nil => cases count <;> simp [takeSome, stop]
  | cons c digits ih =>
      obtain ⟨here, later⟩ := List.forall_mem_cons.mp decimal
      cases count with
      | zero => cases enough
      | succ count =>
          have left : Token.dangling ∉ digits.map .plain ++ .plain sign :: rest := by simp [whole]
          have taken := ih later (Nat.le_of_succ_le_succ enough)
          simp [takeSome, here, advance_cons left, taken, bind, Except.bind, pure, Except.pure]

private theorem readCounts?_digits (size : Nat) {rest : List Token} {digits : Text}
    (decimal : ∀ c ∈ digits, isDecimal c = true) (whole : .dangling ∉ rest) :
    Reader.readCounts? size (digits.map .plain ++ .plain '\x7d' :: rest) =
      .ok (some (digits, digits, rest)) := by
  have stop : isDecimal '\x7d' = false := by decide
  have enough : digits.length ≤ (digits.map Token.plain ++ .plain '\x7d' :: rest).length := by simp
  have taken := takeSome_digits size decimal stop whole enough
  have noComma : skip? size ',' (.plain '\x7d' :: rest) = .ok none := skip?_eq_none (by simp)
  simp only [Reader.readCounts?, taken, noComma, skip?_cons whole, bind, Except.bind, pure, Except.pure]

private theorem readBrace_digits (reader : Reader) (size start : Nat) {rest : List Token} {digits : Text}
    (written : digits ≠ []) (decimal : ∀ c ∈ digits, isDecimal c = true) (whole : .dangling ∉ rest) :
    reader.readBrace size start (digits.map .plain ++ .plain '\x7d' :: rest) =
      (Reader.repetitions digits).bind fun count =>
        reader.repeatLast size start (count.getD 0) count rest := by
  have counted : ((digits.map Token.plain ++ .plain '\x7d' :: rest).head? == some (.plain '\x7d')) = false := by
    obtain ⟨c, digits, rfl⟩ := List.exists_cons_of_ne_nil written
    have differs : c ≠ '\x7d' := by
      rintro rfl
      exact absurd (decimal _ List.mem_cons_self) (by decide)
    simpa using differs
  unfold Reader.readBrace
  rw [counted, readCounts?_digits size decimal whole]
  cases numbers : Reader.repetitions digits with
  | error stop => simp [numbers, bind, Except.bind]
  | ok count => cases count <;> simp [numbers, bind, Except.bind]

structure Settled (opened : List Frame) (reader : Reader) : Prop where
  items : reader.mode = .items
  idle : reader.pending = 0
  terse : reader.verbose = false
  frames : reader.frames = opened
  captures : ∀ frame ∈ opened, ∃ group, frame.bracket = .capture group
  flags : reader.flags = []
  references : reader.references = []
  late : reader.late = []

private theorem read_skip (reader : Reader) (lexicon : Lexicon) (size : Nat) (front rest : List Token) :
    { reader with pending := front.length }.read lexicon size (front ++ rest) =
      { reader with pending := 0 }.read lexicon size rest := by
  induction front with
  | nil => rfl
  | cons token front ih => exact ih

private theorem read_of_step {reader next : Reader} {lexicon : Lexicon} {size : Nat} {token : Token}
    {rest left : List Token} (idle : reader.pending = 0) (nextIdle : next.pending = 0)
    (suffix : left <:+ rest) (stepped : reader.step lexicon size token rest = .ok (next, left)) :
    reader.read lexicon size (token :: rest) = next.read lexicon size left := by
  obtain ⟨front, rfl⟩ := suffix
  have passed : (front ++ left).length - left.length = front.length := by simp
  simp only [Reader.read, idle, stepped, passed, read_skip]
  rw [← nextIdle]

namespace Settled

variable {opened : List Frame} {reader : Reader} {lexicon : Lexicon} {size : Nat} {rest : List Token}

theorem append (settled : Settled opened reader) (kind : ItemKind) (start : Nat) (width : Width) :
    Settled opened (reader.append kind start width) :=
  { settled with items := rfl }

theorem replaceLast (settled : Settled opened reader) (item : Item) (operator : String) :
    Settled opened (reader.replaceLast item operator) :=
  { settled with late := by simp [Reader.replaceLast, settled.flags, settled.late] }

theorem step_plain (settled : Settled opened reader) (c : Char) (item : c ∉ ['|', ')'])
    (whole : .dangling ∉ rest) :
    reader.step lexicon size (.plain c) rest =
      reader.readPlain lexicon size (positionOf size (.plain c :: rest)) c rest := by
  obtain ⟨noBar, noClose⟩ : c ≠ '|' ∧ c ≠ ')' := by simpa using item
  simp [Reader.step, settled.items, Reader.readItem, noBar, noClose, advance_cons whole, settled.terse, bind,
    Except.bind]

theorem step_ordinary (settled : Settled opened reader) {token : Token} (ordinary : isOrdinary token = true)
    (whole : .dangling ∉ rest) :
    reader.step lexicon size token rest =
      .ok (reader.append .other (positionOf size (token :: rest)) .one, rest) := by
  cases token with
  | plain c =>
      have item : c ∉ ['|', ')'] := not_mem_of_isOrdinary ordinary (by decide)
      rw [settled.step_plain c item whole, readPlain_ordinary _ _ _ _ ordinary]
  | escaped c =>
      simp [Reader.step, settled.items, Reader.readItem, advance_cons whole, bind, Except.bind,
        readEscape_ordinary _ _ _ _ ordinary]
  | dangling => cases ordinary

theorem read_ordinary (settled : Settled opened reader) {token : Token} (ordinary : isOrdinary token = true)
    (whole : .dangling ∉ rest) :
    reader.read lexicon size (token :: rest) =
      (reader.append .other (positionOf size (token :: rest)) .one).read lexicon size rest :=
  read_of_step settled.idle settled.idle List.suffix_rfl (settled.step_ordinary ordinary whole)

theorem read_plain (settled : Settled opened reader) (c : Char) (item : c ∉ ['|', ')'])
    (whole : .dangling ∉ rest) {next : Reader} (idle : next.pending = 0) {left : List Token}
    (suffix : left <:+ rest)
    (stepped : reader.readPlain lexicon size (positionOf size (.plain c :: rest)) c rest = .ok (next, left)) :
    reader.read lexicon size (.plain c :: rest) = next.read lexicon size left := by
  apply read_of_step settled.idle idle suffix
  rw [settled.step_plain c item whole, stepped]

theorem read_of_error (settled : Settled opened reader) {token : Token} {stop : Stop}
    (stepped : reader.step lexicon size token rest = .error stop) :
    reader.read lexicon size (token :: rest) = .error stop := by
  simp only [Reader.read, settled.idle, stepped]

theorem read_start (settled : Settled opened reader) (whole : .dangling ∉ rest) :
    reader.read lexicon size (.plain '^' :: rest) =
      (reader.append .anchor (positionOf size (.plain '^' :: rest)) .zero).read lexicon size rest := by
  have anchored := settled.append .anchor (positionOf size (.plain '^' :: rest)) .zero
  apply settled.read_plain _ (by decide) whole anchored.idle List.suffix_rfl
  rfl

theorem repeatLast (settled : Settled opened reader) {item : Item}
    (last : reader.level.sequence.last = some item) (other : item.kind = .other) (follows : Follows rest)
    (least : Nat) (greatest : Option Nat) :
    ∃ next, Settled opened next ∧
      ∀ place, reader.repeatLast size place least greatest rest = .ok (next, rest) := by
  refine ⟨_, settled.replaceLast ⟨.repetition, item.start, item.width.repeated least greatest⟩ "MAX_REPEAT", ?_⟩
  intro place
  simp only [Reader.repeatLast, last, other, skip?_eq_none follows.notLazy,
    skip?_eq_none follows.notPossessive, bind, Except.bind, pure, Except.pure]

theorem read_many (settled : Settled opened reader) {token : Token} (ordinary : isOrdinary token = true)
    (follows : Follows rest) :
    ∃ next, Settled opened next ∧
      reader.read lexicon size (token :: .plain '*' :: rest) = next.read lexicon size rest := by
  have starred := follows.plain '*' (by decide)
  have once := settled.append .other (positionOf size (token :: .plain '*' :: rest)) .one
  obtain ⟨next, settledNext, repeated⟩ := once.repeatLast rfl rfl follows 0 none
  refine ⟨next, settledNext, ?_⟩
  rw [settled.read_ordinary ordinary starred.whole]
  exact once.read_plain _ (by decide) follows.whole settledNext.idle List.suffix_rfl
    (repeated (positionOf size (.plain '*' :: rest)))

theorem read_times (settled : Settled opened reader) {token : Token} (ordinary : isOrdinary token = true)
    {digits : Text} (written : digits ≠ []) (decimal : ∀ c ∈ digits, isDecimal c = true)
    (short : digits.length ≤ Text.numeralLimit) (small : Nat.ofDigitChars 10 digits 0 < repeatLimit)
    (follows : Follows rest) :
    ∃ next, Settled opened next ∧
      reader.read lexicon size (token :: .plain '\x7b' :: (digits.map .plain ++ .plain '\x7d' :: rest)) =
        next.read lexicon size rest := by
  have counted := (follows.plain '\x7d' (by decide)).digits decimal
  have once := settled.append .other
    (positionOf size (token :: .plain '\x7b' :: (digits.map .plain ++ .plain '\x7d' :: rest))) .one
  have number : Reader.repetitions digits = .ok (some (Nat.ofDigitChars 10 digits 0)) := by
    simp [Reader.repetitions, written, Nat.not_lt.mpr short, Nat.not_le.mpr small]
  have suffix : rest <:+ digits.map Token.plain ++ .plain '\x7d' :: rest :=
    ⟨digits.map .plain ++ [.plain '\x7d'], by simp⟩
  obtain ⟨next, settledNext, repeated⟩ := once.repeatLast rfl rfl follows (Nat.ofDigitChars 10 digits 0)
    (some (Nat.ofDigitChars 10 digits 0))
  refine ⟨next, settledNext, ?_⟩
  rw [settled.read_ordinary ordinary (counted.plain '\x7b' (by decide)).whole]
  apply once.read_plain _ (by decide) counted.whole settledNext.idle suffix
  rw [Reader.readPlain, readBrace_digits _ _ _ written decimal follows.whole, number]
  exact repeated (positionOf size (.plain '\x7b' :: (digits.map .plain ++ .plain '\x7d' :: rest)))

theorem read_refused (settled : Settled opened reader) {token : Token} (ordinary : isOrdinary token = true)
    {digits : Text} (written : digits ≠ []) (decimal : ∀ c ∈ digits, isDecimal c = true) {stop : Stop}
    (refused : Reader.repetitions digits = .error stop) (follows : Follows rest) :
    reader.read lexicon size (token :: .plain '\x7b' :: (digits.map .plain ++ .plain '\x7d' :: rest)) =
      .error stop := by
  have counted := (follows.plain '\x7d' (by decide)).digits decimal
  have once := settled.append .other
    (positionOf size (token :: .plain '\x7b' :: (digits.map .plain ++ .plain '\x7d' :: rest))) .one
  rw [settled.read_ordinary ordinary (counted.plain '\x7b' (by decide)).whole]
  apply once.read_of_error
  rw [once.step_plain _ (by decide) counted.whole, Reader.readPlain,
    readBrace_digits _ _ _ written decimal follows.whole, refused]
  rfl

theorem read_brace (settled : Settled opened reader) (follows : Follows rest) :
    ∃ next, Settled opened next ∧
      reader.read lexicon size (.plain '\x7b' :: .plain '-' :: rest) = next.read lexicon size rest := by
  have dashed := follows.plain '-' (by decide)
  have once := settled.append .other (positionOf size (.plain '\x7b' :: .plain '-' :: rest)) .one
  refine ⟨_, once.append .other (positionOf size (.plain '-' :: rest)) .one, ?_⟩
  rw [← once.read_ordinary (by decide) follows.whole]
  apply settled.read_plain _ (by decide) dashed.whole once.idle List.suffix_rfl
  simp [Reader.readPlain, Reader.readBrace, Reader.readCounts?, takeSome, skip?, isDecimal, bind,
    Except.bind, pure, Except.pure]

theorem read_either (settled : Settled opened reader) (whole : .dangling ∉ rest) :
    ∃ next, Settled opened next ∧
      reader.read lexicon size (.plain '|' :: rest) = next.read lexicon size rest := by
  have noCondition : (opened.head?.map Frame.bracket == some .condition) = false := by
    cases opened with
    | nil => rfl
    | cons frame opened =>
        obtain ⟨group, capture⟩ := settled.captures frame List.mem_cons_self
        simp [capture]
  have alternated : reader.step lexicon size (.plain '|') rest =
      .ok ({ reader with level := reader.level.next, verbose := false }, rest) := by
    simp [Reader.step, settled.items, Reader.readItem, Reader.alternate, settled.frames, noCondition,
      advance_cons whole, settled.flags, settled.terse, bind, Except.bind, pure, Except.pure]
  have next : Settled opened { reader with level := reader.level.next, verbose := false } :=
    { settled with terse := rfl }
  exact ⟨_, next, read_of_step settled.idle next.idle List.suffix_rfl alternated⟩

theorem read_open (settled : Settled opened reader) (follows : Follows rest) :
    ∃ frame next, frame.verbose = false ∧ Settled (frame :: opened) next ∧
      reader.read lexicon size (.plain '(' :: rest) = next.read lexicon size rest := by
  let frame : Frame :=
    ⟨.capture (reader.groups.length + 1), positionOf size (.plain '(' :: rest), reader.level, reader.verbose⟩
  have next : Settled (frame :: opened) (reader.enterCapture (positionOf size (.plain '(' :: rest))) :=
    { settled with
      frames := congrArg (frame :: ·) settled.frames
      captures := List.forall_mem_cons.mpr ⟨⟨_, rfl⟩, settled.captures⟩ }
  refine ⟨frame, _, settled.terse, next, ?_⟩
  apply settled.read_plain _ (by decide) follows.whole next.idle List.suffix_rfl
  simp [Reader.readPlain, Reader.readOpening, skip?_eq_none follows.notLazy, bind, Except.bind, pure,
    Except.pure]

theorem read_close {frame : Frame} (settled : Settled (frame :: opened) reader)
    (terse : frame.verbose = false) (whole : .dangling ∉ rest) :
    ∃ next, Settled opened next ∧
      reader.read lexicon size (.plain ')' :: rest) = next.read lexicon size rest := by
  obtain ⟨⟨group, capture⟩, captures⟩ := List.forall_mem_cons.mp settled.captures
  have closed : reader.step lexicon size (.plain ')') rest = .ok (reader.leave frame opened, rest) := by
    simp [Reader.step, settled.items, Reader.readItem, Reader.close, settled.frames, advance_cons whole, bind,
      Except.bind, pure, Except.pure]
  have next : Settled opened (reader.leave frame opened) := by
    simp only [Reader.leave, capture]
    exact { settled with items := rfl, terse := terse, frames := rfl, captures := captures }
  exact ⟨_, next, read_of_step settled.idle next.idle List.suffix_rfl closed⟩

end Settled

/-! ### Runs over regular patterns -/

theorem Regular.read_append (lexicon : Lexicon) (size : Nat) {front : List Token} (regular : Regular front)
    {opened : List Frame} {reader : Reader} (settled : Settled opened reader) {rest : List Token}
    (follows : Follows rest) :
    ∃ next, Settled opened next ∧
      reader.read lexicon size (front ++ rest) = next.read lexicon size rest := by
  induction regular generalizing opened reader rest with
  | nil => exact ⟨reader, settled, rfl⟩
  | start regular ih =>
      obtain ⟨last, settledLast, passed⟩ := ih (settled.append .anchor _ .zero) follows
      exact ⟨last, settledLast, (settled.read_start (regular.follows follows).whole).trans passed⟩
  | one ordinary regular ih =>
      obtain ⟨last, settledLast, passed⟩ := ih (settled.append .other _ .one) follows
      exact ⟨last, settledLast, (settled.read_ordinary ordinary (regular.follows follows).whole).trans passed⟩
  | many ordinary regular ih =>
      obtain ⟨next, settledNext, first⟩ := settled.read_many ordinary (regular.follows follows)
      obtain ⟨last, settledLast, passed⟩ := ih settledNext follows
      exact ⟨last, settledLast, first.trans passed⟩
  | times ordinary written decimal short small regular ih =>
      obtain ⟨next, settledNext, first⟩ :=
        settled.read_times ordinary written decimal short small (regular.follows follows)
      obtain ⟨last, settledLast, passed⟩ := ih settledNext follows
      refine ⟨last, settledLast, ?_⟩
      simpa using first.trans passed
  | brace regular ih =>
      obtain ⟨next, settledNext, first⟩ := settled.read_brace (regular.follows follows)
      obtain ⟨last, settledLast, passed⟩ := ih settledNext follows
      exact ⟨last, settledLast, first.trans passed⟩
  | either regular ih =>
      obtain ⟨next, settledNext, first⟩ := settled.read_either (regular.follows follows).whole
      obtain ⟨last, settledLast, passed⟩ := ih settledNext follows
      exact ⟨last, settledLast, first.trans passed⟩
  | group inside regular insideIh ih =>
      have after := regular.follows follows
      have closing := after.plain ')' (by decide)
      obtain ⟨frame, entered, terse, settledEntered, first⟩ := settled.read_open (inside.follows closing)
      obtain ⟨full, settledFull, second⟩ := insideIh settledEntered closing
      obtain ⟨next, settledNext, third⟩ := settledFull.read_close terse after.whole
      obtain ⟨last, settledLast, passed⟩ := ih settledNext follows
      refine ⟨last, settledLast, ?_⟩
      simpa using first.trans (second.trans (third.trans passed))

theorem settled_start : Settled [] Reader.start :=
  ⟨rfl, rfl, rfl, rfl, nofun, rfl, rfl, rfl⟩

theorem Settled.finish {reader : Reader} (settled : Settled [] reader) : reader.finish = .ok () := by
  simp [Reader.finish, settled.items, settled.frames, Reader.checkFlags, settled.flags, settled.references,
    Reader.lateFault?, settled.late, bind, Except.bind]

private theorem check_eq_read {pattern : Text} (whole : .dangling ∉ tokens pattern) (lexicon : Lexicon) :
    check lexicon pattern = Reader.start.read lexicon pattern.length (tokens pattern) := by
  unfold check
  split
  · rename_i dangling
    rw [dangling] at whole
    exact absurd List.mem_cons_self whole
  · rfl

theorem Regular.check_eq_ok {pattern : Text} (regular : Regular (tokens pattern)) (lexicon : Lexicon) :
    check lexicon pattern = .ok () := by
  have whole := (regular.follows Follows.nil).whole
  obtain ⟨last, settled, passed⟩ := regular.read_append lexicon pattern.length settled_start Follows.nil
  rw [List.append_nil] at passed whole
  rw [check_eq_read whole, passed, Reader.read, settled.finish]

/-! ### Escaped texts, calls and closing lines -/

private theorem ne_backslash {c : Char} (ordinary : isOrdinary (.plain c) = true) : c ≠ '\\' := by
  rintro rfl
  exact absurd ordinary (by decide)

theorem tokens_cons {c : Char} (plain : c ≠ '\\') (rest : Text) :
    tokens (c :: rest) = .plain c :: tokens rest := by
  cases rest <;> simp [tokens, plain]

theorem tokens_escaped (c : Char) (rest : Text) : tokens ('\\' :: c :: rest) = .escaped c :: tokens rest :=
  rfl

theorem tokens_append {text : Text} (ordinary : ∀ c ∈ text, isOrdinary (.plain c) = true) (rest : Text) :
    tokens (text ++ rest) = text.map .plain ++ tokens rest := by
  induction text with
  | nil => rfl
  | cons c text ih =>
      obtain ⟨here, later⟩ := List.forall_mem_cons.mp ordinary
      rw [List.cons_append, tokens_cons (ne_backslash here), ih later, List.map_cons, List.cons_append]

theorem Regular.plains {text : Text} (ordinary : ∀ c ∈ text, isOrdinary (.plain c) = true) {rest : List Token}
    (regular : Regular rest) : Regular (text.map .plain ++ rest) := by
  induction text with
  | nil => exact regular
  | cons c text ih =>
      obtain ⟨here, later⟩ := List.forall_mem_cons.mp ordinary
      exact .one here (ih later)

theorem regular_escape (text : Text) : Regular (tokens (escape text)) := by
  induction text with
  | nil => exact .nil
  | cons c text ih =>
      cases special : isSyntax c with
      | true =>
          have signs : syntaxSigns.all (fun sign => isOrdinary (.escaped sign)) = true := by decide +kernel
          have split : tokens (escape (c :: text)) = .escaped c :: tokens (escape text) := by
            simp [escape, special, tokens_escaped]
          rw [split]
          exact .one (List.all_eq_true.mp signs c (List.contains_iff_mem.mp special)) ih
      | false =>
          have ordinary : isOrdinary (.plain c) = true := by
            have signs : operators.all isSyntax = true := by decide +kernel
            apply isOrdinary_of_notMem
            intro sign
            rw [List.all_eq_true.mp signs c sign] at special
            cases special
          have split : escape (c :: text) = c :: escape text := by simp [escape, special]
          rw [split, tokens_cons (ne_backslash ordinary)]
          exact .one ordinary ih

theorem check_escape (lexicon : Lexicon) (text : Text) : check lexicon (escape text) = .ok () :=
  (regular_escape text).check_eq_ok lexicon

private theorem regular_gap {rest : Text} (regular : Regular (tokens rest)) :
    Regular (tokens (gapPattern ++ rest)) := by
  have shape : gapPattern = ['(', '.', '*', '|', '\\', 's', '*', ')'] := by decide +kernel
  have inside : Regular [.plain '.', .plain '*', .plain '|', .escaped 's', .plain '*'] :=
    .many (by decide) (.either (.many (by decide) .nil))
  simpa [shape, tokens_cons, tokens_escaped] using inside.group regular

private theorem regular_group {label rest : Text} (ordinary : ∀ c ∈ label, isOrdinary (.plain c) = true)
    (regular : Regular (tokens rest)) : Regular (tokens ('(' :: label ++ ')' :: rest)) := by
  rw [List.cons_append, tokens_cons (by decide), tokens_append ordinary, tokens_cons (by decide)]
  have inside := Regular.nil.plains ordinary
  rw [List.append_nil] at inside
  exact .group inside regular

private theorem regular_labels {labels : List Text}
    (ordinary : ∀ label ∈ labels, ∀ c ∈ label, isOrdinary (.plain c) = true) {rest : Text}
    (regular : Regular (tokens rest)) :
    Regular (tokens ((labels.flatMap fun label => gapPattern ++ '(' :: label ++ [')']) ++ rest)) := by
  induction labels with
  | nil => exact regular
  | cons label labels ih =>
      obtain ⟨here, later⟩ := List.forall_mem_cons.mp ordinary
      have grouped := regular_gap (regular_group here (ih later))
      simpa using grouped

private theorem regular_opening {title rest : Text} (ordinary : ∀ c ∈ title, isOrdinary (.plain c) = true)
    (regular : Regular (tokens rest)) :
    Regular (tokens (['^', '\\', 's', '*', '(', '\\', '['] ++ (title ++ ')' :: rest))) := by
  have bracket : isOrdinary (.escaped '[') = true := by decide
  have blank : isOrdinary (.escaped 's') = true := by decide
  have inside : Regular (.escaped '[' :: (title.map .plain ++ [])) := .one bracket (Regular.nil.plains ordinary)
  have whole := Regular.start (.many blank (inside.group regular))
  simpa [tokens_cons, tokens_escaped, tokens_append ordinary] using whole

private theorem callPattern_eq :
    callPattern = ['^', '\\', 's', '*', '(', '\\', '['] ++ ("UIAlertView showWithTitle".toList ++
      ')' :: ((Alert.labels.flatMap fun label => gapPattern ++ '(' :: label ++ [')']) ++ gapPattern)) := by
  decide +kernel

theorem check_callPattern (lexicon : Lexicon) : check lexicon callPattern = .ok () := by
  have title : "UIAlertView showWithTitle".toList.all (fun c => isOrdinary (.plain c)) = true := by
    decide +kernel
  have labels : Alert.labels.all (fun label => label.all fun c => isOrdinary (.plain c)) = true := by
    decide +kernel
  have gap : Regular (tokens gapPattern) := by
    rw [← List.append_nil gapPattern]
    exact regular_gap .nil
  apply Regular.check_eq_ok
  rw [callPattern_eq]
  apply regular_opening (List.all_eq_true.mp title)
  apply regular_labels _ gap
  intro label mem
  exact List.all_eq_true.mp (List.all_eq_true.mp labels label mem)

private theorem isDecimal_of_mem_toDigits {number : Nat} {c : Char} (mem : c ∈ Nat.toDigits 10 number) :
    isDecimal c = true := by
  have digit := Nat.isDigit_of_mem_toDigits (by decide) (by decide) mem
  simpa [isDecimal, Char.isDigit, Char.le_def] using digit

private theorem length_toDigits_le {number : Nat} (small : number < repeatLimit) :
    (Nat.toDigits 10 number).length ≤ Text.numeralLimit := by
  have few : (Nat.toDigits 10 number).length ≤ 10 := by
    apply (Nat.length_toDigits_le_iff (by decide) (by decide)).mpr
    exact Nat.lt_trans small (by decide)
  exact Nat.le_trans few (by decide)

private theorem tokens_closePattern {width : Int} {text : Text} (shown : (toString width).toList = text)
    (ordinary : ∀ c ∈ text, isOrdinary (.plain c) = true) :
    tokens (closePattern width) = .plain '^' :: .escaped 's' :: .plain '\x7b' ::
      (text.map .plain ++ .plain '\x7d' :: tokens (escape Block.closeToken)) := by
  have opening : "^\\s\x7b".toList = ['^', '\\', 's', '\x7b'] := by decide +kernel
  simp only [closePattern, opening, shown, List.cons_append, List.nil_append]
  rw [tokens_cons (by decide), tokens_escaped, tokens_cons (by decide), tokens_append ordinary,
    tokens_cons (by decide)]

private theorem toList_toString_ofNat (number : Nat) :
    (toString (number : Int)).toList = Nat.toDigits 10 number := by
  rw [Int.toString_eq_repr, Int.repr_eq_if, if_pos (Int.natCast_nonneg number), Int.toNat_natCast,
    Nat.toList_repr]

private theorem toList_toString_of_neg {width : Int} (negative : width < 0) :
    (toString width).toList = '-' :: Nat.toDigits 10 (-width).toNat := by
  rw [Int.toString_eq_repr, Int.repr_eq_if, if_neg (by omega), String.toList_append, Nat.toList_repr]
  rfl

private theorem tokens_closePattern_ofNat (number : Nat) :
    tokens (closePattern number) = .plain '^' :: .escaped 's' :: .plain '\x7b' ::
      ((Nat.toDigits 10 number).map .plain ++ .plain '\x7d' :: tokens (escape Block.closeToken)) :=
  tokens_closePattern (toList_toString_ofNat number) fun _ mem =>
    isOrdinary_of_isDecimal (isDecimal_of_mem_toDigits mem)

theorem check_closePattern_of_lt {number : Nat} (small : number < repeatLimit) (lexicon : Lexicon) :
    check lexicon (closePattern number) = .ok () := by
  have value : Nat.ofDigitChars 10 (Nat.toDigits 10 number) 0 < repeatLimit := by
    rwa [Nat.ofDigitChars_ten_toDigits]
  apply Regular.check_eq_ok
  rw [tokens_closePattern_ofNat]
  exact .start (.times (by decide) Nat.toDigits_ne_nil (fun _ => isDecimal_of_mem_toDigits)
    (length_toDigits_le small) value (regular_escape Block.closeToken))

theorem check_closePattern_of_neg {width : Int} (negative : width < 0) (lexicon : Lexicon) :
    check lexicon (closePattern width) = .ok () := by
  have digits : ∀ c ∈ Nat.toDigits 10 (-width).toNat, isOrdinary (.plain c) = true := fun _ mem =>
    isOrdinary_of_isDecimal (isDecimal_of_mem_toDigits mem)
  apply Regular.check_eq_ok
  rw [tokens_closePattern (toList_toString_of_neg negative) (List.forall_mem_cons.mpr ⟨by decide, digits⟩)]
  have closed : Regular (.plain '\x7d' :: tokens (escape Block.closeToken)) :=
    .one (by decide) (regular_escape Block.closeToken)
  exact .start (.one (by decide) (.brace (closed.plains digits)))

private theorem repetitions_of_le {number : Nat} (large : repeatLimit ≤ number) :
    ∃ stop ∈ [Stop.repetitionTooLarge, .numeralTooLong],
      Reader.repetitions (Nat.toDigits 10 number) = .error stop := by
  by_cases long : Text.numeralLimit < (Nat.toDigits 10 number).length
  · exact ⟨.numeralTooLong, by decide, by simp [Reader.repetitions, long]⟩
  · refine ⟨.repetitionTooLarge, by decide, ?_⟩
    simp [Reader.repetitions, long, large, Nat.toDigits_ne_nil]

theorem check_closePattern_of_le {number : Nat} (large : repeatLimit ≤ number) (lexicon : Lexicon) :
    ∃ stop ∈ [Stop.repetitionTooLarge, .numeralTooLong],
      check lexicon (closePattern number) = .error stop := by
  have decimal : ∀ c ∈ Nat.toDigits 10 number, isDecimal c = true := fun _ => isDecimal_of_mem_toDigits
  have closing := (regular_escape Block.closeToken).follows Follows.nil
  rw [List.append_nil] at closing
  have counted := (closing.plain '\x7d' (by decide)).digits decimal
  have blank : isOrdinary (.escaped 's') = true := by decide
  have blanks := (counted.plain '\x7b' (by decide)).ordinary blank
  obtain ⟨stop, mem, refused⟩ := repetitions_of_le large
  refine ⟨stop, mem, ?_⟩
  rw [check_eq_read, tokens_closePattern_ofNat, settled_start.read_start blanks.whole]
  · exact (settled_start.append .anchor _ .zero).read_refused blank Nat.toDigits_ne_nil decimal refused closing
  · rw [tokens_closePattern_ofNat]
    exact (blanks.plain '^' (by decide)).whole

/-- The pattern of a closing line compiles exactly if there is a closer for the width. -/
theorem check_closePattern_eq_ok_iff (lexicon : Lexicon) (width : Int) :
    check lexicon (closePattern width) = .ok () ↔ (Block.Closer.ofWidth? width).isSome = true := by
  have limit : Block.widthLimit = repeatLimit := rfl
  unfold Block.Closer.ofWidth?
  rw [limit]
  split_ifs with negative small
  · simp [check_closePattern_of_neg negative]
  · obtain ⟨number, rfl⟩ := Int.eq_ofNat_of_zero_le (Int.not_lt.mp negative)
    simp [check_closePattern_of_lt (Int.ofNat_lt.mp small)]
  · obtain ⟨number, rfl⟩ := Int.eq_ofNat_of_zero_le (Int.not_lt.mp negative)
    obtain ⟨stop, _, refused⟩ := check_closePattern_of_le (Int.ofNat_le.mp (Int.not_lt.mp small)) lexicon
    simp [refused]

end AlertMigration.StructuralPattern
