/-!
Texts, their characters and their lines.

A text is a list of characters, so that positions and lengths count code points and every operation is a
recursion on the list. Character classes are stated as lists of code-point ranges. A line ends after a line
feed, a carriage return, or the pair of both, and keeps that terminator; no other character breaks a line.
Neither trimming nor splitting loses anything: `trimEnd_append_blankTail`, `flatten_splitLines`.
-/

namespace AlertMigration

/-! ### Code points -/

/-- A text under examination. Messages that are only shown are `String`s. -/
abbrev Text := List Char

/-- The code points from `first` to `last`, both included. -/
structure CodeRange where
  first : Nat
  last : Nat
deriving DecidableEq, Repr

namespace CodeRange

def single (c : Char) : CodeRange :=
  ⟨c.toNat, c.toNat⟩

def contains (range : CodeRange) (c : Char) : Bool :=
  range.first ≤ c.toNat && c.toNat ≤ range.last

def anyContains (ranges : List CodeRange) (c : Char) : Bool :=
  ranges.any (contains · c)

end CodeRange

/-! ### Blanks -/

def blankRanges : List CodeRange :=
  [⟨0x09, 0x0D⟩, ⟨0x1C, 0x20⟩, ⟨0x85, 0x85⟩, ⟨0xA0, 0xA0⟩, ⟨0x1680, 0x1680⟩, ⟨0x2000, 0x200A⟩,
    ⟨0x2028, 0x2029⟩, ⟨0x202F, 0x202F⟩, ⟨0x205F, 0x205F⟩, ⟨0x3000, 0x3000⟩]

def isBlank (c : Char) : Bool :=
  CodeRange.anyContains blankRanges c

namespace Text

def blankHead (text : Text) : Text :=
  text.takeWhile isBlank

def trimStart (text : Text) : Text :=
  text.dropWhile isBlank

/-- The longest run of blanks at the end; a line terminator is part of it. -/
def blankTail (text : Text) : Text :=
  (text.reverse.takeWhile isBlank).reverse

def trimEnd (text : Text) : Text :=
  (text.reverse.dropWhile isBlank).reverse

def trim (text : Text) : Text :=
  trimEnd (trimStart text)

theorem blankHead_append_trimStart (text : Text) : blankHead text ++ trimStart text = text :=
  List.takeWhile_append_dropWhile

theorem trimEnd_append_blankTail (text : Text) : trimEnd text ++ blankTail text = text := by
  rw [trimEnd, blankTail, ← List.reverse_append, List.takeWhile_append_dropWhile,
    List.reverse_reverse]

end Text

end AlertMigration

namespace AlertMigration.Text

/-! ### Searching -/

def indexOf? (needle : Text) : Text → Option Nat
  | [] => if needle.isEmpty then some 0 else none
  | c :: rest =>
      if needle.isPrefixOf (c :: rest) then some 0 else (indexOf? needle rest).map (· + 1)

/-- The text between the first occurrence of `opening` and the first occurrence of `closing`, both
looked for from the start of the text. It is empty when either is missing and when the closing
occurrence begins before the opening one has ended. -/
def between (opening closing text : Text) : Text :=
  match indexOf? opening text, indexOf? closing text with
  | some start, some stop => (text.take stop).drop (start + opening.length)
  | _, _ => []

/-! ### Lines -/

def isBreak (c : Char) : Bool :=
  c == '\n' || c == '\r'

/-- The lines of a text, each with its terminator. Only the last line may have none. -/
def splitLines : Text → List Text
  | [] => []
  | '\r' :: '\n' :: rest => ['\r', '\n'] :: splitLines rest
  | c :: rest =>
      if isBreak c then
        [c] :: splitLines rest
      else
        match splitLines rest with
        | [] => [[c]]
        | line :: lines => (c :: line) :: lines

def terminator (line : Text) : Text :=
  match line.reverse with
  | '\n' :: '\r' :: _ => ['\r', '\n']
  | '\n' :: _ => ['\n']
  | '\r' :: _ => ['\r']
  | _ => []

def unifyBreaks : Text → Text
  | [] => []
  | '\r' :: '\n' :: rest => '\n' :: unifyBreaks rest
  | '\r' :: rest => '\n' :: unifyBreaks rest
  | c :: rest => c :: unifyBreaks rest

theorem flatten_splitLines (text : Text) : (splitLines text).flatten = text := by
  fun_induction splitLines text with
  | case1 => rfl
  | case2 rest ih => simp [ih]
  | case3 c rest _ _ ih => simp [ih]
  | case4 c rest _ _ empty ih => simpa [empty] using ih
  | case5 c rest _ _ line lines split ih =>
      rw [split, List.flatten_cons] at ih
      rw [List.flatten_cons, List.cons_append, ih]

/-! ### Numerals -/

def hexValue? (c : Char) : Option Nat :=
  if '0' ≤ c && c ≤ '9' then some (c.toNat - '0'.toNat)
  else if 'a' ≤ c && c ≤ 'f' then some (c.toNat - 'a'.toNat + 10)
  else if 'A' ≤ c && c ≤ 'F' then some (c.toNat - 'A'.toNat + 10)
  else none

/-- The zero of every script. The digits from one to nine follow it. -/
def digitZeros : List Nat :=
  [0x0030, 0x0660, 0x06F0, 0x07C0, 0x0966, 0x09E6, 0x0A66, 0x0AE6, 0x0B66, 0x0BE6, 0x0C66,
    0x0CE6, 0x0D66, 0x0DE6, 0x0E50, 0x0ED0, 0x0F20, 0x1040, 0x1090, 0x17E0, 0x1810, 0x1946,
    0x19D0, 0x1A80, 0x1A90, 0x1B50, 0x1BB0, 0x1C40, 0x1C50, 0xA620, 0xA8D0, 0xA900, 0xA9D0,
    0xA9F0, 0xAA50, 0xABF0, 0xFF10, 0x104A0, 0x10D30, 0x11066, 0x110F0, 0x11136, 0x111D0, 0x112F0,
    0x11450, 0x114D0, 0x11650, 0x116C0, 0x11730, 0x118E0, 0x11950, 0x11C50, 0x11D50, 0x11DA0,
    0x16A60, 0x16AC0, 0x16B50, 0x1D7CE, 0x1D7D8, 0x1D7E2, 0x1D7EC, 0x1D7F6, 0x1E140, 0x1E2F0,
    0x1E950, 0x1FBF0]

def digitValue? (c : Char) : Option Nat :=
  digitZeros.findSome? fun nought =>
    if nought ≤ c.toNat && c.toNat ≤ nought + 9 then some (c.toNat - nought) else none

def isDigit (c : Char) : Bool :=
  (digitValue? c).isSome

def moreDigits? (value : Nat) : Text → Option Nat
  | [] => some value
  | '_' :: c :: rest => (digitValue? c).bind fun digit => moreDigits? (10 * value + digit) rest
  | c :: rest => (digitValue? c).bind fun digit => moreDigits? (10 * value + digit) rest

def numeralLimit : Nat :=
  4300

def natural? (text : Text) : Option Nat :=
  if numeralLimit < text.countP isDigit then none
  else
    match text with
    | [] => none
    | c :: rest => (digitValue? c).bind fun digit => moreDigits? digit rest

private def isPadding (c : Char) : Bool :=
  isBlank c && !(CodeRange.mk 0x1C 0x1F).contains c

private def trimPadding (text : Text) : Text :=
  ((text.dropWhile isPadding).reverse.dropWhile isPadding).reverse

def integer? (text : Text) : Option Int :=
  match trimPadding text with
  | '-' :: rest => (natural? rest).map fun value => -(value : Int)
  | '+' :: rest => (natural? rest).map Int.ofNat
  | rest => (natural? rest).map Int.ofNat

end AlertMigration.Text
