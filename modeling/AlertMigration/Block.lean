import AlertMigration.Text.Basic

/-!
Tap blocks: the line that closes one, and the search for it.

A block is closed by a line with the indentation of its call followed by the closing token. Blanks of
any kind count as indentation, one column each, and what follows the token is not looked at. Positions in
a list of lines are signed: from zero on they count from the start, negative ones from the end.
-/

namespace AlertMigration.Position

/-! ### Signed positions -/

def resolve? (length : Nat) (position : Int) : Option Nat :=
  if 0 ≤ position then
    if position < length then some position.toNat else none
  else if 0 ≤ position + length then
    some (position + length).toNat
  else
    none

/-- The gap at a position; positions beyond either end are moved to that end. -/
def clamp (length : Nat) (position : Int) : Nat :=
  if 0 ≤ position then min position.toNat length else (position + length).toNat

def fitsWord (position : Int) : Bool :=
  -9223372036854775808 ≤ position && position ≤ 9223372036854775807

def slice {α : Type} (items : List α) (start stop : Int) : List α :=
  (items.take (clamp items.length stop)).drop (clamp items.length start)

end AlertMigration.Position

namespace AlertMigration.Block

/-! ### Closing lines -/

def closeToken : Text :=
  "\x7d];".toList

def widthLimit : Nat :=
  4294967295

def closes (width : Nat) (line : Text) : Bool :=
  (line.take width).all isBlank && closeToken.isPrefixOf (line.drop width)

inductive Closer where
  | indented (width : Nat)
  /-- One blank, then a number below zero between braces: such a number is no width and is looked for
  as text. -/
  | literal (number : Int)
deriving DecidableEq, Repr

namespace Closer

def ofWidth? (width : Int) : Option Closer :=
  if width < 0 then some (.literal width)
  else if width < widthLimit then some (.indented width.toNat)
  else none

/-- How far the closer reaches from the start of a line, if it matches there. -/
def reach? : Closer → Text → Option Nat
  | .indented width, line => if closes width line then some (width + closeToken.length) else none
  | .literal _, [] => none
  | .literal number, c :: rest =>
      let token := s!"\x7b{number}\x7d".toList ++ closeToken
      if isBlank c && token.isPrefixOf rest then some (1 + token.length) else none

def accepts (closer : Closer) (line : Text) : Bool :=
  (closer.reach? line).isSome

theorem accepts_indented (width : Nat) (line : Text) :
    (indented width).accepts line = closes width line := by
  cases closed : closes width line <;> simp [accepts, reach?, closed]

end Closer

/-! ### The end of a block -/

inductive Error where
  | widthTooLarge
  | outOfRange
  | emptySpan (start stop : Int)
deriving DecidableEq, Repr

def Error.message : Error → String
  | .widthTooLarge => "the indentation is too wide"
  | .outOfRange => "the search starts before the first line"
  | .emptySpan start stop => s!"block end {stop} must follow start {start}"

def firstClosing? (width : Nat) (lines : List Text) : Option Nat :=
  lines.findIdx? (closes width)

/-- The position of the first line after `start` that closes a block of the given width. A negative
`start` counts from the end; the search then goes through the lines before the end, and if none of
them closes the block, through the whole list. -/
def findEnd (lines : List Text) (start width : Int) : Except Error (Option Int) :=
  match Closer.ofWidth? width with
  | none => .error .widthTooLarge
  | some closer =>
      let first := start + 1
      if 0 ≤ first then
        .ok (((lines.drop first.toNat).findIdx? closer.accepts).map (first + ·))
      else if first + lines.length < 0 then
        .error .outOfRange
      else
        match (lines.drop (first + lines.length).toNat).findIdx? closer.accepts with
        | some offset => .ok (some (first + offset))
        | none => .ok ((lines.findIdx? closer.accepts).map Int.ofNat)

structure Span where
  start : Int
  stop : Int
  body : Text
deriving DecidableEq, Repr

def capture (lines : List Text) (start stop : Int) : Except Error Span :=
  if stop ≤ start then
    .error (.emptySpan start stop)
  else
    .ok ⟨start, stop, (Position.slice lines (start + 1) stop).flatten⟩

end AlertMigration.Block
