import AlertMigration.Alert
import AlertMigration.Block
import AlertMigration.Config
import AlertMigration.Text.Quoted

/-!
Reading structural patterns.

A pattern is a regular expression in the syntax of the engine that it is meant for. It is read token by token, a
token being a character or a backslash with the character after it. The reader keeps the groups that are open, the
alternatives in each of them and how wide a text they can match, since what looks behind has to have one width. A
backslash at the end of a pattern is a fault as soon as the token before it has been read.
-/

namespace AlertMigration.StructuralPattern

/-! ### Faults -/

inductive Fault where
  | danglingEscape
  | badEscape (escape : Text)
  | incompleteEscape (escape : Text)
  | octalEscape (escape : Text)
  | missingBrace
  | undefinedCharacter (name : Text)
  | openReference
  | lookbehindReference
  | invalidReference (group : Nat)
  | unterminatedSet
  | badRange (first last : Text)
  | reversedRepeat
  | nothingToRepeat
  | multipleRepeat
  | unexpectedEnd
  | missingName (kind : String)
  | unterminatedName (terminator : Char)
  | malformedName (name : Text)
  | unknownName (name : Text)
  | repeatedName (name : Text) (group former : Nat)
  | badGroupNumber
  | unknownExtension (sign : Text)
  | unterminatedComment
  | tooManyBranches
  | misplacedFlags
  | unterminatedFlags
  | unknownFlag
  | localeFlag
  | conflictingFlags
  | missingFlag
  | missingColon
  | typeFlagOff
  | globalFlagOn
  | globalFlagOff
  | flagOnAndOff
  | missingParenthesis
  | unbalancedParenthesis
  | variableLookbehind
  | farLookbehind
  | templateOperator (name : String)
deriving DecidableEq, Repr

def Fault.message : Fault → String
  | .danglingEscape => "bad escape (end of pattern)"
  | .badEscape escape => "bad escape " ++ String.ofList escape
  | .incompleteEscape escape => "incomplete escape " ++ String.ofList escape
  | .octalEscape escape => "octal escape value " ++ String.ofList escape ++ " outside of range 0-0o377"
  | .missingBrace => "missing \x7b"
  | .undefinedCharacter name => "undefined character name " ++ String.ofList name.quoted
  | .openReference => "cannot refer to an open group"
  | .lookbehindReference => "cannot refer to group defined in the same lookbehind subpattern"
  | .invalidReference group => s!"invalid group reference {group}"
  | .unterminatedSet => "unterminated character set"
  | .badRange first last => "bad character range " ++ String.ofList (first ++ '-' :: last)
  | .reversedRepeat => "min repeat greater than max repeat"
  | .nothingToRepeat => "nothing to repeat"
  | .multipleRepeat => "multiple repeat"
  | .unexpectedEnd => "unexpected end of pattern"
  | .missingName kind => "missing " ++ kind
  | .unterminatedName terminator => "missing " ++ String.singleton terminator ++ ", unterminated name"
  | .malformedName name => "bad character in group name " ++ String.ofList name.quoted
  | .unknownName name => "unknown group name " ++ String.ofList name.quoted
  | .repeatedName name group former =>
      "redefinition of group name " ++ String.ofList name.quoted ++ s!" as group {group}; was group {former}"
  | .badGroupNumber => "bad group number"
  | .unknownExtension sign => "unknown extension ?" ++ String.ofList sign
  | .unterminatedComment => "missing ), unterminated comment"
  | .tooManyBranches => "conditional backref with more than two branches"
  | .misplacedFlags => "global flags not at the start of the expression"
  | .unterminatedFlags => "missing -, : or )"
  | .unknownFlag => "unknown flag"
  | .localeFlag => "bad inline flags: cannot use 'L' flag with a str pattern"
  | .conflictingFlags => "bad inline flags: flags 'a', 'u' and 'L' are incompatible"
  | .missingFlag => "missing flag"
  | .missingColon => "missing :"
  | .typeFlagOff => "bad inline flags: cannot turn off flags 'a', 'u' and 'L'"
  | .globalFlagOn => "bad inline flags: cannot turn on global flag"
  | .globalFlagOff => "bad inline flags: cannot turn off global flag"
  | .flagOnAndOff => "bad inline flags: flag turned on and off"
  | .missingParenthesis => "missing ), unterminated subpattern"
  | .unbalancedParenthesis => "unbalanced parenthesis"
  | .variableLookbehind => "look-behind requires fixed-width pattern"
  | .farLookbehind => "looks too much behind"
  | .templateOperator name => "internal: unsupported template operator " ++ name

inductive Stop where
  /-- The position is missing if the fault shows only when the whole pattern has been read. -/
  | fault (fault : Fault) (position : Option Nat)
  | repetitionTooLarge
  | numeralTooLong
  | incompatibleFlags
deriving DecidableEq, Repr

def stopAt {α : Type} (fault : Fault) (position : Nat) : Except Stop α :=
  .error (.fault fault (some position))

/-! ### Tokens -/

inductive Token where
  | plain (c : Char)
  | escaped (c : Char)
  /-- A backslash at the end of the pattern. -/
  | dangling
deriving DecidableEq, Repr

def Token.text : Token → Text
  | .plain c => [c]
  | .escaped c => ['\\', c]
  | .dangling => ['\\']

def tokens : Text → List Token
  | [] => []
  | c :: rest =>
      if c == '\\' then
        match rest with
        | [] => [.dangling]
        | d :: rest => .escaped d :: tokens rest
      else
        .plain c :: tokens rest

/-- Where the tokens that are left begin, in a pattern of the given size. -/
def positionOf (size : Nat) (left : List Token) : Nat :=
  size - (left.flatMap Token.text).length

def advance (size : Nat) : List Token → Except Stop (List Token)
  | [] => .ok []
  | [_, .dangling] => stopAt .danglingEscape (size - 1)
  | _ :: rest => .ok rest

def skip? (size : Nat) (sign : Char) (left : List Token) : Except Stop (Option (List Token)) :=
  match left with
  | .plain c :: _ => if c == sign then (advance size left).map some else .ok none
  | _ => .ok none

def takeSome (size : Nat) (wanted : Char → Bool) : Nat → List Token → Except Stop (Text × List Token)
  | count + 1, .plain c :: rest =>
      if wanted c then do
        let left ← advance size (.plain c :: rest)
        let (taken, left) ← takeSome size wanted count left
        return (c :: taken, left)
      else
        .ok ([], .plain c :: rest)
  | _, left => .ok ([], left)

def readUntil (size : Nat) (terminator : Char) (kind : String) (name : Text) :
    List Token → Except Stop (Text × List Token)
  | [] =>
      if name.isEmpty then stopAt (.missingName kind) size
      else stopAt (.unterminatedName terminator) (size - name.length)
  | token :: rest => do
      let _ ← advance size (token :: rest)
      if token == .plain terminator then
        if name.isEmpty then stopAt (.missingName kind) (positionOf size rest - 1) else .ok (name, rest)
      else
        readUntil size terminator kind (name ++ token.text) rest

/-! ### Escapes -/

structure Lexicon where
  isLetter : Char → Bool
  isName : Text → Bool
  character? : Text → Option Nat

def isOctal (c : Char) : Bool :=
  '0' ≤ c && c ≤ '7'

def isDecimal (c : Char) : Bool :=
  '0' ≤ c && c ≤ '9'

def isAsciiLetter (c : Char) : Bool :=
  'a' ≤ c && c ≤ 'z' || 'A' ≤ c && c ≤ 'Z'

def hexadecimalValue (digits : Text) : Nat :=
  digits.foldl (fun value c => 16 * value + (Text.hexValue? c).getD 0) 0

def controlCode? (c : Char) : Option Nat :=
  [('a', 7), ('f', 12), ('n', 10), ('r', 13), ('t', 9), ('v', 11)].lookup c

def isCategory (c : Char) : Bool :=
  "dDsSwW".toList.contains c

def isAnchor (c : Char) : Bool :=
  "AbBZ".toList.contains c

def codeLimit : Nat :=
  0x10FFFF

def readHexadecimal (size count : Nat) (c : Char) (left : List Token) : Except Stop (Nat × List Token) := do
  let (digits, left) ← takeSome size (fun d => (Text.hexValue? d).isSome) count left
  let escape := '\\' :: c :: digits
  let start := positionOf size left - escape.length
  if digits.length < count then
    stopAt (.incompleteEscape escape) start
  else if codeLimit < hexadecimalValue digits then
    stopAt (.badEscape escape) start
  else
    return (hexadecimalValue digits, left)

def readNamed (lexicon : Lexicon) (size : Nat) (left : List Token) : Except Stop (Nat × List Token) := do
  match ← skip? size '\x7b' left with
  | none => stopAt .missingBrace (positionOf size left)
  | some left =>
      let (name, left) ← readUntil size '\x7d' "character name" [] left
      match lexicon.character? name with
      | some code => return (code, left)
      | none => stopAt (.undefinedCharacter name) (positionOf size left - (name.length + 4))

def readCode? (lexicon : Lexicon) (size : Nat) (c : Char) (left : List Token) :
    Option (Except Stop (Nat × List Token)) :=
  if c == 'x' then some (readHexadecimal size 2 c left)
  else if c == 'u' then some (readHexadecimal size 4 c left)
  else if c == 'U' then some (readHexadecimal size 8 c left)
  else if c == 'N' then some (readNamed lexicon size left)
  else none

def byteLimit : Nat :=
  255

def octalCode (size : Nat) (digits : Text) (left : List Token) : Except Stop (Nat × List Token) :=
  if byteLimit < Nat.ofDigitChars 8 digits 0 then
    stopAt (.octalEscape ('\\' :: digits)) (positionOf size left - (digits.length + 1))
  else
    .ok (Nat.ofDigitChars 8 digits 0, left)

/-- An escape in a set: the code of a character, or nothing for a category. -/
def readSetEscape (lexicon : Lexicon) (size : Nat) (c : Char) (left : List Token) :
    Except Stop (Option Nat × List Token) :=
  if c == 'b' then .ok (some 8, left)
  else if isCategory c then .ok (none, left)
  else
    match controlCode? c, readCode? lexicon size c left with
    | some code, _ => .ok (some code, left)
    | none, some read => read.map fun (code, left) => (some code, left)
    | none, none =>
        if isOctal c then do
          let (digits, left) ← takeSome size isOctal 2 left
          let (code, left) ← octalCode size (c :: digits) left
          return (some code, left)
        else if isDecimal c || isAsciiLetter c then
          stopAt (.badEscape ['\\', c]) (positionOf size left - 2)
        else
          .ok (some c.toNat, left)

/-! ### Widths -/

/-- How many characters something matches at least and at most. -/
structure Width where
  least : Nat
  greatest : Nat
deriving DecidableEq, Repr

def repeatLimit : Nat :=
  4294967295

def widthCap : Nat :=
  18446744073709551616

namespace Width

def zero : Width :=
  ⟨0, 0⟩

def one : Width :=
  ⟨1, 1⟩

def add (first second : Width) : Width :=
  ⟨first.least + second.least, first.greatest + second.greatest⟩

def either (first second : Width) : Width :=
  ⟨min first.least second.least, max first.greatest second.greatest⟩

def capped (width : Width) : Width :=
  ⟨min width.least widthCap, min width.greatest widthCap⟩

def repeated (width : Width) (least : Nat) (greatest : Option Nat) : Width :=
  ⟨width.least * least,
    match greatest with
    | some greatest => width.greatest * greatest
    | none => if width.greatest = 0 then 0 else widthCap⟩

end Width

/-! ### Sequences and groups -/

inductive ItemKind where
  | anchor
  | repetition
  | other
deriving DecidableEq, Repr

structure Item where
  kind : ItemKind
  start : Nat
  width : Width
deriving DecidableEq, Repr

structure Sequence where
  /-- Of all items but the last. -/
  front : Width
  last : Option Item
deriving DecidableEq, Repr

namespace Sequence

def empty : Sequence :=
  ⟨.zero, none⟩

def width (sequence : Sequence) : Width :=
  match sequence.last with
  | none => sequence.front
  | some item => sequence.front.add item.width

def append (sequence : Sequence) (item : Item) : Sequence :=
  ⟨sequence.width, some item⟩

end Sequence

/-- The alternatives of a group, of which the last is being read. -/
structure Level where
  former : Option Width
  sequence : Sequence
deriving DecidableEq, Repr

namespace Level

def empty : Level :=
  ⟨none, .empty⟩

def width (level : Level) : Width :=
  match level.former with
  | none => level.sequence.width.capped
  | some former => former.either level.sequence.width.capped

def next (level : Level) : Level :=
  ⟨some level.width, .empty⟩

end Level

inductive Bracket where
  | plain
  | capture (group : Nat)
  | lookahead
  /-- The groups that could be referred to from the outside. -/
  | lookbehind (outside : Option Nat)
  | condition
deriving DecidableEq, Repr

structure Frame where
  bracket : Bracket
  start : Nat
  level : Level
  verbose : Bool
deriving DecidableEq, Repr

inductive Mode where
  | items
  | set (start : Nat) (hasMember : Bool)
  | range (start : Nat) (first : Token) (code : Option Nat)
  | comment (start : Nat)
  | lineComment
deriving DecidableEq, Repr

structure Reader where
  level : Level
  frames : List Frame
  verbose : Bool
  flags : Text
  /-- The widths of the groups, as far as they are closed. -/
  groups : List (Option Width)
  names : List (Text × Nat)
  lookbehind : Option Nat
  /-- The groups that conditions are about, each with the position where it is first named. -/
  references : List (Nat × Nat)
  /-- Faults that show when the whole pattern has been read, each with the position of what is at fault. -/
  late : List (Nat × Fault)
  mode : Mode
  /-- So many tokens have been read in advance. -/
  pending : Nat
deriving DecidableEq, Repr

namespace Reader

def start : Reader :=
  ⟨.empty, [], false, [], [], [], none, [], [], .items, 0⟩

def append (reader : Reader) (kind : ItemKind) (start : Nat) (width : Width) : Reader :=
  { reader with
    level := { reader.level with sequence := reader.level.sequence.append ⟨kind, start, width⟩ }
    mode := .items }

def enter (reader : Reader) (bracket : Bracket) (start : Nat) (verbose : Bool) : Reader :=
  { reader with
    level := .empty
    frames := ⟨bracket, start, reader.level, reader.verbose⟩ :: reader.frames
    verbose := verbose }

def groupWidth? (reader : Reader) (group : Nat) : Option Width :=
  if group = 0 then none else (reader.groups[group - 1]?).join

def checkLookbehind (reader : Reader) (group position : Nat) : Except Stop Unit :=
  match reader.lookbehind with
  | none => .ok ()
  | some limit =>
      if (reader.groupWidth? group).isNone then stopAt .openReference position
      else if limit ≤ group then stopAt .lookbehindReference position
      else .ok ()

/-! ### Escapes outside of sets -/

def readReference (reader : Reader) (size start : Nat) (digits : Text) (left : List Token) :
    Except Stop (Reader × List Token) := do
  let group := Nat.ofDigitChars 10 digits 0
  if reader.groups.length < group then
    stopAt (.invalidReference group) (start + 1)
  else
    match reader.groupWidth? group with
    | none => stopAt .openReference start
    | some width =>
        reader.checkLookbehind group (positionOf size left)
        return (reader.append .other start width, left)

/-- Digits after a backslash: the code of a character if there are three octal ones, otherwise a reference. -/
def readDigits (reader : Reader) (size start : Nat) (c : Char) (left : List Token) :
    Except Stop (Reader × List Token) := do
  let (second, left) ← takeSome size isDecimal 1 left
  let (third, left) ←
    if isOctal c && !second.isEmpty && second.all isOctal then takeSome size isOctal 1 left else .ok ([], left)
  if third.isEmpty then
    reader.readReference size start (c :: second) left
  else
    let (_, left) ← octalCode size (c :: second ++ third) left
    return (reader.append .other start .one, left)

def readEscape (reader : Reader) (lexicon : Lexicon) (size start : Nat) (c : Char) (left : List Token) :
    Except Stop (Reader × List Token) :=
  if isAnchor c then .ok (reader.append .anchor start .zero, left)
  else if isCategory c || (controlCode? c).isSome then .ok (reader.append .other start .one, left)
  else
    match readCode? lexicon size c left with
    | some read => read.map fun (_, left) => (reader.append .other start .one, left)
    | none =>
        if c == '0' then do
          let (_, left) ← takeSome size isOctal 2 left
          return (reader.append .other start .one, left)
        else if isDecimal c then reader.readDigits size start c left
        else if isAsciiLetter c then stopAt (.badEscape ['\\', c]) start
        else .ok (reader.append .other start .one, left)

/-! ### Repetitions -/

def replaceLast (reader : Reader) (item : Item) (operator : String) : Reader :=
  { reader with
    level := { reader.level with sequence := { reader.level.sequence with last := some item } }
    late :=
      if reader.flags.contains 't' then reader.late ++ [(item.start, .templateOperator operator)]
      else reader.late }

def repeatLast (reader : Reader) (size start least : Nat) (greatest : Option Nat) (left : List Token) :
    Except Stop (Reader × List Token) := do
  match reader.level.sequence.last with
  | none => stopAt .nothingToRepeat start
  | some item =>
      match item.kind with
      | .anchor => stopAt .nothingToRepeat start
      | .repetition => stopAt .multipleRepeat start
      | .other =>
          let repeated : Item := ⟨.repetition, item.start, item.width.repeated least greatest⟩
          match ← skip? size '?' left with
          | some left => return (reader.replaceLast repeated "MIN_REPEAT", left)
          | none =>
              match ← skip? size '+' left with
              | some left => return (reader.replaceLast repeated "POSSESSIVE_REPEAT", left)
              | none => return (reader.replaceLast repeated "MAX_REPEAT", left)

def repetitions (digits : Text) : Except Stop (Option Nat) :=
  if digits.isEmpty then .ok none
  else if Text.numeralLimit < digits.length then .error .numeralTooLong
  else if repeatLimit ≤ Nat.ofDigitChars 10 digits 0 then .error .repetitionTooLarge
  else .ok (some (Nat.ofDigitChars 10 digits 0))

/-- The digits on both sides of a comma up to a closing brace; without a comma they are the same. -/
def readCounts? (size : Nat) (left : List Token) : Except Stop (Option (Text × Text × List Token)) := do
  let (least, left) ← takeSome size isDecimal left.length left
  let (greatest, left) ←
    match ← skip? size ',' left with
    | some left => takeSome size isDecimal left.length left
    | none => .ok (least, left)
  match ← skip? size '\x7d' left with
  | some left => return some (least, greatest, left)
  | none => return none

/-- An opening brace stands for itself unless it begins a repetition. -/
def readBrace (reader : Reader) (size start : Nat) (left : List Token) :
    Except Stop (Reader × List Token) := do
  let counts ← if left.head? == some (.plain '\x7d') then .ok none else readCounts? size left
  match counts with
  | none => return (reader.append .other start .one, left)
  | some (least, greatest, left) =>
      let least ← repetitions least
      let greatest ← repetitions greatest
      if greatest.any (· < least.getD 0) then stopAt .reversedRepeat (start + 1)
      else reader.repeatLast size start (least.getD 0) greatest left

/-! ### Flags -/

def isFlag (c : Char) : Bool :=
  "iLmsxatu".toList.contains c

def isTypeFlag (c : Char) : Bool :=
  "Lau".toList.contains c

def refuseFlag {α : Type} (lexicon : Lexicon) (size : Nat) (expected : Fault) (token : Token)
    (left : List Token) : Except Stop α :=
  match token with
  | .plain c =>
      stopAt (if lexicon.isLetter c then .unknownFlag else expected) (positionOf size left - 1)
  | _ => stopAt expected (positionOf size left - 2)

def flagFault? (flags : Text) (c : Char) : Option Fault :=
  if c == 'L' then some .localeFlag
  else if (c == 'a' && flags.contains 'u') || (c == 'u' && flags.contains 'a') then some .conflictingFlags
  else none

def readFlags (lexicon : Lexicon) (size : Nat) (flags : Text) (c : Char) :
    List Token → Except Stop (Text × Char × List Token)
  | [] => stopAt ((flagFault? flags c).getD .unterminatedFlags) size
  | token :: rest =>
      match flagFault? flags c with
      | some fault => stopAt fault (positionOf size (token :: rest))
      | none => do
          let _ ← advance size (token :: rest)
          match token with
          | .plain d =>
              if d == ')' || d == '-' || d == ':' then .ok (c :: flags, d, rest)
              else if isFlag d then readFlags lexicon size (c :: flags) d rest
              else refuseFlag lexicon size .unterminatedFlags token rest
          | _ => refuseFlag lexicon size .unterminatedFlags token rest

def readFlagsOff (lexicon : Lexicon) (size : Nat) (flags : Text) :
    List Token → Except Stop (Text × List Token)
  | [] => stopAt (if flags.isEmpty then .missingFlag else .missingColon) size
  | token :: rest => do
      let _ ← advance size (token :: rest)
      match token with
      | .plain c =>
          if c == ':' && !flags.isEmpty then .ok (flags, rest)
          else if isTypeFlag c then stopAt .typeFlagOff (positionOf size rest)
          else if isFlag c then readFlagsOff lexicon size (c :: flags) rest
          else refuseFlag lexicon size (if flags.isEmpty then .missingFlag else .missingColon) token rest
      | _ => refuseFlag lexicon size (if flags.isEmpty then .missingFlag else .missingColon) token rest

def enterFlagged (reader : Reader) (size start : Nat) (on off : Text) (left : List Token) :
    Except Stop (Reader × List Token) :=
  let position := positionOf size left - 1
  if off.contains 't' then stopAt .globalFlagOff position
  else if on.any off.contains then stopAt .flagOnAndOff position
  else .ok (reader.enter .plain start ((reader.verbose || on.contains 'x') && !off.contains 'x'), left)

/-- Flags for the whole pattern have to stand before all else. -/
def setFlags (reader : Reader) (start : Nat) (on : Text) (left : List Token) :
    Except Stop (Reader × List Token) :=
  let flags := on ++ reader.flags
  if reader.frames.isEmpty && reader.level == .empty then
    .ok ({ reader with flags := flags, verbose := flags.contains 'x' }, left)
  else
    stopAt .misplacedFlags start

def readFlagged (reader : Reader) (lexicon : Lexicon) (size start : Nat) (c : Char) (left : List Token) :
    Except Stop (Reader × List Token) := do
  let (on, sign, left) ← if c == '-' then .ok ([], '-', left) else readFlags lexicon size [] c left
  if sign == ')' then
    reader.setFlags start on left
  else if on.contains 't' then
    stopAt .globalFlagOn (positionOf size left - 1)
  else if sign == '-' then
    let (off, left) ← readFlagsOff lexicon size [] left
    reader.enterFlagged size start on off left
  else
    reader.enterFlagged size start on [] left

/-! ### Groups -/

def enterCapture (reader : Reader) (start : Nat) : Reader :=
  { reader.enter (.capture (reader.groups.length + 1)) start reader.verbose with
    groups := reader.groups ++ [none] }

def readGroupName (lexicon : Lexicon) (size : Nat) (terminator : Char) (left : List Token) :
    Except Stop (Text × List Token) := do
  let (name, left) ← readUntil size terminator "group name" [] left
  if lexicon.isName name then
    return (name, left)
  else
    stopAt (.malformedName name) (positionOf size left - (name.length + 1))

def enterNamed (reader : Reader) (lexicon : Lexicon) (size start : Nat) (left : List Token) :
    Except Stop (Reader × List Token) := do
  let (name, left) ← readGroupName lexicon size '>' left
  let group := reader.groups.length + 1
  match reader.names.lookup name with
  | some former => stopAt (.repeatedName name group former) (positionOf size left - (name.length + 1))
  | none => return ({ reader.enterCapture start with names := (name, group) :: reader.names }, left)

def readNamedReference (reader : Reader) (lexicon : Lexicon) (size start : Nat) (left : List Token) :
    Except Stop (Reader × List Token) := do
  let (name, left) ← readGroupName lexicon size ')' left
  let position := positionOf size left - (name.length + 1)
  match reader.names.lookup name with
  | none => stopAt (.unknownName name) position
  | some group =>
      match reader.groupWidth? group with
      | none => stopAt .openReference position
      | some width =>
          reader.checkLookbehind group (positionOf size left)
          return (reader.append .other start width, left)

def groupLimit : Nat :=
  1073741823

def conditionGroup (reader : Reader) (lexicon : Lexicon) (position : Nat) (name : Text) :
    Except Stop (Reader × Nat) :=
  if lexicon.isName name then
    match reader.names.lookup name with
    | none => stopAt (.unknownName name) position
    | some group => .ok (reader, group)
  else
    match Text.integer? name with
    | some (.ofNat 0) => stopAt .badGroupNumber position
    | some (.ofNat group) =>
        if groupLimit ≤ group then stopAt (.invalidReference group) position
        else if (reader.references.lookup group).isSome then .ok (reader, group)
        else .ok ({ reader with references := reader.references ++ [(group, position)] }, group)
    | _ => stopAt (.malformedName name) position

def enterCondition (reader : Reader) (lexicon : Lexicon) (size start : Nat) (left : List Token) :
    Except Stop (Reader × List Token) := do
  let (name, left) ← readUntil size ')' "group name" [] left
  let (reader, group) ← reader.conditionGroup lexicon (positionOf size left - (name.length + 1)) name
  reader.checkLookbehind group (positionOf size left)
  return (reader.enter .condition start reader.verbose, left)

def enterLookbehind (reader : Reader) (start : Nat) : Reader :=
  { reader.enter (.lookbehind reader.lookbehind) start reader.verbose with
    lookbehind := reader.lookbehind <|> some (reader.groups.length + 1) }

def nextToken (size : Nat) (left : List Token) : Except Stop (Token × List Token) :=
  match left with
  | [] => stopAt .unexpectedEnd size
  | token :: _ => (advance size left).map (token, ·)

/-- What follows a parenthesis with a question mark. -/
def readExtension (reader : Reader) (lexicon : Lexicon) (size start : Nat) (left : List Token) :
    Except Stop (Reader × List Token) := do
  let (sign, left) ← nextToken size left
  match sign with
  | .plain 'P' =>
      match ← skip? size '<' left with
      | some left => reader.enterNamed lexicon size start left
      | none =>
          match ← skip? size '=' left with
          | some left => reader.readNamedReference lexicon size start left
          | none =>
              let (other, left) ← nextToken size left
              stopAt (.unknownExtension ('P' :: other.text)) (positionOf size left - (other.text.length + 2))
  | .plain ':' | .plain '>' => return (reader.enter .plain start reader.verbose, left)
  | .plain '#' => return ({ reader with mode := .comment start }, left)
  | .plain '=' | .plain '!' => return (reader.enter .lookahead start reader.verbose, left)
  | .plain '<' =>
      let (other, left) ← nextToken size left
      if other == .plain '=' || other == .plain '!' then
        return (reader.enterLookbehind start, left)
      else
        stopAt (.unknownExtension ('<' :: other.text)) (positionOf size left - (other.text.length + 2))
  | .plain '(' => reader.enterCondition lexicon size start left
  | .plain c =>
      if isFlag c || c == '-' then reader.readFlagged lexicon size start c left
      else stopAt (.unknownExtension [c]) (positionOf size left - 2)
  | other => stopAt (.unknownExtension other.text) (positionOf size left - (other.text.length + 1))

def readOpening (reader : Reader) (lexicon : Lexicon) (size start : Nat) (left : List Token) :
    Except Stop (Reader × List Token) := do
  match ← skip? size '?' left with
  | none => return (reader.enterCapture start, left)
  | some left => reader.readExtension lexicon size start left

def lookbehindFault? (width : Width) : Option Fault :=
  if repeatLimit < width.least then some .farLookbehind
  else if width.least ≠ width.greatest then some .variableLookbehind
  else none

def leave (reader : Reader) (frame : Frame) (outer : List Frame) : Reader :=
  let width := reader.level.width
  let outside := { reader with level := frame.level, frames := outer, verbose := frame.verbose }
  match frame.bracket with
  | .plain => outside.append .other frame.start width
  | .capture group =>
      { outside.append .other frame.start width with groups := reader.groups.set (group - 1) (some width) }
  | .lookahead => outside.append .other frame.start .zero
  | .lookbehind former =>
      { outside.append .other frame.start .zero with
        lookbehind := former
        late := reader.late ++ ((lookbehindFault? width).map (frame.start, ·)).toList }
  | .condition =>
      outside.append .other frame.start (if reader.level.former.isNone then ⟨0, width.greatest⟩ else width)

def checkFlags (reader : Reader) : Except Stop Unit :=
  if reader.flags.contains 'a' && reader.flags.contains 'u' then .error .incompatibleFlags else .ok ()

def close (reader : Reader) (size : Nat) (left : List Token) : Except Stop (Reader × List Token) := do
  match reader.frames with
  | [] =>
      reader.checkFlags
      stopAt .unbalancedParenthesis (positionOf size left)
  | frame :: outer =>
      let left ← advance size left
      return (reader.leave frame outer, left)

def alternate (reader : Reader) (size : Nat) (left : List Token) : Except Stop (Reader × List Token) :=
  let isSecond := reader.level.former.isSome
  if (reader.frames.head?.map Frame.bracket) == some .condition && isSecond then
    stopAt .tooManyBranches (positionOf size left)
  else do
    let left ← advance size left
    let verbose := if reader.frames.isEmpty then reader.flags.contains 'x' else reader.verbose
    return ({ reader with level := reader.level.next, verbose := verbose }, left)

/-! ### The steps of the reader -/

def isSpacing (c : Char) : Bool :=
  [' ', '\t', '\n', '\r', '\x0b', '\x0c'].contains c

def readPlain (reader : Reader) (lexicon : Lexicon) (size start : Nat) (c : Char) (left : List Token) :
    Except Stop (Reader × List Token) :=
  match c with
  | '[' => do
      let negated ← skip? size '^' left
      return ({ reader with mode := .set start false }, negated.getD left)
  | '(' => reader.readOpening lexicon size start left
  | '*' => reader.repeatLast size start 0 none left
  | '+' => reader.repeatLast size start 1 none left
  | '?' => reader.repeatLast size start 0 (some 1) left
  | '\x7b' => reader.readBrace size start left
  | '^' | '$' => .ok (reader.append .anchor start .zero, left)
  | _ => .ok (reader.append .other start .one, left)

def readItem (reader : Reader) (lexicon : Lexicon) (size : Nat) (token : Token) (rest : List Token) :
    Except Stop (Reader × List Token) :=
  let start := positionOf size (token :: rest)
  if token == .plain '|' then reader.alternate size (token :: rest)
  else if token == .plain ')' then reader.close size (token :: rest)
  else do
    let left ← advance size (token :: rest)
    match token with
    | .plain c =>
        if reader.verbose && isSpacing c then return (reader, left)
        else if reader.verbose && c == '#' then return ({ reader with mode := .lineComment }, left)
        else reader.readPlain lexicon size start c left
    | .escaped c => reader.readEscape lexicon size start c left
    | .dangling => stopAt .danglingEscape start

def setCode (lexicon : Lexicon) (size : Nat) (token : Token) (left : List Token) :
    Except Stop (Option Nat × List Token) :=
  match token with
  | .plain c => .ok (some c.toNat, left)
  | .escaped c => readSetEscape lexicon size c left
  | .dangling => .ok (none, left)

def readMember (reader : Reader) (lexicon : Lexicon) (size start : Nat) (hasMember : Bool) (token : Token)
    (rest : List Token) : Except Stop (Reader × List Token) := do
  let left ← advance size (token :: rest)
  if token == .plain ']' && hasMember then
    return (reader.append .other start .one, left)
  let (code, left) ← setCode lexicon size token left
  match ← skip? size '-' left with
  | some left => return ({ reader with mode := .range start token code }, left)
  | none => return ({ reader with mode := .set start true }, left)

def isRange : Option Nat → Option Nat → Bool
  | some first, some last => decide (first ≤ last)
  | _, _ => false

def readRangeEnd (reader : Reader) (lexicon : Lexicon) (size start : Nat) (first : Token) (code : Option Nat)
    (token : Token) (rest : List Token) : Except Stop (Reader × List Token) := do
  let left ← advance size (token :: rest)
  if token == .plain ']' then
    return (reader.append .other start .one, left)
  let (last, left) ← setCode lexicon size token left
  if isRange code last then
    return ({ reader with mode := .set start true }, left)
  else
    stopAt (.badRange first.text token.text)
      (positionOf size left - (first.text.length + 1 + token.text.length))

def readComment (reader : Reader) (size : Nat) (terminator : Char) (token : Token) (rest : List Token) :
    Except Stop (Reader × List Token) := do
  let left ← advance size (token :: rest)
  return (if token == .plain terminator then { reader with mode := .items } else reader, left)

def step (reader : Reader) (lexicon : Lexicon) (size : Nat) (token : Token) (rest : List Token) :
    Except Stop (Reader × List Token) :=
  match reader.mode with
  | .items => reader.readItem lexicon size token rest
  | .set start hasMember => reader.readMember lexicon size start hasMember token rest
  | .range start first code => reader.readRangeEnd lexicon size start first code token rest
  | .comment _ => reader.readComment size ')' token rest
  | .lineComment => reader.readComment size '\n' token rest

/-- The fault that is met first when the pattern is gone through once more from its start. -/
def lateFault? (reader : Reader) : Option Fault :=
  let first? := reader.late.foldl
    (fun (best : Option (Nat × Fault)) entry =>
      match best with
      | some (position, fault) => if entry.1 ≤ position then some entry else some (position, fault)
      | none => some entry) none
  first?.map Prod.snd

def finish (reader : Reader) : Except Stop Unit :=
  match reader.mode, reader.frames with
  | .set start _, _ | .range start _ _, _ => stopAt .unterminatedSet start
  | .comment start, _ => stopAt .unterminatedComment start
  | _, frame :: _ => stopAt .missingParenthesis frame.start
  | _, [] => do
      reader.checkFlags
      match reader.references.find? fun reference => reader.groups.length < reference.1 with
      | some (group, position) => stopAt (.invalidReference group) position
      | none =>
          match reader.lateFault? with
          | some fault => .error (.fault fault none)
          | none => .ok ()

/-- Goes through the tokens, passing over those that an earlier step has already read. -/
def read (reader : Reader) (lexicon : Lexicon) (size : Nat) : List Token → Except Stop Unit
  | [] => reader.finish
  | token :: rest =>
      match reader.pending with
      | pending + 1 => read { reader with pending := pending } lexicon size rest
      | 0 =>
          match reader.step lexicon size token rest with
          | .error stop => .error stop
          | .ok (next, left) => read { next with pending := rest.length - left.length } lexicon size rest

end Reader

/-! ### Patterns -/

def check (lexicon : Lexicon) (pattern : Text) : Except Stop Unit :=
  match tokens pattern with
  | [.dangling] => stopAt .danglingEscape 0
  | tokens => Reader.start.read lexicon pattern.length tokens

/-- Where a fault is; in a pattern of several lines also by its line and column. -/
def placeText (pattern : Text) (position : Nat) : String :=
  let before := pattern.take position
  let line := before.count '\n' + 1
  let column := (before.reverse.takeWhile (· != '\n')).length + 1
  s!" at position {position}" ++ if pattern.contains '\n' then s!" (line {line}, column {column})" else ""

inductive Failure where
  | malformed (diagnostic : Diagnostic)
  | repetitionTooLarge
  | numeralTooLong
  | incompatibleFlags
deriving DecidableEq, Repr

def Failure.ofStop (pattern : Text) : Stop → Failure
  | .fault fault position =>
      let place := (position.map (placeText pattern)).getD ""
      let shown := String.ofList pattern.quoted
      .malformed (.ofMessage s!"Invalid structural pattern {shown}: {fault.message}{place}")
  | .repetitionTooLarge => .repetitionTooLarge
  | .numeralTooLong => .numeralTooLong
  | .incompatibleFlags => .incompatibleFlags

def compile (lexicon : Lexicon) (pattern : Text) : Except Failure Unit :=
  (check lexicon pattern).mapError (.ofStop pattern)

/-! ### The patterns of legacy calls -/

def syntaxSigns : Text :=
  "()[]\x7b\x7d?*+-|^$\\.&~# \t\n\r\x0b\x0c".toList

def isSyntax (c : Char) : Bool :=
  syntaxSigns.contains c

def escape (text : Text) : Text :=
  text.flatMap fun c => if isSyntax c then ['\\', c] else [c]

def gapPattern : Text :=
  "(.*|\\s*)".toList

def callPattern : Text :=
  "^\\s*(\\[UIAlertView showWithTitle)".toList ++
    (Alert.labels.flatMap fun label => gapPattern ++ '(' :: label ++ [')']) ++ gapPattern

def closePattern (width : Int) : Text :=
  "^\\s\x7b".toList ++ (toString width).toList ++ '\x7d' :: escape Block.closeToken

end AlertMigration.StructuralPattern
