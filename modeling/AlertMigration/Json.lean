import AlertMigration.Text.Basic

/-!
JSON texts and the values they denote.

The text is scanned character by character, and `Scan.step` is one move of the scan. The reader takes the
tokens one by one and keeps the arrays and objects that are still open on a stack; it refuses a text in
which too many of them are open at once. A number without a fraction and an exponent is an integer of any
size. Any other number is meant to be of double precision; it is kept exactly here, and `Value.isFinite`
tells whether the nearest number of double precision is finite.
-/

namespace AlertMigration.Json

/-! ### Tokens -/

inductive Fault where
  | malformed
  | numeralTooLong
  | tooDeep
deriving DecidableEq, Repr

inductive Token where
  | mark (c : Char)
  | text (value : Text)
  | number (literal : Text)
  | word (spelling : Text)
deriving DecidableEq, Repr

/-- The place of a scan: between two tokens, or within one. What has been seen of a token is kept last
character first, and within quotes as code points. -/
inductive Mode where
  | between
  | quoted (codes : List Nat)
  | escape (codes : List Nat)
  | escapeCode (codes : List Nat) (value missing : Nat)
  | number (literal : Text)
  | word (spelling : Text)
deriving DecidableEq, Repr

structure Scan where
  mode : Mode
  found : List Token
deriving DecidableEq, Repr

/-- Adds an escaped code point. The two halves of a surrogate pair make one. -/
def addCode (codes : List Nat) (code : Nat) : List Nat :=
  match codes with
  | high :: before =>
      if 0xD800 ≤ high && high < 0xDC00 && 0xDC00 ≤ code && code < 0xE000 then
        (0x10000 + 0x400 * (high - 0xD800) + (code - 0xDC00)) :: before
      else
        code :: codes
  | [] => [code]

def textOfCodes (codes : List Nat) : Text :=
  codes.reverse.map Char.ofNat

def isBlank (c : Char) : Bool :=
  c == ' ' || c == '\t' || c == '\n' || c == '\r'

def isMark (c : Char) : Bool :=
  c == '[' || c == ']' || c == '\x7b' || c == '\x7d' || c == ',' || c == ':'

def isNumberPart (c : Char) : Bool :=
  c.isDigit || c == '-' || c == '+' || c == '.' || c == 'e' || c == 'E'

def escaped? : Char → Option Nat
  | '"' => some 0x22
  | '\\' => some 0x5C
  | '/' => some 0x2F
  | 'b' => some 0x08
  | 'f' => some 0x0C
  | 'n' => some 0x0A
  | 'r' => some 0x0D
  | 't' => some 0x09
  | _ => none

namespace Scan

def start : Scan :=
  ⟨.between, []⟩

def enter (found : List Token) (c : Char) : Except Fault Scan :=
  if isBlank c then .ok ⟨.between, found⟩
  else if isMark c then .ok ⟨.between, .mark c :: found⟩
  else if c == '"' then .ok ⟨.quoted [], found⟩
  else if c.isDigit || c == '-' then .ok ⟨.number [c], found⟩
  else if c.isAlpha then .ok ⟨.word [c], found⟩
  else .error .malformed

def step (scan : Scan) (c : Char) : Except Fault Scan :=
  match scan.mode with
  | .between => enter scan.found c
  | .quoted codes =>
      if c == '"' then .ok ⟨.between, .text (textOfCodes codes) :: scan.found⟩
      else if c == '\\' then .ok { scan with mode := .escape codes }
      else if c.toNat < 0x20 then .error .malformed
      else .ok { scan with mode := .quoted (c.toNat :: codes) }
  | .escape codes =>
      if c == 'u' then .ok { scan with mode := .escapeCode codes 0 4 }
      else
        match escaped? c with
        | some code => .ok { scan with mode := .quoted (code :: codes) }
        | none => .error .malformed
  | .escapeCode codes value missing =>
      match Text.hexValue? c with
      | none => .error .malformed
      | some digit =>
          let value := 16 * value + digit
          if missing ≤ 1 then .ok { scan with mode := .quoted (addCode codes value) }
          else .ok { scan with mode := .escapeCode codes value (missing - 1) }
  | .number literal =>
      if isNumberPart c then .ok { scan with mode := .number (c :: literal) }
      else enter (.number literal.reverse :: scan.found) c
  | .word spelling =>
      if c.isAlpha then .ok { scan with mode := .word (c :: spelling) }
      else enter (.word spelling.reverse :: scan.found) c

def finish (scan : Scan) : Except Fault (List Token) :=
  match scan.mode with
  | .between => .ok scan.found.reverse
  | .number literal => .ok (Token.number literal.reverse :: scan.found).reverse
  | .word spelling => .ok (Token.word spelling.reverse :: scan.found).reverse
  | .quoted _ | .escape _ | .escapeCode _ _ _ => .error .malformed

end Scan

def tokens (text : Text) : Except Fault (List Token) :=
  (text.foldlM Scan.step Scan.start).bind Scan.finish

/-! ### Values -/

inductive Value where
  | null
  | boolean (value : Bool)
  | integer (value : Int)
  /-- The mantissa times ten to the power of the exponent. -/
  | decimal (mantissa exponent : Int)
  | text (value : Text)
  | array (items : List Value)
  /-- Of several fields with one name the last one counts. -/
  | object (fields : List (Text × Value))
deriving Repr

def field? (fields : List (Text × Value)) (name : Text) : Option Value :=
  fields.reverse.lookup name

/-! ### Numbers -/

/-- The least number whose nearest number of double precision is infinite. -/
def infinityBound : Nat :=
  (Nat.pow 2 54 - 1) * Nat.pow 2 970

/-- Whether `mantissa` times ten to the power of `exponent` reaches the bound. The first test of each
case decides where the powers are too large to be worked out. -/
def isInfinite (mantissa : Nat) : Int → Bool
  | .ofNat power =>
      mantissa != 0 && (decide (400 < power) || decide (infinityBound ≤ mantissa * Nat.pow 10 power))
  | .negSucc power =>
      decide (3 * power < mantissa.log2) && decide (infinityBound * Nat.pow 10 (power + 1) ≤ mantissa)

def natural (digits : Text) : Nat :=
  digits.foldl (fun value c => 10 * value + (c.toNat - '0'.toNat)) 0

structure Literal where
  isNegative : Bool
  whole : Text
  fraction : Option Text
  exponent : Option Int
deriving DecidableEq, Repr

namespace Literal

def exponentOf? (text : Text) : Option Int :=
  let digits := if text.head? == some '-' || text.head? == some '+' then text.tail else text
  if digits.isEmpty || !digits.all Char.isDigit then none
  else if text.head? == some '-' then some (-(natural digits : Int))
  else some (natural digits)

def ofText? (text : Text) : Option Literal :=
  let isNegative := text.head? == some '-'
  let unsigned := if isNegative then text.tail else text
  let whole := unsigned.takeWhile Char.isDigit
  let afterWhole := unsigned.dropWhile Char.isDigit
  let hasPoint := afterWhole.head? == some '.'
  let fraction := if hasPoint then afterWhole.tail.takeWhile Char.isDigit else []
  let afterFraction := if hasPoint then afterWhole.tail.dropWhile Char.isDigit else afterWhole
  if whole.isEmpty || (whole.head? == some '0' && 1 < whole.length) || (hasPoint && fraction.isEmpty) then
    none
  else
    let fraction? := if hasPoint then some fraction else none
    match afterFraction with
    | [] => some ⟨isNegative, whole, fraction?, none⟩
    | letter :: rest =>
        if letter == 'e' || letter == 'E' then
          (exponentOf? rest).map fun exponent => ⟨isNegative, whole, fraction?, some exponent⟩
        else
          none

def value (literal : Literal) : Except Fault Value :=
  let signed (magnitude : Nat) : Int := if literal.isNegative then -(magnitude : Int) else magnitude
  match literal.fraction, literal.exponent with
  | none, none =>
      if Text.numeralLimit < literal.whole.length then .error .numeralTooLong
      else .ok (.integer (signed (natural literal.whole)))
  | fraction, exponent =>
      let digits := fraction.getD []
      .ok (.decimal (signed (natural (literal.whole ++ digits))) (exponent.getD 0 - digits.length))

end Literal

mutual

def Value.isFinite : Value → Bool
  | .decimal mantissa exponent => !isInfinite mantissa.natAbs exponent
  | .array items => allFinite items
  | .object fields => fieldsFinite fields
  | .null | .boolean _ | .integer _ | .text _ => true

def allFinite : List Value → Bool
  | [] => true
  | item :: rest => item.isFinite && allFinite rest

/-- Whether the fields that count are finite. -/
def fieldsFinite : List (Text × Value) → Bool
  | [] => true
  | (name, value) :: rest => (value.isFinite || rest.any (·.1 == name)) && fieldsFinite rest

end

/-! ### Reading -/

/-- An array or an object that is still open, with what it holds so far, last part first. -/
inductive Frame where
  | array (items : List Value)
  | object (fields : List (Text × Value)) (name : Text)
deriving Repr

inductive Expectation where
  | value
  | itemOrEnd
  | nameOrEnd
  | name
  | colon
  | commaOrEnd
  | nothing
deriving DecidableEq, Repr

def depthLimit : Nat :=
  965

structure Reader where
  frames : List Frame
  expected : Expectation
  result : Option Value
deriving Repr

namespace Reader

def start : Reader :=
  ⟨[], .value, none⟩

def deliver (frames : List Frame) (value : Value) : Reader :=
  match frames with
  | [] => ⟨[], .nothing, some value⟩
  | .array items :: outer => ⟨.array (value :: items) :: outer, .commaOrEnd, none⟩
  | .object fields name :: outer => ⟨.object ((name, value) :: fields) name :: outer, .commaOrEnd, none⟩

def push (frames : List Frame) (frame : Frame) (expected : Expectation) : Except Fault Reader :=
  if depthLimit ≤ frames.length then .error .tooDeep else .ok ⟨frame :: frames, expected, none⟩

def close (frames : List Frame) (c : Char) : Except Fault Reader :=
  match frames with
  | .array items :: outer =>
      if c == ']' then .ok (deliver outer (.array items.reverse)) else .error .malformed
  | .object fields _ :: outer =>
      if c == '\x7d' then .ok (deliver outer (.object fields.reverse)) else .error .malformed
  | [] => .error .malformed

def wordValue? (spelling : Text) : Option Value :=
  if spelling == "null".toList then some .null
  else if spelling == "true".toList then some (.boolean true)
  else if spelling == "false".toList then some (.boolean false)
  else none

def takeValue (frames : List Frame) : Token → Except Fault Reader
  | .mark c =>
      if c == '[' then push frames (.array []) .itemOrEnd
      else if c == '\x7b' then push frames (.object [] []) .nameOrEnd
      else .error .malformed
  | .text value => .ok (deliver frames (.text value))
  | .number literal =>
      match Literal.ofText? literal with
      | some literal => literal.value.map (deliver frames)
      | none => .error .malformed
  | .word spelling =>
      match wordValue? spelling with
      | some value => .ok (deliver frames value)
      | none => .error .malformed

def takeName (frames : List Frame) (token : Token) : Except Fault Reader :=
  match frames, token with
  | .object fields _ :: outer, .text name => .ok ⟨.object fields name :: outer, .colon, none⟩
  | _, _ => .error .malformed

def takeComma (frames : List Frame) : Except Fault Reader :=
  match frames with
  | .array _ :: _ => .ok ⟨frames, .value, none⟩
  | .object _ _ :: _ => .ok ⟨frames, .name, none⟩
  | [] => .error .malformed

def step (reader : Reader) (token : Token) : Except Fault Reader :=
  match reader.expected with
  | .value => takeValue reader.frames token
  | .itemOrEnd =>
      if token = .mark ']' then close reader.frames ']' else takeValue reader.frames token
  | .nameOrEnd =>
      if token = .mark '\x7d' then close reader.frames '\x7d' else takeName reader.frames token
  | .name => takeName reader.frames token
  | .colon => if token = .mark ':' then .ok ⟨reader.frames, .value, none⟩ else .error .malformed
  | .commaOrEnd =>
      match token with
      | .mark c => if c == ',' then takeComma reader.frames else close reader.frames c
      | _ => .error .malformed
  | .nothing => .error .malformed

end Reader

def read (text : Text) : Except Fault Value := do
  let reader ← (← tokens text).foldlM Reader.step .start
  match reader.result with
  | some value => return value
  | none => .error .malformed

end AlertMigration.Json
