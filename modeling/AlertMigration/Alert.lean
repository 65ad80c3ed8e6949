import AlertMigration.Text.Basic

/-!
Legacy alert calls and the modern calls that take their place.

A line calls the legacy alert when it starts, after blanks, with the opening of the call and then
shows the four argument labels in order. Between two labels stands a gap: either a stretch of one
physical line, or nothing but blanks. Each argument is the verbatim text between two neighbouring markers
of the call; a missing or misplaced marker leaves it empty.

Main statement: `isCall_replacement_append`, a replacement is never a legacy call again, whatever its
arguments, its body and the text appended to it.
-/

namespace AlertMigration.Alert

/-! ### Recognising a call -/

def opening : Text :=
  "[UIAlertView showWithTitle".toList

def labels : List Text :=
  ["message:".toList, "cancelButtonTitle:".toList, "otherButtonTitles:".toList, "tapBlock:".toList]

/-- Looks for `label` after a run of admitted characters, and hands what follows the label to `next`.
Every place at which the label could stand is tried. -/
def seek (admits : Char → Bool) (label : Text) (next : Text → Bool) : Text → Bool
  | [] => (label.isPrefixOf? []).any next
  | c :: rest =>
      (label.isPrefixOf? (c :: rest)).any next || (admits c && seek admits label next rest)

/-- Whether the labels appear in order, each after a gap without a line feed or a gap of blanks. -/
def followsLabels : List Text → Text → Bool
  | [], _ => true
  | label :: rest, text =>
      seek (· != '\n') label (followsLabels rest) text || seek isBlank label (followsLabels rest) text

def isCall (line : Text) : Bool :=
  (opening.isPrefixOf? line.trimStart).any (followsLabels labels)

/-- Whether a line passes a tap block: any opening brace counts. -/
def opensBlock (line : Text) : Bool :=
  line.contains '{'

inductive Kind where
  | other
  | inline
  | block
deriving DecidableEq, Repr

def classify (line : Text) : Kind :=
  if isCall line then (if opensBlock line then .block else .inline) else .other

/-- The text before the first bracket, which for a legacy call is its indentation. It is empty when
the line has no bracket. -/
def indentation (line : Text) : Text :=
  if line.contains '[' then line.takeWhile (· != '[') else []

theorem bracket_notMem_indentation (line : Text) : '[' ∉ indentation line := by
  unfold indentation
  split
  · intro member
    have allOther : (line.takeWhile (· != '[')).all (· != '[') = true := List.all_takeWhile
    simpa using List.all_eq_true.mp allOther '[' member
  · simp

/-! ### Its arguments -/

structure Fields where
  title : Text
  message : Text
  cancelLabel : Text
  otherLabels : Text
deriving DecidableEq, Repr

namespace Fields

def titleMarker : Text := "showWithTitle:".toList
def messageMarker : Text := " message:".toList
def cancelMarker : Text := " cancelButtonTitle:".toList
def otherMarker : Text := " otherButtonTitles:".toList
def tapBlockMarker : Text := " tapBlock:".toList

def ofLine (line : Text) : Fields where
  title := Text.between titleMarker messageMarker line
  message := Text.between messageMarker cancelMarker line
  cancelLabel := Text.between cancelMarker otherMarker line
  otherLabels := Text.between otherMarker tapBlockMarker line

end Fields

/-! ### Its replacement -/

def controllerCall : Text :=
  "[UIAlertController showAlertInViewController:self".toList

def blockSignature : Text :=
  "^(UIAlertController * _Nonnull alertView, UIAlertAction * _Nonnull action, NSInteger buttonIndex)".toList

def controllerHead (indent : Text) (fields : Fields) : Text :=
  indent ++ controllerCall ++ " withTitle:".toList ++ fields.title ++ " message:".toList
    ++ fields.message ++ " cancelButtonTitle:".toList ++ fields.cancelLabel
    ++ " destructiveButtonTitle:nil otherButtonTitles:".toList ++ fields.otherLabels
    ++ " tapBlock:".toList

/-- What stands in for the tap block: `nil` without a body, otherwise the signature and the body, with
the closing token on a line of its own at the call's indentation. -/
def tapBlock (indent newline : Text) : Option Text → Text
  | none => "nil];".toList
  | some body => blockSignature ++ " \x7b".toList ++ newline ++ body ++ indent ++ "\x7d];".toList

def replacement (indent : Text) (fields : Fields) (body : Option Text) (newline : Text) : Text :=
  controllerHead indent fields ++ tapBlock indent newline body

private theorem opening_split : opening = ['[', 'U', 'I', 'A', 'l', 'e', 'r', 't', 'V'] ++ opening.drop 9 := by
  decide +kernel

private theorem controllerCall_split :
    controllerCall = ['[', 'U', 'I', 'A', 'l', 'e', 'r', 't', 'C'] ++ controllerCall.drop 9 := by
  decide +kernel

theorem isCall_controllerCall (indent rest : Text) (noBracket : '[' ∉ indent) :
    isCall (indent ++ (controllerCall ++ rest)) = false := by
  have noOpening : opening.isPrefixOf? (indent ++ (controllerCall ++ rest)).trimStart = none := by
    unfold Text.trimStart
    rw [opening_split]
    induction indent with
    | nil => rw [controllerCall_split]; rfl
    | cons c indent ih =>
        have different : c ≠ '[' := fun same => noBracket (by rw [same]; exact List.mem_cons_self)
        have later : '[' ∉ indent := fun member => noBracket (List.mem_cons_of_mem _ member)
        have unequal : ('[' == c) = false := beq_false_of_ne different.symm
        rw [show c :: indent ++ (controllerCall ++ rest) = c :: (indent ++ (controllerCall ++ rest)) from rfl,
          List.dropWhile_cons]
        split
        · exact ih later
        · exact if_neg (ne_true_of_eq_false unequal)
  rw [isCall, noOpening]
  rfl

/-- A replacement is inert: it is no legacy call, whatever follows it. -/
theorem isCall_replacement_append (line : Text) (fields : Fields) (body : Option Text)
    (newline tail : Text) :
    isCall (replacement (indentation line) fields body newline ++ tail) = false := by
  unfold replacement controllerHead
  simp only [List.append_assoc]
  exact isCall_controllerCall _ _ (bracket_notMem_indentation line)

end AlertMigration.Alert
