import AlertMigration.File.Tree

/-!
Finding the source files below a directory.

For an extension the walk yields, at any depth, whatever has a name that ends in it: files and
directories, hidden ones too. An extension may hold wildcards and slashes; it is then a pattern for the
last names of a path. In a pattern, `*` stands for any characters, `?` for one, and brackets for one of a
set. A bracket that is never closed stands for itself. In a set, `!` at the start negates, two characters
with a hyphen between them are a range, and a range whose ends are in the wrong order is empty.
-/

namespace AlertMigration.File.NamePattern

inductive Atom where
  | anyText
  | anyCharacter
  | literal (c : Char)
  | oneOf (negated : Bool) (members : List CodeRange)
deriving DecidableEq, Repr

/-- How many characters at the start of a set cannot close it: a negation, and a bracket directly at the
start or after the negation. -/
def setLead : Text → Nat
  | '!' :: ']' :: _ => 2
  | '!' :: _ => 1
  | ']' :: _ => 1
  | _ => 0

def splitSet? (text : Text) : Option (Text × Text) :=
  let members := text.drop (setLead text)
  match members.dropWhile (· != ']') with
  | _ :: after => some (text.take (setLead text) ++ members.takeWhile (· != ']'), after)
  | [] => none

theorem length_splitSet? {text description after : Text}
    (split : splitSet? text = some (description, after)) : after.length ≤ text.length := by
  have shorter : ((text.drop (setLead text)).dropWhile (· != ']')).length ≤ text.length :=
    ((List.dropWhile_sublist _).trans (List.drop_sublist _ _)).length_le
  unfold splitSet? at split
  simp only at split
  split at split
  · rename_i bracket rest dropped
    cases split
    rw [dropped, List.length_cons] at shorter
    omega
  · cases split

def setMembers : Text → List CodeRange
  | first :: '-' :: last :: rest => ⟨first.toNat, last.toNat⟩ :: setMembers rest
  | c :: rest => .single c :: setMembers rest
  | [] => []

/-- A set without the empty ranges at its start. -/
def dropEmptyRanges : Text → Text
  | first :: '-' :: last :: rest =>
      if last < first then dropEmptyRanges rest else first :: '-' :: last :: rest
  | text => text

/-- The set described between brackets. The negation sign also counts after empty ranges. If it is there
the start of a range, the range is broken up into its hyphen and its end. -/
def setOf (description : Text) : Atom :=
  match description with
  | '!' :: members => .oneOf true (setMembers members)
  | members =>
      match dropEmptyRanges members with
      | '!' :: '-' :: last :: members =>
          .oneOf true (.single '-' :: .single last :: setMembers members)
      | '!' :: members => .oneOf true (setMembers members)
      | members => .oneOf false (setMembers members)

def ofText : Text → List Atom
  | [] => []
  | c :: rest =>
      if c == '*' then .anyText :: ofText rest
      else if c == '?' then .anyCharacter :: ofText rest
      else if c == '[' then
        match split : splitSet? rest with
        | some (description, after) =>
            have := length_splitSet? split
            setOf description :: ofText after
        | none => .literal c :: ofText rest
      else .literal c :: ofText rest
termination_by text => text.length

def Atom.admits : Atom → Char → Bool
  | .anyText, _ => true
  | .anyCharacter, _ => true
  | .literal expected, c => expected == c
  | .oneOf negated members, c => CodeRange.anyContains members c != negated

def accepts : List Atom → Text → Bool
  | [], name => name.isEmpty
  | .anyText :: atoms, [] => accepts atoms []
  | .anyText :: atoms, c :: rest => accepts atoms (c :: rest) || accepts (.anyText :: atoms) rest
  | _ :: _, [] => false
  | atom :: atoms, c :: rest => atom.admits c && accepts atoms rest
termination_by atoms name => atoms.length + name.length

def isPattern (text : Text) : Bool :=
  text.contains '*' || text.contains '?' || text.contains '['

end AlertMigration.File.NamePattern

namespace AlertMigration.File

inductive Segment where
  /-- Into any directory below, or none. -/
  | anyDepth
  | pattern (atoms : List NamePattern.Atom)
  | name (name : Text)
deriving DecidableEq, Repr

inductive PatternError where
  | partialDoubleStar
deriving DecidableEq, Repr

def PatternError.message : PatternError → String
  | .partialDoubleStar => "Invalid pattern: '**' can only be an entire path component"

namespace Segment

def hasDoubleStar : Text → Bool
  | '*' :: '*' :: _ => true
  | _ :: rest => hasDoubleStar rest
  | [] => false

def ofName (name : Text) : Except PatternError Segment :=
  if name == ['*', '*'] then .ok .anyDepth
  else if hasDoubleStar name then .error .partialDoubleStar
  else if NamePattern.isPattern name then .ok (.pattern (NamePattern.ofText name))
  else .ok (.name name)

end Segment

/-- The segments that follow the free descent, and whether they have to end at a directory. -/
structure WalkPattern where
  segments : List Segment
  directoriesOnly : Bool
deriving DecidableEq, Repr

def WalkPattern.ofExtension (extension : Text) : Except PatternError WalkPattern := do
  let segments ← (Path.namesOf ('*' :: extension)).mapM Segment.ofName
  return ⟨segments, extension.getLast? == some '/'⟩

inductive WalkError where
  | file (error : Error)
  | pattern (error : PatternError)
deriving DecidableEq, Repr

namespace Tree

/-- The paths that lead on by the segments from the directory `here`, to which `path` leads. Every segment
but the last has to lead to a directory. A directory is opened to look through it, and a name to go on with
is looked up. -/
def select (tree : Tree) (strictness : Strictness) (directoriesOnly : Bool) (path : Path) (here : Location) :
    List Segment → Except Error (List Path)
  | [] => .ok [path]
  | segment :: rest =>
      let enter (name : Text) (there : Location) : Except Error (List Path) :=
        match tree.lookup there with
        | none => .ok []
        | some .directory => select tree strictness directoriesOnly (path.descend [name]) there rest
        | some (.file _) => .ok (if rest.isEmpty && !directoriesOnly then [path.descend [name]] else [])
      match segment with
      | .anyDepth => do
          let found ← (tree.directoriesBelow here).mapM fun below => tolerate strictness.walking [] do
            checkLength (path.descend below)
            select tree strictness directoriesOnly (path.descend below) (here ++ below) rest
          return found.flatten
      | .pattern atoms => tolerate strictness.walking [] do
          checkLength path
          let names := (tree.children here).filter (NamePattern.accepts atoms)
          let found ← names.mapM fun name => enter name (here ++ [name])
          return found.flatten
      | .name name =>
          if name.contains '\x00' then
            .ok []
          else tolerate strictness.walking [] do
            checkLength (path.descend [name])
            enter name (← follow here name)

def withExtension (tree : Tree) (strictness : Strictness) (root : Path) (extension : Text) :
    Except WalkError (List Path) := do
  let pattern ← (WalkPattern.ofExtension extension).mapError .pattern
  match tree.resolve root with
  | .error .nameTooLong => (tolerate strictness.testing [] (.error .nameTooLong)).mapError .file
  | .error _ => return []
  | .ok here =>
      if tree.lookup here != some .directory then
        return []
      let segments := .anyDepth :: pattern.segments
      let found ← (tree.select strictness pattern.directoriesOnly root here segments).mapError .file
      return found.eraseDups.mergeSort Path.precedes

def isFile (tree : Tree) (strictness : Strictness) (path : Path) : Except Error Bool := do
  match ← tree.entry? strictness path with
  | some (.file _) => return true
  | _ => return false

/-- The files that a path stands for. A path to a file stands for that file if its suffix is one of the
extensions; a path to a directory for what is found below it, extension by extension. -/
def sources (tree : Tree) (strictness : Strictness) (root : Path) (extensions : List Text) :
    Except WalkError (List Path) :=
  match tree.isFile strictness root with
  | .error error => .error (.file error)
  | .ok true => .ok (if extensions.contains root.suffix then [root] else [])
  | .ok false => (extensions.mapM (tree.withExtension strictness root)).map List.flatten

end Tree

end AlertMigration.File
