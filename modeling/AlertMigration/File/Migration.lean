import AlertMigration.File.Walk
import AlertMigration.Edit

/-!
Migrating files.

A file is read, migrated and, if asked to and if anything changed, written back: first a backup, then
the new content into a temporary file, which is renamed over the target. A failure while writing removes
the temporary file again.
-/

namespace AlertMigration.File

structure Job where
  policy : Policy
  write : Bool
  backup : Bool
  /-- Whether the disk refuses the final rename. -/
  renameRefused : Bool
deriving DecidableEq, Repr

inductive Failure where
  | file (error : Error)
  | pattern (error : PatternError)
  | edit (path : Path) (error : Edit.Error)
deriving DecidableEq, Repr

def Failure.ofWalk : WalkError → Failure
  | .file error => .file error
  | .pattern error => .pattern error

def Failure.message : Failure → String
  | .file error => error.message
  | .pattern error => error.message
  | .edit path error =>
      match error.diagnostic? with
      | some diagnostic => s!"{path.render}: {diagnostic.text}"
      | none => s!"{path.render}: a call is indented too far"

/-- The end of an operation on the disk: what it returned, the tree it left, and what it logged. -/
structure Step (α : Type) where
  result : Except Failure α
  tree : Tree
  log : List LogRecord

structure Outcome where
  path : Path
  outcome : Source.Outcome
deriving DecidableEq, Repr

def decode? (content : ByteArray) : Option Text :=
  (String.fromUTF8? content).map String.toList

def encode (text : Text) : ByteArray :=
  (String.ofList text).toUTF8

private def fileRecord (message : String) : LogRecord :=
  ⟨.info, .files, message⟩

/-- The end of a write that failed: the temporary file is removed, and an error in doing so is the one
that counts. -/
def abandon (tree : Tree) (path : Path) (error : Error) : Error × Tree :=
  match tree.discard path.temporary with
  | .ok tree => (error, tree)
  | .error later => (later, tree)

def swap (job : Job) (tree : Tree) (path : Path) (content : ByteArray) : Except Error Unit × Tree :=
  match tree.write path.temporary content with
  | .error error =>
      let (error, tree) := abandon tree path error
      (.error error, tree)
  | .ok written =>
      match if job.renameRefused then .error .renameRefused else written.rename path.temporary path with
      | .error error =>
          let (error, tree) := abandon written path error
          (.error error, tree)
      | .ok renamed => (.ok (), renamed)

def saveBackup (job : Job) (tree : Tree) (path : Path) (content : ByteArray) :
    Except Error (Tree × List LogRecord) :=
  if job.backup then
    (tree.write path.backup content).map fun written =>
      (written, [fileRecord s!"Wrote backup {path.backup.render}"])
  else
    .ok (tree, [])

def store (job : Job) (tree : Tree) (path : Path) (former migrated : Text) (converted : Nat) : Step Unit :=
  match saveBackup job tree path (encode former) with
  | .error error => ⟨.error (.file error), tree, []⟩
  | .ok (saved, log) =>
      match swap job saved path (encode migrated) with
      | (.error error, tree) => ⟨.error (.file error), tree, log⟩
      | (.ok (), tree) =>
          ⟨.ok (), tree, log ++ [fileRecord s!"Migrated {converted} alert(s) in {path.render}"]⟩

def migrate (job : Job) (tree : Tree) (path : Path) : Step Outcome :=
  match tree.read path with
  | .error error => ⟨.error (.file error), tree, []⟩
  | .ok content =>
      match decode? content with
      | none => ⟨.error (.file .notText), tree, []⟩
      | some source =>
          let migration := Source.migrate job.policy source
          match migration.result with
          | .error error => ⟨.error (.edit path error), tree, migration.log⟩
          | .ok (migrated, outcome) =>
              if job.write && outcome.changed then
                let stored := store job tree path source migrated outcome.converted
                ⟨stored.result.map fun _ => ⟨path, outcome⟩, stored.tree, migration.log ++ stored.log⟩
              else
                ⟨.ok ⟨path, outcome⟩, tree, migration.log⟩

def migrateAll (job : Job) (tree : Tree) : List Path → Step (List Outcome)
  | [] => ⟨.ok [], tree, []⟩
  | path :: rest =>
      let first := migrate job tree path
      match first.result with
      | .error failure => ⟨.error failure, first.tree, first.log⟩
      | .ok outcome =>
          let others := migrateAll job first.tree rest
          ⟨others.result.map (outcome :: ·), others.tree, first.log ++ others.log⟩

/-- Migrates what is found below a directory. The files of an extension are looked for only after
those of the extensions before it have been migrated. -/
def migrateBelow (strictness : Strictness) (job : Job) (tree : Tree) (root : Path) :
    List Text → Step (List Outcome)
  | [] => ⟨.ok [], tree, []⟩
  | extension :: rest =>
      match tree.withExtension strictness root extension with
      | .error error => ⟨.error (.ofWalk error), tree, []⟩
      | .ok paths =>
          let first := migrateAll job tree paths
          match first.result with
          | .error failure => ⟨.error failure, first.tree, first.log⟩
          | .ok outcomes =>
              let others := migrateBelow strictness job first.tree root rest
              ⟨others.result.map (outcomes ++ ·), others.tree, first.log ++ others.log⟩

def migratePath (strictness : Strictness) (job : Job) (tree : Tree) (root : Path) (extensions : List Text) :
    Step (List Outcome) :=
  match tree.isFile strictness root with
  | .error error => ⟨.error (.file error), tree, []⟩
  | .ok true => migrateAll job tree (if extensions.contains root.suffix then [root] else [])
  | .ok false => migrateBelow strictness job tree root extensions

end AlertMigration.File
