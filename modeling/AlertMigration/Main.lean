import AlertMigration.Command.Run

/-!
The command-line program.

It reads the working directory and what the arguments name besides, runs the command on that tree, prints
what the command printed, and writes the changed files back.
-/

namespace AlertMigration.Main

open File (Location Entry Tree)

/-- The entries of a directory and of all directories below it. Links to directories are not followed. -/
partial def readEntries (above : Location) (listing : List IO.FS.DirEntry) :
    IO (List (Location × Entry)) := do
  let found ← listing.mapM fun item => do
    let location := above ++ [item.fileName.toList]
    match (← item.path.symlinkMetadata).type with
    | .dir => return (location, .directory) :: (← readEntries location (← item.path.readDir).toList)
    | _ =>
        if ← item.path.isDir then
          return []
        return [(location, .file (← IO.FS.readBinFile item.path))]
  return found.flatten

def addEntries (tree : Tree) (entries : List (Location × Entry)) : Tree :=
  entries.foldl
    (fun tree (location, entry) =>
      match entry with
      | .directory => tree.makeDirectory location
      | .file content => tree.putFile location content) tree

def locationOf (home : Location) (argument : Text) : Location :=
  let path := File.Path.ofText argument
  path.parts.foldl (fun here name => if name == Location.parentName then here.dropLast else here ++ [name])
    (if path.anchor.isEmpty then home else [])

def readAt (tree : Tree) (location : Location) : IO Tree := do
  let top ← IO.FS.realPath (String.ofList ('/' :: ['/'].intercalate location))
  if ← top.isDir then
    return addEntries (tree.makeDirectory location) (← readEntries location (← top.readDir).toList)
  if !(← top.pathExists) then
    return tree
  let above ← IO.FS.realPath (String.ofList ('/' :: ['/'].intercalate location.dropLast))
  let files ← (← above.readDir).toList.filterM fun item => return !(← item.path.isDir)
  return addEntries tree (← readEntries location.dropLast files)

def readTree (arguments : List Text) : IO Tree := do
  let home := (File.Path.ofText (← IO.FS.realPath ".").toString.toList).parts
  let mut tree ← readAt ((Tree.root.makeDirectory home).workingIn home) home
  for argument in arguments do
    let location := locationOf home argument
    if !home.isPrefixOf location then
      tree ← readAt tree location
  return tree

def readEnvironment : IO Environment := do
  let found ← Environment.names.mapM fun name => return (name, ← IO.getEnv name)
  return .ofLookup fun name => ((found.lookup name).bind id).map String.toList

/-- Brings the disk from one tree to another. A file is replaced as a whole, unless the name that this
takes is in use. -/
def writeChanges (before after : Tree) : IO Unit := do
  let occupied := (after.changedSince .root).map Prod.fst
  for path in after.removedSince before do
    IO.FS.removeFile path
  for (path, entry) in after.changedSince before do
    let spare := path ++ ".tmp"
    match entry with
    | .directory => IO.FS.createDirAll path
    | .file content =>
        if occupied.contains spare then
          IO.FS.writeBinFile path content
        else
          IO.FS.writeBinFile spare content
          IO.FS.rename spare path

/-- Listening on the network is left to another program. -/
def host : Command.Host :=
  ⟨"Lean 4", .late, .all, fun _ tree => ⟨.ok (), tree, []⟩⟩

end AlertMigration.Main

open AlertMigration in
def main (arguments : List String) : IO UInt32 := do
  let texts := arguments.map String.toList
  let tree ← Main.readTree texts
  let done := Command.run Main.host (← Main.readEnvironment) texts tree
  Main.writeChanges tree done.tree
  IO.print done.console.out
  IO.eprint done.console.err
  for serving in done.served do
    let host := String.ofList (serving.host.getD [])
    let tcpPort := serving.tcpPort.getD 0
    IO.eprintln s!"{serving.title}: no listener for {host}:{tcpPort}"
  match done.exit with
  | .ok status => return status.toUInt32
  | .error failure =>
      IO.eprintln failure.message
      return 1
