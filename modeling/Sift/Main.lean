import Sift.Command
import Std.Time.DateTime.Timestamp

/-! # The program

Reads what a call may look at, lets `Command.run` answer, and prints the answer. -/

namespace Sift.Main

/-- The names that lead to a path, from those that lead to the working directory. -/
def namesOf (workingDirectory : List String) (path : Path) : List String :=
  let start := if path.components.head? = some .root then [] else workingDirectory
  path.components.foldl (fun names component =>
    match component with
    | .root | .here => names
    | .parent => names.dropLast
    | .name text => names ++ [text]) start

/-- The content of a file, if it can be read. -/
def content? (path : String) : IO (Option ByteArray) := do
  try return some (← IO.FS.readBinFile path) catch _ => return none

/-- The names of the ignore files. -/
def ignoreNames : List String :=
  [IgnoreLayer.ownName, IgnoreLayer.generalName, IgnoreLayer.repositoryName]

/-- Reads a directory.  Of files that are neither notes nor ignore files only the name counts. -/
partial def readDirectory (path : Path) : IO Tree := do
  let found ← try (← IO.FS.realPath path.text).readDir catch _ => pure #[]
  let entries ← found.toList.filterMapM fun entry => do
    let place := path.join entry.fileName
    try
      let kind := (← entry.path.symlinkMetadata).type
      if kind == .dir then return some (entry.fileName, ← readDirectory place)
      -- a link to a directory is not followed
      else if (← entry.path.isDir) then return none
      else if place.extension? == some Vault.extension || ignoreNames.contains entry.fileName then
        return (← content? place.text).map fun content => (entry.fileName, Tree.file content)
      else return some (entry.fileName, Tree.file .empty)
    catch _ => return none
  return .directory entries

/-- Adds a file to those that are known. -/
def withFile (files : FileSystem) (path : Path) : IO FileSystem := do
  match ← content? path.text with
  | none => return files
  | some content =>
    let names := namesOf files.workingDirectory path
    return { files with root := files.root.put names (.file content) }

/-- Adds what decides about ignoring in the directories above some names. -/
def withAncestors (files : FileSystem) (names : List String) : IO FileSystem := do
  let mut root := files.root
  for depth in List.range names.length do
    let above := names.take depth
    let place (name : String) : String := "/" ++ "/".intercalate (above ++ [name])
    for name in ignoreNames do
      if let some content ← content? (place name) then
        root := root.put (above ++ [name]) (.file content)
    for mark in IgnoreLayer.repositoryMarks do
      try
        discard <| IO.FS.realPath (place mark)
        root := root.put (above ++ [mark]) .empty
      catch _ => pure ()
  return { files with root := root }

/-- Adds a vault: a file, or a directory with all in it. -/
def withVault (files : FileSystem) (path : Path) : IO FileSystem := do
  let names := namesOf files.workingDirectory path
  if ← (← IO.FS.realPath path.text).isDir then
    let files ← withAncestors files names
    let tree ← readDirectory path
    return { files with root := files.root.put names tree }
  else withFile files path

/-- Reads all input. -/
partial def readInput (stream : IO.FS.Stream) (read : ByteArray) : IO ByteArray := do
  let chunk ← stream.read 65536
  if chunk.isEmpty then return read else readInput stream (read ++ chunk)

/-- The present time. -/
def now : IO Instant := do
  let nanos := (← Std.Time.Timestamp.now).toNanosecondsSinceUnixEpoch.val
  match Instant.ofParts? (nanos / nanosPerSecond) (nanos % nanosPerSecond).toNat with
  | some instant => return instant
  | none => throw (IO.userError "the clock is out of range")

/-- Reads what a well-formed call may look at. -/
def gather (files : FileSystem) (arguments : Command.Arguments) : IO (FileSystem × ByteArray) := do
  let mut files := files
  let mut input := ByteArray.empty
  if let some vault := arguments.vault then
    if arguments.stdin then
      input ← readInput (← IO.getStdin) .empty
      for path in Command.inputPaths input do
        files ← withFile files path
    else
      try files ← withVault files vault catch _ => pure ()
  if let some rules := arguments.rules then
    files ← withFile files rules
  return (files, input)

/-- Answers a call from the command line. -/
def answer (arguments : List String) : IO UInt32 := do
  let settings ← Command.Setting.all.mapM fun setting => do
    return (setting.environmentName, ← IO.getEnv setting.environmentName)
  let environment (name : String) : Option String := (settings.lookup name).join
  let directory : Path := ⟨(← IO.currentDir).toString⟩
  let files : FileSystem := ⟨.empty, namesOf [] directory⟩
  let files : FileSystem := ⟨files.root.put files.workingDirectory .empty, files.workingDirectory⟩
  let (files, input) ← match Command.parse environment arguments with
    | .ok (.search arguments) => gather files arguments
    | _ => pure (files, .empty)
  let outcome := Command.run ⟨environment, files, input, ← now⟩ arguments
  (← IO.getStdout).putStr outcome.output
  if let some failure := outcome.failure then
    (← IO.getStderr).putStrLn failure.message
  return outcome.code.toUInt32

end Sift.Main

/-- The entry of the program. -/
def main (arguments : List String) : IO UInt32 := Sift.Main.answer arguments
