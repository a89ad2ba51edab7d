import LineTemplates.Program

/-! The command line program: it looks up the files that a command names, performs the command and prints what it
has to say. -/

namespace LineTemplates.Main

def fileError : IO.Error → FileError
  | .noFileOrDirectory .. => .notFound
  | .inappropriateType .. => .notFolder
  | .permissionDenied .. => .denied
  | .invalidArgument .. => .longName
  | _ => .notFound

def content (path : String) : IO FileContent := do
  try return .ok (← IO.FS.readBinFile path)
  catch error => return .error (fileError error)

def isFolder (path : String) : IO Bool := do
  try return ← (← IO.FS.realPath path).isDir
  catch _ => return false

partial def folderAt (path : String) : IO Folder := do
  let mut folder := Folder.empty
  try
    for entry in ← (← IO.FS.realPath path).readDir do
      let inside := s!"{path}/{entry.fileName}"
      let name := entry.fileName.toList
      if ← isFolder inside then
        folder := .folder name (← folderAt inside) folder
      else if (Suite.stem? name).isSome then
        folder := .file name (← content inside) folder
    return folder
  catch _ => return folder

def isThere (path : String) : IO Bool := do
  try
    discard (← IO.FS.realPath path).metadata
    return true
  catch _ => return false

def find (path : String) : IO Found := do
  if ← isFolder path then return .folder (← folderAt path)
  match ← content path with
  | .ok bytes => return .file (.ok bytes)
  | .error error => return if ← isThere path then .file (.error error) else .nothing error

def modified (path : String) : IO Int := do
  try
    let time := (← (← IO.FS.realPath path).metadata).modified
    return time.sec * 1000000000 + time.nsec.toNat
  catch _ => return 0

def paths : Command → List Text
  | .check templates => [templates]
  | .parse templates input => templates :: input.toList
  | .test path _ _ => [path]
  | .watch templates input _ _ => [templates, input]

def files (command : Command) : IO Files := do
  let mut found : List (Text × Found) := []
  let mut times : List (Text × Int) := []
  for path in paths command do
    found := (path, ← find path.str) :: found
    times := (path, ← modified path.str) :: times
  return ⟨fun path => (found.lookup path).getD (.nothing .notFound), fun path => (times.lookup path).getD 0⟩

partial def readAll (stream : IO.FS.Stream) (content : ByteArray) : IO ByteArray := do
  let more ← stream.read 65536
  if more.isEmpty then return content else readAll stream (content ++ more)

def standardInput : Command → IO ByteArray
  | .parse _ none => do readAll (← IO.getStdin) .empty
  | _ => pure .empty

def print (transcript : Transcript) : IO Unit := do
  IO.print (Transcript.joined transcript.output)
  IO.eprint (Transcript.joined transcript.errors)
  (← IO.getStdout).flush

def finish (outcome : Outcome) : IO UInt32 := do
  print outcome.transcript
  return outcome.code.toUInt32

partial def watch (command : Command) (interval : Nat) (session : Program.WatchSession) : IO UInt32 := do
  let (transcript, next) := session.round (← files command)
  print transcript
  match next with
  | .error outcome => finish outcome
  | .ok session => do
    IO.sleep interval.toUInt32
    watch command interval session

def perform (invocation : Invocation) : IO UInt32 := do
  let seen ← files invocation.command
  match invocation.command with
  | .watch templates input interval false =>
    match Program.WatchSession.begin seen templates input with
    | .error error => finish (Program.fails [Program.errorLine error.message])
    | .ok session => watch invocation.command interval session
  | command => finish (Program.perform seen (← standardInput command) invocation)

end LineTemplates.Main

open LineTemplates in
def main (arguments : List String) : IO UInt32 := do
  match CommandLine.read (arguments.map String.toList) with
  | .error error => Main.finish (Program.refuse error)
  | .ok invocation => Main.perform invocation
