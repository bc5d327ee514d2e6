import AccessModel.Standard

/-!
# The command

The host of a run is the machine: its files, its standard streams and its environment.
-/

namespace AccessModel.Command

/-- The trouble that an error of the system stands for. -/
def Trouble.ofSystem : IO.Error → Trouble
  | .noFileOrDirectory .. | .noSuchThing .. => .absent
  | .permissionDenied .. => .other "Permission denied (os error 13)"
  | .inappropriateType .. => .isDirectory
  | e => .other (toString e)

/-- Runs an action of the system. -/
def attempt {α : Type} (x : IO α) : IO (Except Trouble α) := do
  try return .ok (← x)
  catch e => return .error (.ofSystem e)

/-- All bytes of a stream. -/
partial def readAll (h : IO.FS.Stream) (bytes : ByteArray) : IO ByteArray := do
  let more ← h.read 65536
  if more.isEmpty then return bytes else readAll h (bytes ++ more)

/-- The files and standard input of the machine. -/
def machine : Host IO where
  state path := do
    match ← attempt (IO.FS.readFile path) with
    | .ok text => return .file text
    | .error .absent => return .absent
    | .error _ => return .directory
  read path := attempt (IO.FS.readBinFile path)
  readInput := do attempt (readAll (← IO.getStdin) .empty)
  write path text := attempt (IO.FS.writeFile path text)

/-- The variables of the environment. -/
def environment : IO (List (String × String)) := do
  let bytes ← IO.FS.readBinFile "/proc/self/environ"
  let text := (String.fromUTF8? bytes).getD ""
  return (text.splitOn "\x00").filterMap fun entry =>
    (Text.cutFirst ['='] entry.toList).map fun (name, value) =>
      (String.ofList name, String.ofList value)

end AccessModel.Command

open AccessModel.Command in
/-- Runs the command on the machine. -/
def main (args : List String) : IO UInt32 := do
  let report ← run machine args (← environment)
  for line in report.errors do
    IO.eprintln line
  IO.print report.output
  return UInt32.ofNat report.exit
