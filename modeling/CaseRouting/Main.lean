import CaseRouting.CommandLine.Run

/-!
# The program

Reads what a run can look at, runs, and prints how the run ends.
-/

open CaseRouting CaseRouting.CommandLine

/-- The reason why the system refuses to read a file. Whatever the system says besides a directory
out of place counts as a file that is not there. -/
def readErrorOf : IO.Error → ReadError
  | .inappropriateType .. => .notADirectory
  | .illegalOperation .. => .isDirectory
  | _ => .notFound

/-- Reads the bytes of a file, and keeps a refusal of the system as the answer that the run gets at
this path. -/
def readBytes (path : String) : IO (String × Except ReadError ByteArray) := do
  try
    let bytes ← IO.FS.readBinFile path
    return (path, .ok bytes)
  catch error => return (path, .error (readErrorOf error))

/-- Reads the standard input to its end, unless it is a terminal, from which nothing is read. -/
def readStdin : IO ByteArray := do
  let stdin ← IO.getStdin
  let mut bytes := ByteArray.empty
  if ← stdin.isTty then return bytes
  repeat
    let chunk ← stdin.read 65536
    if chunk.isEmpty then break
    bytes := bytes ++ chunk
  return bytes

/-- The paths that a request names, and whether it needs the standard input: the case comes from
there if no file is named. -/
def needsOf : Request → List String × Bool
  | .inspect path => ([path], false)
  | .next options => (options.definition :: options.caseFile.toList, options.caseFile.isNone)
  | _ => ([], false)

/-- Prints the end of a run, on the standard output and on the standard error. -/
def printEnding (ending : Ending) : IO Unit := do
  IO.print ending.stdout
  IO.eprint ending.stderr

/-- Runs the program with its arguments. Whatever the request may look at is read beforehand, and
the run itself is computed from that. -/
def main (arguments : List String) : IO UInt32 := do
  let (paths, needsStdin) := match Request.ofArguments arguments with
    | .ok request => needsOf request
    | .error _ => ([], false)
  let read ← paths.mapM readBytes
  let stdin ← if needsStdin then readStdin else pure ByteArray.empty
  let files : FileReader := fun path => (read.lookup path).getD (.error .notFound)
  let ending := run ⟨files, stdin⟩ arguments
  printEnding ending
  return ending.status.toUInt32
