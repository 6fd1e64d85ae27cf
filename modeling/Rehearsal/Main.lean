import Rehearsal.Command.Run

/-! # The program

The command in the real world: files are read from and written to the file system, texts go to the
standard streams, and tests are timed by the clock.
-/

namespace Rehearsal.Main

open Command (System)

/-- Why the file system refused. -/
def fileProblem : IO.Error → FileProblem
  | .noFileOrDirectory .. => .missing
  | .inappropriateType _ code detail =>
    if code = 20 then .notDirectory
    else if code = 21 then .isDirectory
    else .other detail
  | e => .other (toString e)

/-- What an entry of a directory is, unless it is neither a file, a directory nor a link. -/
partial def readEntry (entry : IO.FS.DirEntry) : IO (Option (String × Tree)) := do
  match (← entry.path.symlinkMetadata).type with
  | .file => return some (entry.fileName, .file (← IO.FS.readBinFile entry.path))
  | .symlink => return some (entry.fileName, .link "")
  | .dir =>
    let entries ← (← entry.path.readDir).toList.filterMapM readEntry
    return some (entry.fileName, .directory entries)
  | .other => return none

def look (path : String) : IO (Except FileProblem Tree) := do
  try
    let place ← IO.FS.realPath path
    match (← place.metadata).type with
    | .dir => return .ok (.directory (← (← place.readDir).toList.filterMapM readEntry))
    | _ => return .ok (.file (← IO.FS.readBinFile place))
  catch e => return .error (fileProblem e)

def write (path text : String) : IO (Except FileProblem Unit) := do
  try
    IO.FS.writeFile path text
    return .ok ()
  catch e => return .error (fileProblem e)

def timed {α : Type} (test : Unit → α) : IO (α × Duration) := do
  let start ← IO.monoNanosNow
  let result ← IO.lazyPure test
  let passed := (← IO.monoNanosNow) - start
  return (result, ⟨passed / Duration.perSecond, passed % Duration.perSecond⟩)

/-- The real world around the command. -/
def system : System IO where
  look
  write
  say text := IO.print text
  complain text := IO.eprint text
  log line := IO.eprintln line.shown
  timed

end Rehearsal.Main

/-- Runs the command; gives its exit code. -/
def main (arguments : List String) : IO UInt32 := do
  return (← Rehearsal.Command.run Rehearsal.Main.system arguments).toUInt32
