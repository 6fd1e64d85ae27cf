import Rehearsal.Command.Run

/-! # The command in memory

A desk holds files and keeps what the command puts out. Time does not pass on it.
-/

namespace Rehearsal.Command

/-- All files, the names of the directory from which paths are taken, and what was put out. -/
structure Desk where
  files : Tree
  home : List String := []
  output : String := ""
  complaints : String := ""
  logs : List LogLine := []

namespace Desk

def look (desk : Desk) (path : String) : Except FileProblem Tree :=
  desk.files.look path desk.home

/-- The files of a desk with a text written to one of them. -/
def write (desk : Desk) (path text : String) : Except FileProblem Tree :=
  desk.files.write path text.toUTF8 desk.home

/-- A desk as the world around the command. -/
def system : System (StateM Desk) where
  look path := return (← get).look path
  write path text := do
    match (← get).write path text with
    | .error problem => return .error problem
    | .ok files =>
      modify ({ · with files })
      return .ok ()
  say text := modify fun desk => { desk with output := desk.output ++ text }
  complain text := modify fun desk => { desk with complaints := desk.complaints ++ text }
  log line := modify fun desk => { desk with logs := desk.logs ++ [line] }
  timed test := return (test (), .zero)

/-- Runs the command on a desk; gives the exit code and the desk as it is left. -/
def run (desk : Desk) (arguments : List String) : Nat × Desk :=
  (Command.run system arguments).run desk

end Desk

end Rehearsal.Command
