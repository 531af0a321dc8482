import DartTriggers.FileTree.Access
import DartTriggers.Log.Transcript
/-!
Formatters: what is run on a file once it is written. A formatter may change the tree and show
something; whether it succeeds is reported and has no other consequence.
-/

namespace DartTriggers

/-- A tree after something has been done, and what was shown meanwhile. -/
structure Step where
  tree : FileTree
  transcript : Transcript

/-- What is run on a file once it is written. -/
abbrev Formatter := (file : Path) → FileTree → Step

/-- A program and its arguments. -/
structure Command where
  program : String
  args : List String
deriving DecidableEq, Repr, Inhabited

/-- How the run of a program ends. -/
inductive RunStatus where
  | exited (code : Nat)
  /-- Ended by a signal, given by its number and, if it has one, its name. -/
  | killed (signal : Nat) (name : Option String)
  | notStarted (reason : String)
deriving DecidableEq, Repr

namespace RunStatus

def description : RunStatus → String
  | .exited code => "exit status: " ++ toString code
  | .killed signal none => "signal: " ++ toString signal
  | .killed signal (some name) => "signal: " ++ toString signal ++ " (" ++ name ++ ")"
  | .notStarted reason => reason

end RunStatus

/-- The run of a program: the tree after it, its outputs and how it ends. -/
structure Run where
  tree : FileTree
  out : String
  err : String
  status : RunStatus

/-- The programs that can be run, given the name, the arguments and the tree. -/
abbrev Runner := (program : String) → (args : List Bytes) → FileTree → Run

namespace Formatter

/-- Leaves the file as it is. -/
def none : Formatter :=
  fun _ tree => ⟨tree, []⟩

/-- What is reported about a run on a file. -/
def report (command : Command) (file : Path) : RunStatus → Log.Event
  | .exited 0 => .formatted file
  | .notStarted reason => .formatterNotStarted command.program reason
  | status => .formatterFailed file status.description

/-- Text that is shown if there is any. -/
def shownText (piece : String → Shown) (text : String) : Transcript :=
  if text.isEmpty then [] else [piece text]

/-- Runs a command with the file as its last argument. -/
def ofCommand (runner : Runner) (command : Command) : Formatter :=
  fun file tree =>
    let run := runner command.program (command.args.map Bytes.ofString ++ [file.bytes]) tree
    ⟨run.tree, shownText .out run.out ++ shownText .err run.err ++
      [.event (report command file run.status)]⟩

end Formatter

end DartTriggers
