import DartTriggers.Formatter
import DartTriggers.Text.Octets
/-!
Processes: what a program finds when it starts and what it leaves behind. All text is in octets. A
program is a function from its arguments and its setting to its outcome.
-/

namespace DartTriggers.Toolbox

/-- A piece of what a program shows. -/
inductive Said where
  | out (text : String)
  | err (text : String)
deriving DecidableEq, Repr

/-- A file that output goes into, and where in the file it goes. -/
structure OutputFile where
  path : Path
  offset : Nat

/-- What a program finds when it starts. -/
structure Setting where
  tree : FileTree
  /-- The directory that relative paths start from. -/
  cwd : Path
  /-- The text on its input. -/
  input : String := ""
  /-- Whether its input is a file. -/
  readsFile : Bool := false
  /-- The variables that it is given, by name. -/
  environment : List (String × String) := []
  /-- The file that its output goes into, if it is one. -/
  outputFile : Option OutputFile := none
  /-- How many programs have started each other before it. -/
  depth : Nat := 0

/-- What there is when a program has ended, or while it runs. -/
structure Outcome where
  tree : FileTree
  said : List Said := []
  status : RunStatus := .exited 0
  /-- What it has left of its input. -/
  input : String := ""

abbrev Program := (args : List String) → Setting → Outcome

namespace Setting

/-- The path that a name stands for; an empty name stands for none that is there. -/
def path (s : Setting) (text : String) : Path :=
  if text.isEmpty then ⟨[]⟩ else s.cwd.append ⟨Bytes.ofOctets text⟩

/-- Nothing has been done yet. -/
def start (s : Setting) : Outcome :=
  { tree := s.tree, input := s.input }

end Setting

namespace Outcome

/-- Shows text on the output. -/
def say (o : Outcome) (text : String) : Outcome :=
  if text.isEmpty then o else { o with said := o.said ++ [.out text] }

/-- Shows text on the error output. -/
def warn (o : Outcome) (text : String) : Outcome :=
  if text.isEmpty then o else { o with said := o.said ++ [.err text] }

def exit (o : Outcome) (code : Nat) : Outcome :=
  { o with status := .exited code }

/-- Shows a complaint and counts as failed, but goes on. -/
def complain (o : Outcome) (code : Nat) (text : String) : Outcome :=
  (o.warn (text ++ "\n")).exit code

/-- All text on the output. -/
def out (o : Outcome) : String :=
  String.join (o.said.filterMap fun
    | .out text => some text
    | .err _ => none)

/-- All text on the error output. -/
def err (o : Outcome) : String :=
  String.join (o.said.filterMap fun
    | .err text => some text
    | .out _ => none)

end Outcome

/-- The signals that have names. -/
def signals : List (Nat × String) :=
  [(1, "HUP"), (2, "INT"), (3, "QUIT"), (4, "ILL"), (5, "TRAP"), (6, "ABRT"), (7, "BUS"),
   (8, "FPE"), (9, "KILL"), (10, "USR1"), (11, "SEGV"), (12, "USR2"), (13, "PIPE"), (14, "ALRM"),
   (15, "TERM"), (16, "STKFLT"), (17, "CHLD"), (18, "CONT"), (19, "STOP"), (20, "TSTP"),
   (21, "TTIN"), (22, "TTOU"), (23, "URG"), (24, "XCPU"), (25, "XFSZ"), (26, "VTALRM"),
   (27, "PROF"), (28, "WINCH"), (29, "IO"), (30, "PWR"), (31, "SYS")]

/-- The largest number of a signal. -/
def lastSignal : Nat := 64

/-- The signals that do nothing to a program. -/
def ignoredSignals : List Nat := [0, 17, 18, 23, 28]

/-- The number and the full name of a signal that ends a program. -/
def endedBy (signal : Nat) : RunStatus :=
  .killed signal ((signals.lookup signal).map ("SIG" ++ ·))

/-- The code that a shell takes an ending for. -/
def codeOf : RunStatus → Nat
  | .exited code => code
  | .killed signal _ => 128 + signal
  | .notStarted _ => 127

/-- The devices that are always empty. -/
def nullDevice : String := "/dev/null"

/-- The text of a content. -/
def textOf (content : ByteArray) : String :=
  Bytes.toOctets content.data.toList

/-- The content of a text. -/
def contentOf (text : String) : ByteArray :=
  ⟨(Bytes.ofOctets text).toArray⟩

/-- Reads a file or a device. -/
def readText (tree : FileTree) (p : Path) : Except FileError String :=
  if p.bytes = Bytes.ofString nullDevice then .ok "" else (tree.read p).map textOf

/-- Writes a file or a device. -/
def writeText (tree : FileTree) (p : Path) (text : String) : Except FileError FileTree :=
  if p.bytes = Bytes.ofString nullDevice then .ok tree else tree.write p (contentOf text)

/-- Does something for each argument in turn. -/
def forEach (act : String → Outcome → Outcome) (args : List String) (o : Outcome) : Outcome :=
  args.foldl (fun o arg => act arg o) o

/-- The pieces of a text that a mark ends, each with the mark if it has one. -/
def piecesOf (mark : Char) (text : String) : List String :=
  let (pieces, last) := text.foldl (fun (pieces, last) c =>
    if c = mark then ((last.push c) :: pieces, "") else (pieces, last.push c)) ([], "")
  (if last.isEmpty then pieces else last :: pieces).reverse

/-- A piece without the mark that ends it. -/
def withoutMark (mark : Char) (piece : String) : String :=
  if piece.endsWith (String.singleton mark) then (piece.dropEnd 1).toString else piece

/-- The lines of a text, each with its end if it has one. -/
def linesOf : String → List String :=
  piecesOf '\n'

/-- A line without its end. -/
def withoutEnd : String → String :=
  withoutMark '\n'

/-- The mark that ends pieces: the end of a line, or a zero. -/
def endMark (zero : Bool) : Char :=
  if zero then '\x00' else '\n'

/-- A number in as many columns as are asked for, with blanks in front. -/
def inColumns (width n : Nat) : String :=
  let digits := toString n
  .ofList (List.replicate (width - digits.length) ' ') ++ digits

end DartTriggers.Toolbox
