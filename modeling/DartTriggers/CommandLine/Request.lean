import DartTriggers.Command.Check
import DartTriggers.Command.Generate
import DartTriggers.Command.Init
import DartTriggers.CommandLine.Grammar
import DartTriggers.Log.Line
/-!
What the program is asked for on its command line, and what it answers: its outputs, an exit code
and the tree as it is afterwards.
-/

namespace DartTriggers.CommandLine

/-- What the program is asked for. -/
inductive Request where
  | version
  | generate (args : Generate.Args)
  | check (args : Check.Args)
  | init (args : Init.Args)
deriving DecidableEq, Repr

def generateGrammar : Grammar :=
  ⟨[⟨"unit", some 'u', true⟩, ⟨"out-dir", some 'o', true⟩, ⟨"stdout", none, false⟩,
    ⟨"no-format", none, false⟩, ⟨"variant", none, true⟩], true⟩

def checkGrammar : Grammar :=
  ⟨[⟨"verbose", some 'v', false⟩, ⟨"format", some 'f', true⟩], true⟩

def initGrammar : Grammar :=
  ⟨[⟨"src-dir", some 's', true⟩, ⟨"force", some 'f', false⟩], false⟩

def generateArgs (g : Given) : Generate.Args :=
  { path := g.operand
    unit := g.value? "unit"
    outDir := g.value? "out-dir"
    toStdout := g.has "stdout"
    noFormat := g.has "no-format"
    variant := g.value? "variant" }

def checkArgs (g : Given) : Check.Args :=
  let unset : Check.Args := {}
  { path := g.operand
    verbose := g.has "verbose"
    format := (g.value? "format").getD unset.format }

def initArgs (g : Given) : Init.Args :=
  let unset : Init.Args := {}
  { srcDir := (g.value? "src-dir").getD unset.srcDir
    force := g.has "force" }

/-- Whether an argument asks for the version: by its long name, or with the short one first. -/
def asksVersion (arg : String) : Bool :=
  arg = "--version" || ['-', 'V'].isPrefixOf arg.toList

namespace Request

/-- What some arguments ask for; nothing if they do not fit. -/
def ofArgs? : List String → Option Request
  | [] => none
  | "generate" :: rest => (generateGrammar.read? rest).map fun g => .generate (generateArgs g)
  | "check" :: rest => (checkGrammar.read? rest).map fun g => .check (checkArgs g)
  | "init" :: rest => (initGrammar.read? rest).map fun g => .init (initArgs g)
  | arg :: _ => if asksVersion arg then some .version else none

end Request

/-- The name and version of the program. -/
def versionLine : String := "trigger-gen 0.1.0\n"

/-- What the program finds when it starts. -/
structure Setting where
  tree : FileTree
  cwd : Path
  runner : Runner
  colored : Bool
  /-- The time that is shown with events. -/
  time : String
  filter : Log.Filter

/-- What the program answers. -/
structure Answer where
  tree : FileTree
  out : String
  err : String
  code : Nat

/-- What a command did: the tree after it, what it showed, and why it failed if it did. -/
structure Done where
  tree : FileTree
  transcript : Transcript
  refusal : Option String

def Done.ofResult {ε : Type} (tree : FileTree) (transcript : Transcript) (message : ε → String) :
    Except ε Unit → Done
  | .ok () => ⟨tree, transcript, none⟩
  | .error e => ⟨tree, transcript, some (message e)⟩

/-- Runs the command of a request. -/
def Request.run (s : Setting) : Request → Done
  | .version => ⟨s.tree, [.out versionLine], none⟩
  | .generate args =>
      let done := Generate.run s.tree s.runner s.colored s.cwd args
      .ofResult done.tree done.transcript Generate.Refusal.message done.result
  | .check args =>
      let done := Check.runCommand s.tree s.colored s.cwd args
      .ofResult s.tree done.transcript Check.Refusal.message done.result
  | .init args =>
      let done := Init.run s.tree s.colored s.cwd args
      .ofResult done.tree done.transcript FileError.message done.result

/-- What is shown of a failure. -/
def failureText (colored : Bool) (message : String) : String :=
  "\n" ++ paint colored [.bold, .red] "Error:" ++ " " ++ message ++ "\n\n"

def answerRequest (s : Setting) (r : Request) : Answer :=
  let done := r.run s
  let err := done.transcript.errWithEvents s.time s.filter
  match done.refusal with
  | none => ⟨done.tree, done.transcript.out, err, 0⟩
  | some message =>
      ⟨done.tree, done.transcript.out, err ++ failureText s.colored message, 1⟩

/-- How the program is called. -/
def usage : String :=
  "Usage: trigger-gen <init|generate|check> [OPTIONS] [PATH]\n"

/-- Answers some arguments; those that do not fit change nothing. -/
def answer (s : Setting) (args : List String) : Answer :=
  match Request.ofArgs? args with
  | none => ⟨s.tree, "", usage, 2⟩
  | some r => answerRequest s r

end DartTriggers.CommandLine
