import DartTriggers.Toolbox.Process
import DartTriggers.Toolbox.Shell.Reader
/-!
The state of a shell: its variables and functions, the channels of its commands, and what it has
shown. Channels are numbers that stand for streams; a stream is shared by all channels that have
been made from each other.
-/

namespace DartTriggers.Toolbox.Shell

structure Variable where
  value : Option String
  isExported : Bool := false
  isReadOnly : Bool := false

/-- Where text comes from or goes to. -/
inductive Stream where
  /-- The output of the shell. -/
  | out
  | err
  /-- A device that is empty and takes everything. -/
  | null
  /-- Text that waits to be read; what is written is added to it. -/
  | buffer (text : String)
  /-- A file, from some offset on. -/
  | file (path : Path) (offset : Nat) (appends : Bool)

/-- How a script goes on after a command. -/
inductive Flow where
  | goOn
  | exit
  /-- A complaint has been made; this ends the shell, unless a builtin is at work that the shell can
  do without. -/
  | failed
  /-- Leaves so many loops. -/
  | leave (loops : Nat)
  /-- Goes on with the next round of a loop, the inner ones being left. -/
  | again (loops : Nat)
  | back
  /-- The shell is ended by a signal. -/
  | killed (signal : Nat)
deriving DecidableEq

structure State where
  tree : FileTree
  cwd : Path
  /-- What has been shown, last things first. -/
  said : List Said := []
  streams : Array Stream := #[]
  channels : List (Nat × Nat) := []
  /-- The variables by name. -/
  bindings : List (String × Variable) := []
  /-- The name of the script, and its arguments. -/
  name : String
  arguments : List String := []
  functions : List (String × Command) := []
  documents : Array Word := #[]
  /-- The exit code of the last command. -/
  code : Nat := 0
  /-- The exit code of the last script whose output stands in a word. -/
  outputCode : Nat := 0
  /-- The builtin or script that is at work and complains. -/
  within : String := ""
  flow : Flow := .goOn
  line : Nat := 1
  /-- The letters of the options that are set. -/
  options : List Char := []
  /-- What is done at signals and, as number 0, at the end of the shell. -/
  traps : List (Nat × String) := []
  /-- The numbers and codes of the commands that ran beside the script, the last one first. -/
  jobs : List (Nat × Nat) := []
  /-- How many loops there are around a command. -/
  loops : Nat := 0
  /-- For each function that runs, the variables as they were before it. -/
  locals : List (List (String × Option Variable)) := []
  /-- Whether a failure of the command is looked at, so that it does not end the shell. -/
  isTested : Bool := false
  isSubshell : Bool := false
  depth : Nat := 0
  /-- The position of `getopts` in an argument. -/
  optionOffset : Nat := 0

namespace State

def path (s : State) (text : String) : Path :=
  s.cwd.append ⟨Bytes.ofOctets text⟩

def has (s : State) (option : Char) : Bool :=
  s.options.contains option

/-- The number that a script is given as its own. -/
def ownNumber (s : State) : String :=
  toString (4321 + s.depth)

/-- The number of the first command that runs beside the script. -/
def firstJob (s : State) : Nat :=
  5000 + 100 * s.depth

def isRunning (s : State) : Bool :=
  s.flow = .goOn

def exitWith (s : State) (code : Nat) : State :=
  { s with code, flow := .exit }

/-! ### Streams -/

def stream? (s : State) (channel : Nat) : Option Stream :=
  (s.channels.lookup channel).bind fun i => s.streams[i]?

def setStream (s : State) (channel : Nat) (stream : Stream) : State :=
  match s.channels.lookup channel with
  | some i => { s with streams := s.streams.setIfInBounds i stream }
  | none => s

/-- Opens a stream at a channel. -/
def openAt (s : State) (channel : Nat) (stream : Stream) : State :=
  { s with
    streams := s.streams.push stream
    channels := (channel, s.streams.size) :: s.channels.filter (·.1 ≠ channel) }

def close (s : State) (channel : Nat) : State :=
  { s with channels := s.channels.filter (·.1 ≠ channel) }

/-- The text of a file with other text at an offset. -/
def overwrite (old text : String) (offset : Nat) : String :=
  let s := old.toList
  let fill := List.replicate (offset - s.length) '\x00'
  .ofList (s.take offset ++ fill ++ text.toList ++ s.drop (offset + text.length))

/-- Writes to a channel. -/
def write (s : State) (channel : Nat) (text : String) : State :=
  if text.isEmpty then s
  else
    match s.stream? channel with
    | none | some .null => s
    | some .out => { s with said := .out text :: s.said }
    | some .err => { s with said := .err text :: s.said }
    | some (.buffer old) => s.setStream channel (.buffer (old ++ text))
    | some (.file path offset appends) =>
        match readText s.tree path with
        | .error _ => s
        | .ok old =>
            let offset := if appends then old.length else offset
            let new := if offset = old.length then old ++ text else overwrite old text offset
            match writeText s.tree path new with
            | .error _ => s
            | .ok tree =>
                { s with tree }.setStream channel (.file path (offset + text.length) appends)

/-- The text that waits at a channel. -/
def waiting (s : State) (channel : Nat) : String :=
  match s.stream? channel with
  | some (.buffer text) => text
  | some (.file path offset _) =>
      match readText s.tree path with
      | .ok text => (text.drop offset).toString
      | .error _ => ""
  | _ => ""

/-- Leaves so much of the text that waits at a channel. -/
def leaveWaiting (s : State) (channel : Nat) (left : String) : State :=
  match s.stream? channel with
  | some (.buffer _) => s.setStream channel (.buffer left)
  | some (.file path offset appends) =>
      let size := offset + (s.waiting channel).length - left.length
      s.setStream channel (.file path size appends)
  | _ => s

/-- Shows a complaint. -/
def complain (s : State) (text : String) : State :=
  let who := if s.within.isEmpty then "" else s.within ++ ": "
  s.write 2 (s.name ++ ": " ++ toString s.line ++ ": " ++ who ++ text ++ "\n")

/-- Shows a complaint about what cannot be done. -/
def abort (s : State) (text : String) : State :=
  { s.complain text with code := 2, flow := .failed }

/-! ### Variables -/

def variableNamed? (s : State) (name : String) : Option Variable :=
  s.bindings.lookup name

def value? (s : State) (name : String) : Option String :=
  (s.variableNamed? name).bind (·.value)

def putVariable (s : State) (name : String) (v : Variable) : State :=
  { s with bindings := (name, v) :: s.bindings.filter (·.1 ≠ name) }

/-- Gives a variable a value, unless it can only be read. -/
def setValue (s : State) (name value : String) : State :=
  let old : Option Variable := s.variableNamed? name
  if !isName name then s.abort (name ++ ": bad variable name")
  else if old.any (·.isReadOnly) then s.abort (name ++ ": is read only")
  else
    let isExported := s.has 'a' || old.any fun v => v.isExported
    { s with optionOffset := if name = "OPTIND" then 0 else s.optionOffset }.putVariable name
      { value := some value, isExported }

/-- The variables that programs are given. -/
def exported (s : State) : List (String × String) :=
  s.bindings.filterMap fun (name, v) =>
    if v.isExported then v.value.map fun value => (name, value) else none

/-- The letters of the options in the order in which they are shown. -/
def shownOptions : List Char :=
  ['u', 'b', 'a', 'C', 'E', 'V', 'v', 'x', 's', 'n', 'm', 'i', 'I', 'f', 'e']

/-- The value of a parameter that is not all of the arguments. -/
def parameter? (s : State) (name : String) : Option String :=
  if name = "?" then some (toString s.code)
  else if name = "$" then some s.ownNumber
  else if name = "#" then some (toString s.arguments.length)
  else if name = "-" then some (.ofList (shownOptions.filter s.has))
  else if name = "!" then s.jobs.head?.map fun (job, _) => toString job
  else
    match name.toNat? with
    | some 0 => some s.name
    | some (n + 1) => s.arguments[n]?
    | none => s.value? name

/-- The characters that cut values into words. -/
def separators (s : State) : List Char :=
  ((s.value? "IFS").getD (if (s.variableNamed? "IFS").isSome then "" else " \t\n")).toList

end State

end DartTriggers.Toolbox.Shell
