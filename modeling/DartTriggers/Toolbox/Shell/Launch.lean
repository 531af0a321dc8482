import DartTriggers.Toolbox.Shell.Script
/-!
Starting programs from a script: how they are found, what they are given, and the builtins that run
programs, scripts or tell which ones there are.
-/

namespace DartTriggers.Toolbox.Shell

/-- The programs that a shell can start. -/
structure Toolset where
  /-- The program of a name, given how it is called. -/
  program? : (name called : String) → Option Program
  names : List String

/-- What is shown when a program has been ended by a signal. -/
def signalTexts : List (Nat × String) :=
  [(1, "Hangup"), (3, "Quit"), (4, "Illegal instruction"), (5, "Trace/breakpoint trap"),
   (6, "Aborted"), (7, "Bus error"), (8, "Floating point exception"), (9, "Killed"),
   (10, "User defined signal 1"), (11, "Segmentation fault"), (12, "User defined signal 2"),
   (14, "Alarm clock"), (15, "Terminated"), (16, "Stack fault"), (24, "CPU time limit exceeded"),
   (25, "File size limit exceeded"), (26, "Virtual timer expired"),
   (27, "Profiling timer expired"), (29, "I/O possible"), (30, "Power failure"),
   (31, "Bad system call")]

def signalText? (signal : Nat) : Option String :=
  if signal = 2 ∨ signal = 13 then none
  else if 34 ≤ signal then some ("Real-time signal " ++ toString (signal - 34))
  else some ((signalTexts.lookup signal).getD ("Unknown signal " ++ toString signal))

/-- Starts a program and waits for its end. -/
def State.start (s : State) (run : Program) (args : List String) : State × RunStatus :=
  let outputFile := match s.stream? 1 with
    | some (.file path offset _) => some ⟨path, offset⟩
    | _ => none
  let readsFile := match s.stream? 0 with
    | some (.file ..) => true
    | _ => false
  let outcome := run args
    { tree := s.tree, cwd := s.cwd, input := s.waiting 0, readsFile
      environment := s.exported, outputFile, depth := s.depth + 1 }
  let s := s.leaveWaiting 0 outcome.input
  let s := outcome.said.foldl (fun s piece =>
    match piece with
    | .out text => s.write 1 text
    | .err text => s.write 2 text)
    { s with tree := outcome.tree, code := codeOf outcome.status }
  (s, outcome.status)

/-- Says that a program has been ended by a signal. -/
def State.report (s : State) : RunStatus → State
  | .killed signal _ => s.write 2 (((signalText? signal).map (· ++ "\n")).getD "")
  | _ => s

/-- What stands at a path: a program that can be started, or why there is none. -/
def Toolset.atPath (t : Toolset) (s : State) (path called : String) : Except String Program :=
  let p := s.path path
  if path.isEmpty then .error "not found"
  else if s.tree.exists? p then .error "Permission denied"
  else
    match Host.kind? t.names p with
    | some (.program name) =>
        match t.program? name called with
        | some run => .ok run
        | none => .error "not found"
    | some _ => .error "Permission denied"
    | none => .error "not found"

/-- Looks for a program in directories. -/
def Toolset.inDirectories (t : Toolset) (s : State) (name : String) :
    (why : String) → List String → Except String (String × Program)
  | why, [] => .error why
  | why, dir :: rest =>
      let path := (if dir.isEmpty then "." else dir) ++ "/" ++ name
      match t.atPath s path name with
      | .ok run => .ok (path, run)
      | .error "not found" => t.inDirectories s name why rest
      | .error e => t.inDirectories s name e rest

/-- The program of a name, and its path, or the exit code and why there is none. -/
def Toolset.find (t : Toolset) (s : State) (name : String) :
    Except (Nat × String) (String × Program) :=
  if name.toList.contains '/' then
    match t.atPath s name name with
    | .ok run => .ok (name, run)
    | .error why => .error (if why = "not found" then 127 else 126, why)
  else
    match t.inDirectories s name "not found" (((s.value? "PATH").getD "").splitOn ":") with
    | .ok found => .ok found
    | .error why => .error (127, why)

/-! ### Builtins that run commands -/

/-- Runs its arguments as a script. -/
def evalBuiltin (one : Single) : Builtin := fun args s =>
  runText one (" ".intercalate args) s

/-- The path of a script that is run by this shell. -/
def State.scriptPath? (s : State) (name : String) : Option String :=
  if name.toList.contains '/' then some name
  else
    (((s.value? "PATH").getD "").splitOn ":").findSome? fun dir =>
      let path := if dir.isEmpty then name else dir ++ "/" ++ name
      match s.tree.node (s.path path) with
      | .ok (.file _) => some path
      | _ => none

/-- Runs a file as a part of the script. -/
def sourceBuiltin (one : Single) : Builtin := fun args s =>
  match args with
  | [] => s.ok
  | name :: _ =>
      match s.scriptPath? name with
      | none => s.abort (name ++ ": not found")
      | some path =>
          match readText s.tree (s.path path) with
          | .error .isDirectory => s.ok
          | .error e => s.abort ("cannot open " ++ path ++ ": " ++ openFault "No such file" e)
          | .ok text =>
              let t := runText one text { s with within := path, isTested := false }
              let flow := if t.flow = .back then .goOn else t.flow
              { t with flow, isTested := s.isTested }

/-- Becomes another program. -/
def execBuiltin (tools : Toolset) : Builtin := fun args s =>
  match if args.head? = some "--" then args.drop 1 else args with
  | [] => s.ok
  | name :: args =>
      match tools.find s name with
      | .error (code, why) => (s.complain (name ++ ": " ++ why)).exitWith code
      | .ok (_, run) =>
          let (t, status) := s.start run args
          let t := { t with traps := [], flow := .exit }
          match status with
          | .killed signal _ =>
              if s.isSubshell then t.report status else { t with flow := .killed signal }
          | _ => t

/-- The names of the builtins that have to do with programs. -/
def launchingBuiltins : List String := ["command", "hash", "type"]

/-- What a name stands for, in words or as it is called. -/
def State.describe (tools : Toolset) (s : State) (inWords : Bool) (name : String) :
    Option String :=
  let words (text : String) : Option String := some (if inWords then name ++ text else name)
  if keywords.contains name then words " is a shell keyword"
  else if specialBuiltins.contains name then words " is a special shell builtin"
  else if (s.functions.lookup name).isSome then words " is a shell function"
  else if ((builtins tools.names).lookup name).isSome ||
      launchingBuiltins.contains name then
    words " is a shell builtin"
  else
    let path := if name.toList.contains '/' then
        (if s.tree.exists? (s.path name) || (Host.kind? tools.names (s.path name)).isSome then
          some name
        else none)
      else (tools.find s name).toOption.map (·.1)
    path.map fun path => if inWords then name ++ " is " ++ path else path

/-- Says what names stand for. -/
def typeBuiltin (tools : Toolset) : Builtin := fun args s =>
  args.foldl (fun s name =>
    match s.describe tools true name with
    | some text => s.write 1 (text ++ "\n")
    | none => { s.write 1 (name ++ ": not found\n") with code := 127 }) s.ok

/-- Looks for programs, so that they would be found faster. -/
def hashBuiltin (tools : Toolset) : Builtin := fun args s =>
  (args.filter (· ≠ "-r")).foldl (fun s name =>
    match tools.find s name with
    | .ok _ => s
    | .error _ => { s.complain (name ++ ": not found") with code := 1 }) s.ok

/-- The options of `command`, and what follows them. -/
def commandOptions : List String → List Char × List String
  | [] => ([], [])
  | arg :: rest =>
      if arg = "--" then ([], rest)
      else
        match arg.toList with
        | '-' :: c :: letters =>
            let (more, words) := commandOptions rest
            (c :: letters ++ more, words)
        | _ => ([], arg :: rest)

/-- Says what a name stands for, as its options tell. -/
def commandBuiltin (tools : Toolset) : Builtin := fun args s =>
  let (letters, words) := commandOptions args
  match letters.find? (!"pvV".contains ·), words with
  | some c, _ => s.abort ("Illegal option -" ++ .singleton c)
  | none, [] => s.ok
  | none, name :: _ =>
      let inWords := letters.contains 'V'
      match s.describe tools inWords name with
      | some text => (s.write 1 (text ++ "\n")).ok
      | none => { s.write 1 (if inWords then name ++ ": not found\n" else "") with code := 127 }

/-- The words after `command`, if it stands there only to leave functions out. -/
def afterCommand? : List String → Option (List String)
  | "command" :: rest =>
      let (letters, words) := commandOptions rest
      if letters.all (· = 'p') then some words else none
  | _ => none

end DartTriggers.Toolbox.Shell
