import DartTriggers.Toolbox.Condition
import DartTriggers.Toolbox.Shell.Expansion
/-!
The builtins of the shell that run no other commands. Each is a function from its arguments and the
state to the state.
-/

namespace DartTriggers.Toolbox.Shell

abbrev Builtin := (args : List String) → State → State

def State.ok (s : State) : State :=
  { s with code := 0 }

/-- A number without a sign. -/
def naturalNumber? (text : String) : Option Nat :=
  if !text.isEmpty && text.toList.all Char.isDigit then text.toNat? else none

/-- A text between single quotes, from which the shell can read it again. -/
def singleQuoted (text : String) : String :=
  let parts := text.splitOn "'"
  "'" ++ "'\"'\"'".intercalate parts ++ "'"

def echoBuiltin : Builtin := fun args s =>
  let (silent, words) := match args with
    | "-n" :: rest => (true, rest)
    | args => (false, args)
  let (text, goesOn) := words.foldl (fun (text, goesOn, isFirst) word =>
      if !goesOn then (text, false, false)
      else
        let (more, goesOn) := Printf.unescaped .shell word
        (text ++ (if isFirst then "" else " ") ++ more, goesOn, false)) ("", true, true)
    |> fun (text, goesOn, _) => (text, goesOn)
  (s.write 1 (if silent || !goesOn then text else text ++ "\n")).ok

def printfBuiltin : Builtin := fun args s =>
  let isOpen := args.head? = some "--"
  match if isOpen then args.drop 1 else args with
  | [] => s.abort "usage: printf format [arg ...]"
  | format :: args =>
      if !isOpen && format.startsWith "-" && 1 < format.length then
        s.abort ("Illegal option -" ++ ((format.drop 1).take 1).toString)
      else
        let f := Printf.format .shell format args
        let s := f.warnings.foldl (fun s text => s.complain text) s
        { s.write 1 f.out with code := f.code }

/-- What conditions of the shell are about. -/
def State.world (s : State) (programs : List String) : Condition.World :=
  ⟨s.tree, s.path, programs⟩

def testBuiltin (name : String) (programs : List String) : Builtin := fun words s =>
  let words? := if name = "[" then
      (if words.getLast? = some "]" then some words.dropLast else none)
    else some words
  match words? with
  | none => s.abort "missing ]"
  | some words =>
      match (s.world programs).holds words with
      | .ok value => { s with code := if value then 0 else 1 }
      | .error e => s.abort e.message

/-- An absolute path without idle parts and dots. -/
def tidyPath (p : Path) : Path :=
  ⟨Bytes.ofOctets (Host.normalized p)⟩

def changeDirectory : Builtin := fun args s =>
  let args := args.filter fun a => a ≠ "-L" ∧ a ≠ "-P" ∧ a ≠ "--"
  let target := match args with
    | [] => s.value? "HOME"
    | "-" :: _ => s.value? "OLDPWD"
    | dir :: _ => some dir
  match target with
  | none => s.ok
  | some "" => s.ok
  | some dir =>
      let p := tidyPath (s.path dir)
      if s.tree.isDirectory (s.path dir) || Host.kind? [] (s.path dir) = some .directory then
        let old := Bytes.toOctets s.cwd.bytes
        let new := Bytes.toOctets p.bytes
        let s := ({ s with cwd := p }.setValue "OLDPWD" old).setValue "PWD" new
        (if args.head? = some "-" then s.write 1 (new ++ "\n") else s).ok
      else s.abort ("can't cd to " ++ dir)

def showDirectory : Builtin := fun args s =>
  match args.find? fun a => a.startsWith "-" && a ≠ "-" && a ≠ "-L" && a ≠ "-P" && a ≠ "--" with
  | some a => s.abort ("Illegal option " ++ (a.take 2).toString)
  | none => (s.write 1 (Bytes.toOctets s.cwd.bytes ++ "\n")).ok

/-- The option letters by their names; some have letters that cannot be written. -/
def optionNames : List (String × Char) :=
  [("errexit", 'e'), ("noglob", 'f'), ("ignoreeof", 'I'), ("interactive", 'i'), ("monitor", 'm'),
   ("noexec", 'n'), ("stdin", 's'), ("xtrace", 'x'), ("verbose", 'v'), ("vi", 'V'),
   ("emacs", 'E'), ("noclobber", 'C'), ("allexport", 'a'), ("notify", 'b'), ("nounset", 'u'),
   ("privileged", 'p'), ("nolog", '\x01'), ("debug", '\x02')]

/-- Shows the options, as a table or as commands that set them. -/
def State.listOptions (s : State) (asTable : Bool) : State :=
  let line (name : String) (c : Char) : String :=
    if asTable then
      name ++ .ofList (List.replicate (16 - name.length) ' ') ++ (if s.has c then "on" else "off")
    else "set " ++ (if s.has c then "-o " else "+o ") ++ name
  s.write 1 ((if asTable then "Current option settings\n" else "") ++
    String.join (optionNames.map fun (name, c) => line name c ++ "\n"))

def State.setOption (s : State) (on : Bool) (c : Char) : State :=
  let others := s.options.filter (· ≠ c)
  { s with options := if on then others ++ [c] else others }

def knownOptions : List Char :=
  ['e', 'f', 'I', 'i', 'm', 'n', 's', 'x', 'v', 'V', 'E', 'C', 'a', 'b', 'u', 'p']

/-- Sets options that are known; gives what follows them, and whether arguments are set at all. -/
def readSettings (known : List Char) :
    List String → State → Except String (State × List String × Bool)
  | [], s => .ok (s, [], false)
  | arg :: rest, s =>
      if arg = "--" then .ok (s, rest, true)
      else if arg = "-" then
        .ok ((s.setOption false 'x').setOption false 'v', rest, !rest.isEmpty)
      else if (arg = "-o" ∨ arg = "+o") ∧ rest.isEmpty then
        .ok (s.listOptions (arg = "-o"), [], false)
      else
        match arg.toList with
        | sign :: c :: letters =>
            if sign ≠ '-' ∧ sign ≠ '+' then .ok (s, arg :: rest, true)
            else if c = 'o' then
              match rest with
              | [] => .ok (s, [], false)
              | name :: rest =>
                  match optionNames.lookup name with
                  | none => .error ("Illegal option -o " ++ name)
                  | some c => readSettings known rest (s.setOption (sign = '-') c)
            else
              match (c :: letters).find? fun c => !known.contains c with
              | some c => .error ("Illegal option -" ++ .singleton c)
              | none =>
                  readSettings known rest
                    ((c :: letters).foldl (fun s c => s.setOption (sign = '-') c) s)
        | _ => .ok (s, arg :: rest, true)

def setBuiltin : Builtin := fun args s =>
  if args.isEmpty then
    let names := (s.bindings.map (·.1)).mergeSort fun a b => compare a b != .gt
    (s.write 1 (String.join (names.filterMap fun name =>
      (s.value? name).map fun value => name ++ "=" ++ singleQuoted value ++ "\n"))).ok
  else
    match readSettings knownOptions args s with
    | .error text => s.abort text
    | .ok (s, rest, isSet) =>
        (if isSet then { s with arguments := rest, optionOffset := 0 } else s).ok

/-- A setting such as `x=1`, or a name alone. -/
def settingOf (arg : String) : String × Option String :=
  let name := arg.toList.takeWhile (· ≠ '=')
  (.ofList name, match arg.toList.drop name.length with
    | [] => none
    | _ :: value => some (.ofList value))

/-- Marks variables, which may be given values. -/
def markVariables (builtin : String) (mark : Variable → Variable) : Builtin := fun args s =>
  match args with
  | [] | ["-p"] =>
      let names := (s.bindings.map (·.1)).mergeSort fun a b => compare a b != .gt
      (s.write 1 (String.join (names.filterMap fun name =>
        (s.variableNamed? name).bind fun v =>
          let isMarked := if builtin = "export" then v.isExported else v.isReadOnly
          if isMarked then
            some (builtin ++ " " ++ name ++ (match v.value with
              | some value => "=" ++ singleQuoted value
              | none => "") ++ "\n")
          else none))).ok
  | args =>
      (args.foldl (fun s arg =>
        let (name, value) := settingOf arg
        if !s.isRunning then s
        else if !isName name then s.abort (arg ++ ": bad variable name")
        else
          let s := match value with
            | some value => s.setValue name value
            | none => s
          if !s.isRunning then s
          else s.putVariable name (mark ((s.variableNamed? name).getD ⟨none, false, false⟩))) s).ok

def unsetBuiltin : Builtin := fun args s =>
  let (functions, names) := match args with
    | "-f" :: rest => (true, rest)
    | "-v" :: rest => (false, rest)
    | args => (false, args)
  (names.foldl (fun s name =>
    if !s.isRunning then s
    else if functions then { s with functions := s.functions.filter (·.1 ≠ name) }
    else if !isName name then s.abort (name ++ ": bad variable name")
    else if (s.variableNamed? name).any (·.isReadOnly) then
      s.abort (name ++ ": is read only")
    else { s with bindings := s.bindings.filter (·.1 ≠ name) }) s).ok

def localBuiltin : Builtin := fun args s =>
  match s.locals with
  | [] => s.abort "not in a function"
  | frame :: frames =>
      (args.foldl (fun (s : State) arg =>
        let (name, value) := settingOf arg
        let s := match s.locals with
          | frame :: frames =>
              if frame.any (·.1 = name) then s
              else { s with locals := ((name, s.variableNamed? name) :: frame) :: frames }
          | [] => s
        match value with
        | some value => s.setValue name value
        | none => s) { s with locals := frame :: frames }).ok

def shiftBuiltin : Builtin := fun args s =>
  match args with
  | [] =>
      if s.arguments.isEmpty then s.abort "can't shift that many"
      else { s with arguments := s.arguments.drop 1 }.ok
  | n :: _ =>
      match naturalNumber? n with
      | none => s.abort ("Illegal number: " ++ n)
      | some n =>
          if s.arguments.length < n then s.abort "can't shift that many"
          else { s with arguments := s.arguments.drop n }.ok

/-- Leaves loops, or goes on with their next round. -/
def leaveLoops (flow : Nat → Flow) : Builtin := fun args s =>
  let leave (n : Nat) : State :=
    if s.loops = 0 then s.ok else { s.ok with flow := flow (min n s.loops) }
  match args with
  | [] => leave 1
  | n :: _ =>
      match naturalNumber? n with
      | some (n + 1) => leave (n + 1)
      | _ => s.abort ("Illegal number: " ++ n)

def returnBuiltin : Builtin := fun args s =>
  match args with
  | [] => { s with flow := .back }
  | n :: _ =>
      match naturalNumber? n with
      | some n => { s with code := n, flow := .back }
      | none => s.abort ("Illegal number: " ++ n)

def exitBuiltin : Builtin := fun args s =>
  match args with
  | [] => s.exitWith s.code
  | n :: _ =>
      match naturalNumber? n with
      | some n => s.exitWith (n % 256)
      | none => s.abort ("Illegal number: " ++ n)

/-! ### Signals -/

/-- The number of a signal from its number or name. -/
def signalNumber? (text : String) : Option Nat :=
  match naturalNumber? text with
  | some n => if n ≤ lastSignal then some n else none
  | none => (signals.find? fun (_, name) => name = text.toUpper).map (·.1)

/-- The number that a signal, or the end of the shell, is trapped under. -/
def trapNumber? (text : String) : Option Nat :=
  if text.toUpper = "EXIT" then some 0 else signalNumber? text

/-- The name that a signal is trapped under. -/
def trapName (n : Nat) : String :=
  if n = 0 then "EXIT" else (signals.lookup n).getD (toString n)

def killUsage : String :=
  "Usage: kill [-s sigspec | -signum | -sigspec] [pid | job]... or\nkill -l [exitstatus]"

/-- Sends a signal to programs, of which only the shell itself is there. -/
def sendSignal (signal : Nat) (targets : List String) (s : State) : State :=
  targets.foldl (fun s target =>
    if !s.isRunning then s
    else if target = s.ownNumber || target = "0" || target = "-" ++ s.ownNumber then
      if ignoredSignals.contains signal then s else { s with flow := .killed signal }
    else
      let digits := if target.startsWith "-" then (target.drop 1).toString else target
      let job := s.jobs.find? fun (job, _) => toString job = target
      match job, naturalNumber? digits with
      | some (job, _), _ =>
          let jobs := s.jobs.map fun (n, code) => (n, if n = job then 128 + signal else code)
          { s with jobs }
      | none, some _ => { s.complain "No such process\n" with code := 1 }
      | none, none =>
          s.abort ((if target.startsWith "%" then "No such job: " else "Illegal number: ") ++
            target)) s.ok

/-- Shows the names of signals. -/
def listSignals (codes : List String) (s : State) : State :=
  match codes with
  | [] =>
      let names := (List.range (lastSignal + 1)).map fun n =>
        if n = 0 then "0" else (signals.lookup n).getD (
          if n = 34 then "RTMIN" else if n = lastSignal then "RTMAX"
          else if n < 34 then toString n
          else if n ≤ 49 then "RTMIN+" ++ toString (n - 34) else "RTMAX-" ++ toString (64 - n))
      (s.write 1 (String.join (names.map (· ++ "\n")))).ok
  | code :: _ =>
      match naturalNumber? code with
      | none => s.abort ("Illegal number: " ++ code)
      | some n =>
          match signals.lookup (if 128 < n then n - 128 else n) with
          | some name => (s.write 1 (name ++ "\n")).ok
          | none => s.abort ("invalid signal number or exit status: " ++ code)

def killBuiltin : Builtin := fun args s =>
  let send (signal : Nat) (targets : List String) : State :=
    if targets.isEmpty then s.abort killUsage else sendSignal signal targets s
  match args with
  | [] => s.abort killUsage
  | arg :: rest =>
      match arg.toList with
      | '-' :: name =>
          match signalNumber? (.ofList name) with
          | some n => send n rest
          | none =>
              if arg = "--" then send 15 rest
              else if name.head? = some 'l' then listSignals rest s
              else if name.head? = some 's' then
                let (text, rest) := match name.drop 1, rest with
                  | [], text :: rest => (some text, rest)
                  | [], [] => (none, [])
                  | text, rest => (some (.ofList text), rest)
                match text with
                | none => s.abort "No arg for -s option"
                | some text =>
                    match signalNumber? text with
                    | some n => send n rest
                    | none => s.abort ("invalid signal number or name: " ++ text)
              else s.abort ("Illegal option -" ++ .ofList (name.take 1))
      | _ => send 15 args

def trapBuiltin : Builtin := fun args s =>
  match if args.head? = some "--" then args.drop 1 else args with
  | [] =>
      let traps := s.traps.mergeSort fun a b => a.1 ≤ b.1
      (s.write 1 (String.join (traps.map fun (n, action) =>
        "trap -- " ++ singleQuoted action ++ " " ++ trapName n ++ "\n"))).ok
  | action :: names =>
      let isLetter := action.startsWith "-" && 1 < action.length
      let isAction := !names.isEmpty && (naturalNumber? action).isNone
      if isLetter then s.abort ("Illegal option " ++ (action.take 2).toString)
      else
        (if isAction then names else action :: names).foldl (fun s name =>
          match trapNumber? name with
          | none => { s.write 2 ("trap: " ++ name ++ ": bad trap\n") with code := 1 }
          | some n =>
              let others := s.traps.filter (·.1 ≠ n)
              let isReset := !isAction || action = "-"
              { s with traps := if isReset then others else (n, action) :: others }) s.ok

/-! ### Reading -/

/-- Takes a line from what is waiting: characters, each with whether it was escaped; what is left;
and whether the line had an end. -/
def inputLine (raw : Bool) : (room : Nat) → List Char → List (Char × Bool) × List Char × Bool
  | 0, s => ([], s, false)
  | room + 1, s =>
      match s with
      | [] => ([], [], false)
      | '\n' :: rest => ([], rest, true)
      | '\\' :: rest =>
          if raw then
            let (line, left, ended) := inputLine raw room rest
            (('\\', false) :: line, left, ended)
          else
            match rest with
            | [] => ([], [], false)
            | '\n' :: rest => inputLine raw room rest
            | c :: rest =>
                let (line, left, ended) := inputLine raw room rest
                ((c, true) :: line, left, ended)
      | c :: rest =>
          let (line, left, ended) := inputLine raw room rest
          ((c, false) :: line, left, ended)

/-- Cuts a line for a number of variables; the last one takes all that is left. -/
def cutLine (separators : List Char) : (count : Nat) → List (Char × Bool) → List String
  | 0, _ => []
  | count + 1, line =>
      let isBlank (c : Char × Bool) : Bool :=
        !c.2 && separators.contains c.1 && (c.1 = ' ' || c.1 = '\t' || c.1 = '\n')
      let isMark (c : Char × Bool) : Bool := !c.2 && separators.contains c.1
      let line := line.dropWhile isBlank
      let word := line.takeWhile (!isMark ·)
      let after := (line.drop word.length).dropWhile isBlank
      if count = 0 then
        let trimmed := (line.reverse.dropWhile isBlank).reverse
        let trimmed := if after.length = 1 && after.all isMark then word else trimmed
        [.ofList (trimmed.map (·.1))]
      else
        let after := match after with
          | c :: rest => if isMark c then rest else after
          | [] => []
        .ofList (word.map (·.1)) :: cutLine separators count after

/-- The options of `read`: whether backslashes are kept, and the names that follow. -/
def readingOptions : (raw : Bool) → List String → Except Char (Bool × List String)
  | raw, [] => .ok (raw, [])
  | raw, arg :: rest =>
      match arg.toList with
      | ['-', '-'] => .ok (raw, rest)
      | '-' :: c :: letters =>
          match (c :: letters).find? fun c => c ≠ 'r' ∧ c ≠ 'p' with
          | some c => .error c
          | none =>
              let raw := raw || (c :: letters).contains 'r'
              match (c :: letters).getLast?, rest with
              | some 'p', _ :: rest => readingOptions raw rest
              | _, rest => readingOptions raw rest
      | _ => .ok (raw, arg :: rest)

def readBuiltin : Builtin := fun args s =>
  match readingOptions false args with
  | .error c => s.abort ("Illegal option -" ++ .singleton c)
  | .ok (_, []) => s.abort "arg count"
  | .ok (raw, names) =>
      let text := s.waiting 0
      let (line, left, ended) := inputLine raw (text.length + 1) text.toList
      let s := s.leaveWaiting 0 (.ofList left)
      let values := cutLine s.separators names.length line
      let s := (names.zip values).foldl (fun s (name, value) =>
        if s.isRunning then s.setValue name value else s) s
      { s with code := if ended then 0 else 1 }

/-- Waits for commands that run beside the script; they have ended. -/
def waitBuiltin : Builtin := fun args s =>
  args.foldl (fun s arg =>
    match naturalNumber? arg with
    | none => s.abort ("Illegal number: " ++ arg)
    | some n => { s with code := (s.jobs.lookup n).getD 127 }) s.ok

/-- Goes through the options of a script, one at each call. -/
def getoptsBuiltin : Builtin := fun args s =>
  match args with
  | letters :: name :: rest =>
      let words := if rest.isEmpty then s.arguments else rest
      let index := ((s.value? "OPTIND").bind naturalNumber?).getD 1
      let silent := letters.startsWith ":"
      let finish (index : Nat) : State :=
        let s := { (s.setValue "OPTIND" (toString index)).setValue name "?" with optionOffset := 0 }
        { s with code := 1 }
      match words[index - 1]? with
      | none => finish index
      | some word =>
          let chars := word.toList
          if s.optionOffset = 0 && (chars.head? ≠ some '-' || chars.length < 2) then finish index
          else if word = "--" then finish (index + 1)
          else
            let offset := if s.optionOffset = 0 then 1 else s.optionOffset
            let c := chars.getD offset '?'
            let isLast := chars.length ≤ offset + 1
            let (nextIndex, nextOffset) := if isLast then (index + 1, 0) else (index, offset + 1)
            let move (s : State) (index offset : Nat) : State :=
              { s.setValue "OPTIND" (toString index) with optionOffset := offset }
            let drop (s : State) (name : String) : State :=
              { s with bindings := s.bindings.filter (·.1 ≠ name) }
            match letters.toList.dropWhile (· ≠ c) with
            | [] =>
                let s := if silent then s.setValue "OPTARG" (.singleton c)
                  else drop (s.write 2 ("Illegal option -" ++ .singleton c ++ "\n")) "OPTARG"
                (move (s.setValue name "?") nextIndex nextOffset).ok
            | _ :: ':' :: _ =>
                let value := chars.drop (offset + 1)
                if !value.isEmpty then
                  (move ((s.setValue name (.singleton c)).setValue "OPTARG" (.ofList value))
                    (index + 1) 0).ok
                else
                  match words[index]? with
                  | some value =>
                      (move ((s.setValue name (.singleton c)).setValue "OPTARG" value)
                        (index + 2) 0).ok
                  | none =>
                      let s := if silent then
                          (s.setValue name ":").setValue "OPTARG" (.singleton c)
                        else
                          drop ((s.write 2 ("No arg for -" ++ .singleton c ++ " option\n")).setValue
                            name "?") "OPTARG"
                      (move s (index + 1) 0).ok
            | _ => (move (drop (s.setValue name (.singleton c)) "OPTARG") nextIndex nextOffset).ok
  | _ => s.abort "Usage: getopts optstring var [arg...]"

/-- The builtins by their names. -/
def builtins (programs : List String) : List (String × Builtin) :=
  [(":", fun _ s => s.ok), ("true", fun _ s => s.ok), ("false", fun _ s => { s with code := 1 }),
   ("echo", echoBuiltin), ("printf", printfBuiltin), ("test", testBuiltin "test" programs),
   ("[", testBuiltin "[" programs), ("cd", changeDirectory), ("chdir", changeDirectory),
   ("pwd", showDirectory), ("set", setBuiltin),
   ("export", markVariables "export" fun v => { v with isExported := true }),
   ("readonly", markVariables "readonly" fun v => { v with isReadOnly := true }),
   ("unset", unsetBuiltin), ("local", localBuiltin), ("shift", shiftBuiltin),
   ("break", leaveLoops .leave), ("continue", leaveLoops .again),
   ("return", returnBuiltin), ("exit", exitBuiltin), ("kill", killBuiltin),
   ("trap", trapBuiltin), ("read", readBuiltin), ("getopts", getoptsBuiltin),
   ("umask", fun args s => (if args.isEmpty then s.write 1 "0022\n" else s).ok),
   ("times", fun _ s => (s.write 1 "0m0.000000s 0m0.000000s\n0m0.000000s 0m0.000000s\n").ok),
   ("wait", waitBuiltin), ("jobs", fun _ s => s.ok),
   ("fg", fun _ s => s.abort "No current job"), ("bg", fun _ s => s.abort "No current job"),
   ("alias", fun _ s => s.ok), ("unalias", fun _ s => s.ok),
   ("ulimit", fun args s => (if args.isEmpty then s.write 1 "unlimited\n" else s).ok)]

end DartTriggers.Toolbox.Shell
