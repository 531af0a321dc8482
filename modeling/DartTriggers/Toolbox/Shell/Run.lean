import DartTriggers.Toolbox.Shell.Launch
/-!
Running commands. What a command does is written in terms of how its parts are run, and the two are
tied together at the end, with a bound on how deeply commands stand in each other.
-/

namespace DartTriggers.Toolbox.Shell

/-- What the name of a command stands for. -/
inductive Meaning where
  /-- The shell cannot do without a special builtin. -/
  | builtin (isSpecial : Bool) (run : Builtin)
  | function (body : Command)
  | program (run : Program)
  | missing (code : Nat) (why : String)

/-- The builtins, those that run commands among them. -/
def allBuiltins (tools : Toolset) (one : Single) : List (String × Builtin) :=
  [("eval", evalBuiltin one), (".", sourceBuiltin one), ("exec", execBuiltin tools),
   ("type", typeBuiltin tools), ("hash", hashBuiltin tools),
   ("command", commandBuiltin tools)] ++ builtins tools.names

/-- What a name stands for. -/
def State.meaning (tools : Toolset) (one : Single) (s : State) (functions : Bool)
    (name : String) : Meaning :=
  let builtin? := (allBuiltins tools one).lookup name
  match specialBuiltins.contains name, builtin?,
      if functions then s.functions.lookup name else none with
  | true, some run, _ => .builtin true run
  | _, _, some body => .function body
  | _, some run, none => .builtin false run
  | _, none, none =>
      match tools.find s name with
      | .ok (_, run) => .program run
      | .error (code, why) => .missing code why

/-- Puts variables back as they were. -/
def State.restore (s : State) (saved : List (String × Option Variable)) : State :=
  saved.foldl (fun s (name, v) =>
    match v with
    | some v => s.putVariable name v
    | none => { s with bindings := s.bindings.filter (·.1 ≠ name) }) s

/-- How deeply functions can call each other. -/
def callLimit : Nat := 1000

/-- Calls a function. -/
def State.call (one : Single) (s : State) (body : Command) (args : List String) : State :=
  if callLimit ≤ s.locals.length then
    s.abort ("Maximum function recursion depth (" ++ toString callLimit ++ ") reached")
  else
    let t := one body
      { s with arguments := args, loops := 0, locals := [] :: s.locals, optionOffset := 0 }
    let t := t.restore (t.locals.head?.getD [])
    { t with
      arguments := s.arguments, loops := s.loops, locals := s.locals
      optionOffset := s.optionOffset
      flow := if t.flow = .back then .goOn else t.flow }

/-- The builtins that fail if nothing can be shown. -/
def showingBuiltins : List String := ["echo", "printf", "pwd"]

/-- Runs a builtin; a complaint ends the shell if it cannot do without the builtin. -/
def State.runBuiltin (s : State) (isSpecial : Bool) (name : String) (run : Builtin)
    (args : List String) : State :=
  let t := run args { s with within := name }
  let t : State := if showingBuiltins.contains name && (t.stream? 1).isNone then
      { t.complain (name ++ ": I/O error") with code := 1 }
    else t
  match t.flow with
  | .failed =>
      { t with within := s.within, code := 2, flow := if isSpecial then .failed else .goOn }
  | _ => { t with within := s.within }

/-- Runs a command whose words have been expanded. -/
def State.perform (tools : Toolset) (one : Single) (viaCommand : Bool) (s : State) :
    List String → State
  | [] => s.ok
  | name :: args =>
      match s.meaning tools one (!viaCommand) name with
      | .builtin isSpecial run => s.runBuiltin (isSpecial && !viaCommand) name run args
      | .function body => s.call one body args
      | .program run =>
          let (s, status) := s.start run args
          s.report status
      | .missing code why => { s.complain (name ++ ": " ++ why) with code }

/-! ### Simple commands -/

/-- The builtins whose arguments can be assignments. -/
def assigningBuiltins : List String := ["export", "readonly", "local"]

/-- The texts of words; words that look like assignments are not cut after some builtins. -/
def State.expandWords (run : Runner) (s : State) :
    (known : List String) → List Word → State × List String
  | known, [] => (s, known)
  | known, w :: rest =>
      let setting := if known.head?.any assigningBuiltins.contains then assignment? w else none
      let (s, texts) := match setting with
        | some (name, value) =>
            let (s, text) := s.expandValue run value
            (s, [name ++ "=" ++ text])
        | none => s.expand run w
      if !s.isRunning then (s, []) else State.expandWords run s (known ++ texts) rest

/-- Gives variables values in turn, and says what is shown of this. -/
def State.assignAll (run : Runner) (isExported : Bool) (s : State) :
    List (String × Word) → State × List String
  | [] => (s, [])
  | (name, w) :: rest =>
      let (s, value) := s.expandValue run w
      let s := if s.isRunning then s.setValue name value else s
      if !s.isRunning then (s, [])
      else
        let s := match isExported, s.variableNamed? name with
          | true, some v => s.putVariable name { v with isExported := true }
          | _, _ => s
        let (s, shown) := State.assignAll run isExported s rest
        (s, (name ++ "=" ++ value) :: shown)

/-- Shows a command before it runs, on the error output that some channels have. -/
def State.trace (s : State) (channels : List (Nat × Nat)) (texts : List String) : State :=
  if s.has 'x' then
    let line := (s.value? "PS4").getD "" ++ " ".intercalate texts ++ "\n"
    { { s with channels }.write 2 line with channels := s.channels }
  else s

/-- Runs a simple command: its words are expanded, its channels changed, its variables set, and what
it is called after is run. -/
def simple (tools : Toolset) (one : Single) (line : Nat) (settings : List (String × Word))
    (words : List Word) (redirects : List Redirect) (s : State) : State :=
  let run := runInner one
  let (s, texts) := { s with line, outputCode := 0 }.expandWords run [] words
  if !s.isRunning then s
  else
    let viaCommand := (afterCommand? texts).isSome
    let called := (afterCommand? texts).getD texts
    let isSpecial := !viaCommand && called.head?.any specialBuiltins.contains
    let (t, changes) := s.changesOf run redirects
    if !t.isRunning then t
    else
      let (t, areMade) := t.changeAll run changes
      let keeps := called.head? = some "exec"
      if !areMade then
        { t.undo s.channels changes with flow := if isSpecial then .failed else t.flow }
      else
        let isLasting := texts.isEmpty || isSpecial
        let saved :=
          if isLasting then [] else settings.map fun (name, _) => (name, t.variableNamed? name)
        let (t, shown) := t.assignAll run (!isLasting) settings
        let t := if !t.isRunning then t
          else
            let t := t.trace s.channels (shown ++ texts)
            if texts.isEmpty then { t with code := t.outputCode }
            else t.perform tools one viaCommand called
        let t := t.restore saved
        if keeps then t else t.undo s.channels changes

/-! ### Loops and choices -/

/-- What a round of a loop leaves to be done. -/
inductive Round where
  | whole
  /-- The round has been cut short. -/
  | cut
  /-- The loop ends. -/
  | ends

/-- The state after a round of a loop, and how the loop goes on. -/
def State.afterRound (s : State) : State × Round :=
  match s.flow with
  | .goOn => (s, .whole)
  | .leave n => ({ s with flow := if n ≤ 1 then .goOn else .leave (n - 1) }, .ends)
  | .again n =>
      if n ≤ 1 then ({ s with flow := .goOn }, .cut)
      else ({ s with flow := .again (n - 1) }, .ends)
  | _ => (s, .ends)

/-- Repeats a body as long as a test succeeds, or fails. `code` is that of the last round. -/
def repeatWhile (one : Single) (fails : Bool) (test body : List Command) :
    (room code : Nat) → State → State
  | 0, _, s => { s with flow := .killed 9 }
  | room + 1, code, s =>
      let flow := (tested (runAll one test) s).flow
      let (s, round) := (tested (runAll one test) s).afterRound
      match round with
      | .cut => repeatWhile one fails test body room code s
      | .ends =>
          match flow with
          | .leave _ | .again _ => { s with code }
          | _ => s
      | .whole =>
          if (s.code = 0) = fails then { s with code }
          else
            let (s, round) := (runAll one body s).afterRound
            match round with
            | .ends => s
            | _ => repeatWhile one fails test body room s.code s

/-- How often a loop can go round. -/
def roundLimit : Nat := 1000000

/-- Runs a body for each value of a variable. -/
def forEachValue (one : Single) (name : String) (body : List Command) :
    List String → State → State
  | [], s => s
  | value :: rest, s =>
      let s := s.setValue name value
      if !s.isRunning then s
      else
        let (s, round) := (runAll one body s).afterRound
        match round with
        | .ends => s
        | _ => forEachValue one name body rest s

/-- Whether a text matches any of some patterns, which are expanded in turn. -/
def State.matchesAny (run : Runner) (s : State) (text : String) : List Word → State × Bool
  | [] => (s, false)
  | w :: rest =>
      let (s, pattern) := s.expandPattern run w
      if !s.isRunning then (s, false)
      else if Glyph.matchesAll pattern text.toList then (s, true)
      else State.matchesAny run s text rest

/-- Runs the first case that a text matches. -/
def chooseCase (one : Single) (text : String) :
    List (List Word × List Command) → State → State
  | [], s => s.ok
  | (patterns, body) :: rest, s =>
      let (s, isMatch) := s.matchesAny (runInner one) text patterns
      if !s.isRunning then s
      else if isMatch then (if body.isEmpty then s.ok else runAll one body s)
      else chooseCase one text rest s

/-! ### Pipelines -/

/-- Runs commands in shells of their own, each on the output of the one before it, which stands in
the stream given. All find the same code. -/
def runPipeline (one : Single) (code : Nat) :
    (input : Option Nat) → List Command → State → State
  | _, [], s => s
  | input, c :: rest, s =>
      let isLast := rest.isEmpty
      let output := s.streams.size
      let s := if isLast then s else { s with streams := s.streams.push (.buffer "") }
      let ends := (input.toList.map fun i => (0, i)) ++ (if isLast then [] else [(1, output)])
      let others := s.channels.filter fun (channel, _) => !ends.any (·.1 = channel)
      let t := { s with code, channels := ends ++ others }.apart one (one c)
      let t := { t with channels := s.channels }
      if t.isRunning then runPipeline one code (some output) rest t else t

/-! ### Commands -/

/-- Ends the shell if a command has failed and nothing looks at it. -/
def State.checked (s : State) : State :=
  if s.has 'e' && !s.isTested && s.code ≠ 0 && (s.isRunning || s.flow = .back) then
    { s with flow := .exit }
  else s

/-- Does what is to be done at a signal, if anything. -/
def State.settle (one : Single) (s : State) : State :=
  match s.flow with
  | .killed signal =>
      match if signal = 9 ∨ signal = 19 then none else s.traps.lookup signal with
      | none => s
      | some action =>
          let t := runText one action { s with flow := .goOn, isTested := false }
          { t with code := if t.flow = .back then t.code else if t.isRunning then s.code else t.code
                   isTested := s.isTested }
  | _ => s

/-- Runs a command, given how its parts are run. -/
def step (tools : Toolset) (one : Single) (c : Command) (s : State) : State :=
  match c with
  | .simple line settings words redirects =>
      (simple tools one line settings words redirects s).checked
  | .pipeline commands => (runPipeline one s.code none commands s).checked
  | .negated c =>
      let s := tested (one c) s
      if s.isRunning then { s with code := if s.code = 0 then 1 else 0 } else s
  | .both a b =>
      let s := tested (one a) s
      if s.isRunning && s.code = 0 then one b s else s
  | .either a b =>
      let s := tested (one a) s
      if s.isRunning && s.code ≠ 0 then one b s else s
  | .background c =>
      let act (s : State) : State := one c { s.openAt 0 .null with isTested := false }
      let t := s.apart one act
      let job := s.firstJob + s.jobs.length
      { t with code := 0, jobs := (job, t.code) :: s.jobs }
  | .group body => runAll one body s
  | .subshell body => (s.apart one (runAll one body)).checked
  | .redirected line c redirects =>
      ({ s with line }.redirected (runInner one) redirects (one c)).checked
  | .branch test body otherwise =>
      let s := tested (runAll one test) s
      if !s.isRunning then s
      else if s.code = 0 then runAll one body s
      else if otherwise.isEmpty then s.ok
      else runAll one otherwise s
  | .loop fails test body =>
      let t := repeatWhile one fails test body roundLimit 0 { s with loops := s.loops + 1 }
      { t with loops := s.loops }
  | .each line name words body =>
      let (s, values) := { s with line }.expandAll (runInner one) words
      if !s.isRunning then s
      else if values.isEmpty then s.ok
      else
        let t := forEachValue one name body values { s with loops := s.loops + 1 }
        { t with loops := s.loops }
  | .choose line subject cases =>
      let (s, text) := { s with line }.expandWhole (runInner one) subject
      if s.isRunning then chooseCase one text cases s else s
  | .define name body =>
      { s with functions := (name, body) :: s.functions.filter (·.1 ≠ name), code := 0 }

/-- Runs a command that stands at most so deep. What is deeper is ended by the system. -/
def evaluate (tools : Toolset) : (room : Nat) → Single
  | 0, _, s => { s with flow := .killed 11 }
  | room + 1, c, s =>
      (step tools (evaluate tools room) c s).settle (evaluate tools room)

/-- How deeply commands can stand in each other. -/
def depthLimit : Nat := 20000

end DartTriggers.Toolbox.Shell
