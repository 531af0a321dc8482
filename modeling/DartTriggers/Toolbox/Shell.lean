import DartTriggers.Toolbox.Shell.Run
/-!
The shell as a program. Its script is an argument, a file or its input.
-/

namespace DartTriggers.Toolbox.Shell

/-- Where the directories of programs are listed if nothing else is said. -/
def defaultPath : String :=
  "/usr/local/sbin:/usr/local/bin:/usr/sbin:/usr/bin:/sbin:/bin"

/-- The variables that a shell starts with. -/
def startBindings (setting : Setting) : List (String × Variable) :=
  let given := setting.environment.filter fun (name, _) => isName name
  let inherited := given.map fun (name, value) =>
    (name, { value := some value, isExported := true : Variable })
  let own := [("IFS", " \t\n"), ("OPTIND", "1"), ("PATH", defaultPath),
      ("PPID", toString (4320 + setting.depth)), ("PS1", "# "), ("PS2", "> "), ("PS4", "+ ")].map
    fun (name, value) => (name, { value := some value : Variable })
  let directory : Variable :=
    { value := some (Bytes.toOctets setting.cwd.bytes), isExported := true }
  ("PWD", directory) :: inherited.filter (·.1 ≠ "PWD") ++
    own.filter fun (name, _) => name = "IFS" || !given.any (·.1 = name)

/-- The state that a shell starts with. -/
def startState (called : String) (setting : Setting) : State :=
  { tree := setting.tree
    cwd := setting.cwd
    streams := #[.buffer setting.input, .out, .err]
    channels := [(0, 0), (1, 1), (2, 2)]
    bindings := startBindings setting
    name := called
    line := 0
    depth := setting.depth }

/-- What is there when a shell has ended. -/
def State.outcome (s : State) : Outcome :=
  { tree := s.tree
    said := s.said.reverse
    status := match s.flow with
      | .killed signal => endedBy signal
      | _ => .exited (s.code % 256)
    input := match s.streams.toList.head? with
      | some (.buffer text) => text
      | _ => "" }

/-- The text of the script that is to be run. -/
def State.scriptText (s : State) (isGiven : Bool) (words : List String) : State × String :=
  match isGiven, words with
  | true, [] => (s.abort "-c requires an argument", "")
  | true, text :: rest =>
      ({ s with name := rest.head?.getD s.name, arguments := rest.drop 1 }, text)
  | false, words =>
      match s.has 's', words with
      | false, file :: rest =>
          match readText s.tree (s.path file) with
          | .ok text => ({ s with name := file, arguments := rest }, text)
          | .error .isDirectory => (s, "")
          | .error e => (s.abort ("cannot open " ++ file ++ ": " ++ openFault "No such file" e), "")
      | _, words =>
          ((s.setOption true 's').setStream 0 (.buffer ""), s.waiting 0)
            |> fun (t, text) => ({ t with arguments := words }, text)

/-- The shell, which knows how it has been called. -/
def shell (tools : Toolset) (called : String) : Program := fun args setting =>
  let one := evaluate tools depthLimit
  let start := startState called setting
  match readSettings ('c' :: 'l' :: knownOptions) args start with
  | .error text => (start.abort text).outcome
  | .ok (s, words, _) =>
      let isGiven := s.has 'c'
      let s := (s.setOption false 'c').setOption false 'l'
      let (s, text) := s.scriptText isGiven words
      if s.isRunning then ((runText one text s).finish one).outcome else s.outcome

end DartTriggers.Toolbox.Shell
