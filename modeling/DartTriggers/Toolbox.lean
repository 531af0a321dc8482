import DartTriggers.Toolbox.Programs
import DartTriggers.Toolbox.Sed
import DartTriggers.Toolbox.Shell
/-!
The programs that formatter commands can start, found by their names. A name with a slash in it is
a path; the programs stand in the directories for programs.

They are there for formatters to be run at all. What a command does is said for any runner, and
nothing is assumed of this one.
-/

namespace DartTriggers.Toolbox

/-- How often programs can start each other. -/
def startLimit : Nat := 16

/-- The names of all programs. -/
def programNames : List String :=
  (plainPrograms []).map (·.1) ++ ["sed", "sh", "dash", "env"]

/-- A program that speaks of itself as it has been called. -/
def calledAs (name called : String) (run : Program) : Program := fun args s =>
  if called = name then run args s
  else
    let o := run args s
    let ownHelp := "\nTry '" ++ name ++ " --help'"
    { o with said := o.said.map fun
        | .err text =>
            let text := if text.startsWith (name ++ ": ") then
                called ++ (text.drop name.length).toString
              else text
            .err (text.replace ownHelp ("\nTry '" ++ called ++ " --help'"))
        | piece => piece }

/-- What stands at a name: the name of a program, or the code and the reason why there is none. -/
def programAt (s : Setting) (name : String) : Except (Nat × String) String :=
  let missing := FileError.notFound.reason
  if !name.toList.contains '/' then
    if programNames.contains name then .ok name else .error (127, missing)
  else if s.tree.exists? (s.path name) then .error (126, "Permission denied")
  else
    match Host.kind? programNames (s.path name) with
    | some (.program base) => .ok base
    | some _ => .error (126, "Permission denied")
    | none => .error (127, missing)

/-- Runs a program with other variables, or shows them. -/
def env (program? : (name called : String) → Option Program) : Program :=
  withOptionsAt true "env"
    [⟨'i', ["ignore-environment"], .nothing⟩, ⟨'0', ["null"], .nothing⟩,
     ⟨'u', ["unset"], .value⟩, ⟨'C', ["chdir"], .value⟩] 125 fun a s =>
    let complain (code : Nat) (text : String) : Outcome := s.start.complain code ("env: " ++ text)
    let isAlone := a.operands.head? = some "-"
    let words := if isAlone then a.operands.drop 1 else a.operands
    let unset := (a.options.filter fun g => g.letter = 'u').map (·.value)
    let given := (words.takeWhile fun arg => arg.toList.contains '=').map Shell.settingOf
    let added := given.map fun (name, value) => (name, value.getD "")
    let kept := if isAlone || a.has 'i' then []
      else s.environment.filter fun (name, _) => !unset.contains name
    let environment := kept.filter (fun (name, _) => !added.any (·.1 = name)) ++ added
    let cwd := match a.value? 'C' with
      | some dir => s.path dir
      | none => s.cwd
    match unset.find? fun name => name.isEmpty || name.toList.contains '=' with
    | some name => complain 125 ("cannot unset " ++ quotedWord name ++ ": Invalid argument")
    | none =>
        match words.drop given.length with
        | [] =>
            let mark := String.singleton (endMark (a.has '0'))
            s.start.say (String.join (environment.map fun (name, value) =>
              name ++ "=" ++ value ++ mark))
        | name :: args =>
            match programAt s name with
            | .error (code, reason) => complain code (quotedWord name ++ ": " ++ reason)
            | .ok base =>
                match program? base name with
                | some run => run args { s with cwd, environment, depth := s.depth + 1 }
                | none => complain 127 (quotedWord name ++ ": " ++ FileError.notFound.reason)

/-- The program of a name, given how it is called. -/
def program? : (room : Nat) → (name called : String) → Option Program
  | 0, name, called => ((plainPrograms programNames).lookup name).map (calledAs name called)
  | room + 1, name, called =>
      let tools : Shell.Toolset := ⟨program? room, programNames⟩
      if name = "sh" ∨ name = "dash" then some (Shell.shell tools called)
      else if name = "sed" then some (calledAs name called (Sed.sed (Shell.shell tools "sh")))
      else if name = "env" then some (env (program? room))
      else program? 0 name called

/-- Why something that is no program cannot be started. -/
def notStarted (tree : FileTree) (cwd : Path) (name : String) : String :=
  let denied := "Permission denied (os error 13)"
  if name.toList.contains '/' then
    match tree.node (cwd.appendString name), Host.kind? programNames (cwd.appendString name) with
    | .ok _, _ | .error _, some _ => denied
    | .error e, none => e.message
  else if name = "." ∨ name = ".." then denied
  else if 255 < name.utf8ByteSize then FileError.nameTooLong.message
  else FileError.notFound.message

/-- The name of the program that a name or a path stands for. -/
def programName? (tree : FileTree) (cwd : Path) (name : String) : Option String :=
  if !name.toList.contains '/' then some name
  else if tree.exists? (cwd.appendString name) then none
  else
    match Host.kind? programNames (cwd.appendString name) with
    | some (.program base) => some base
    | _ => none

/-- The variables that programs are given to start with. -/
def startEnvironment : List (String × String) :=
  [("HOME", "/root"), ("PATH", Shell.defaultPath)]

/-- Runs a program by its name, with relative paths starting from a directory. -/
def runner (cwd : Path) : Runner := fun name args tree =>
  if name.toList.contains '\x00' || args.any (·.contains 0) then
    ⟨tree, "", "", .notStarted "nul byte found in provided data"⟩
  else
    match (programName? tree cwd name).bind fun base => program? startLimit base name with
    | none => ⟨tree, "", "", .notStarted (notStarted tree cwd name)⟩
    | some run =>
        let o := run (args.map Bytes.toOctets) { tree, cwd, environment := startEnvironment }
        let shown (text : String) : String := Bytes.display (Bytes.ofOctets text)
        ⟨o.tree, shown o.out, shown o.err, o.status⟩

end DartTriggers.Toolbox
