import DartTriggers.Toolbox.Shell.Redirect
/-!
Running scripts, given how one command is run: lists of commands, texts, and shells that are started
from shells.
-/

namespace DartTriggers.Toolbox.Shell

/-- Runs one command. -/
abbrev Single := Command → State → State

/-- Runs commands in turn, as long as the script goes on. -/
def runAll (one : Single) (commands : List Command) (s : State) : State :=
  commands.foldl (fun s c => if s.isRunning then one c s else s) s

/-- Does something whose failure is looked at. -/
def tested (act : State → State) (s : State) : State :=
  { act { s with isTested := true } with isTested := s.isTested }

/-- Runs what is left of a script, line by line. `ran` says whether any command has been run. -/
def runLines (one : Single) : (room : Nat) → (ran : Bool) → Source → State → State
  | 0, _, _, s => s
  | room + 1, ran, source, s =>
      match Reader.next.run.run { source with documents := s.documents } with
      | (.error text, source) =>
          { s with line := source.line }.abort ("Syntax error: " ++ text)
      | (.ok none, _) => if ran then s else { s with code := 0 }
      | (.ok (some commands), source) =>
          let s := { s with documents := source.documents }
          let s := if s.has 'n' then s else runAll one commands s
          if s.isRunning then runLines one room (ran || !commands.isEmpty) source s else s

/-- Runs the text of a script. -/
def runText (one : Single) (text : String) (s : State) : State :=
  runLines one (text.length + 2) false { rest := text.toList } s

/-- Ends a shell: what it is to do at its end is done. -/
def State.finish (one : Single) (s : State) : State :=
  match s.flow, s.traps.lookup 0 with
  | .killed _, _ | _, none => s
  | _, some action =>
      let start := { s with
        flow := .goOn, within := "", traps := s.traps.filter (·.1 ≠ 0), isTested := false }
      let t := runText one action start
      match t.flow with
      | .exit | .killed _ => t
      | _ => { t with code := s.code, flow := .exit }

/-- Runs commands in a shell of their own. -/
def State.apart (one : Single) (act : State → State) (s : State) : State :=
  s.after ((act s.inner).finish one)

/-- Runs the script of an output. -/
def runInner (one : Single) : Runner := fun script s =>
  (runAll one script s).finish one

end DartTriggers.Toolbox.Shell
