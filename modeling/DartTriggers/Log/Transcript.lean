import DartTriggers.Log.Event
/-!
What a run shows, in order: text on its two outputs, events, and the runs of its formatter.
-/

namespace DartTriggers

/-- A piece of what a run shows. -/
inductive Shown where
  /-- Text on the standard output. -/
  | out (text : String)
  /-- Text on the error output. -/
  | err (text : String)
  | event (event : Log.Event)
  /-- The formatter is run on a file. -/
  | formatting (file : Path)
deriving DecidableEq, Repr

/-- What a run shows, first things first. -/
abbrev Transcript := List Shown

namespace Transcript

def ofEvents (events : List Log.Event) : Transcript :=
  events.map .event

/-- All text on the standard output. -/
def out (t : Transcript) : String :=
  String.join (t.filterMap fun
    | .out text => some text
    | _ => none)

/-- All text on the error output. -/
def err (t : Transcript) : String :=
  String.join (t.filterMap fun
    | .err text => some text
    | _ => none)

def events (t : Transcript) : List Log.Event :=
  t.filterMap fun
    | .event event => some event
    | _ => none

/-- The files that the formatter is run on. -/
def formatted (t : Transcript) : List Path :=
  t.filterMap fun
    | .formatting file => some file
    | _ => none

end Transcript

/-- A line on the standard output. -/
def outLine (text : String) : Shown :=
  .out (text ++ "\n")

/-- A line on the error output. -/
def errLine (text : String) : Shown :=
  .err (text ++ "\n")

end DartTriggers
