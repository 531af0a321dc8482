import DartTriggers.Log.Filter
import DartTriggers.Log.Transcript
/-!
Events as lines of text. A filter says which of them are shown; values stand in a line as they are,
control characters included.
-/

namespace DartTriggers.Log

/-- The name of a level in five columns, at the right. -/
def Level.column (l : Level) : String :=
  .ofList (List.replicate (5 - l.name.length) ' ') ++ l.name

/-- The line of an event, without the time before it. -/
def Event.line (e : Event) : String :=
  e.level.column ++ " " ++ e.target ++ ": " ++ e.message ++
    String.join (e.fields.map fun (name, value) => " " ++ name ++ "=" ++ value) ++ "\n"

/-- The text of an event at a time: a line if the filter shows it, and nothing if not. -/
def Event.lineAt (time : String) (f : Filter) (e : Event) : String :=
  if f.shows e then time ++ " " ++ e.line else ""

end DartTriggers.Log

namespace DartTriggers.Transcript

/-- All text on the error output, with the lines of events among it. -/
def errWithEvents (time : String) (filter : Log.Filter) (t : Transcript) : String :=
  String.join (t.map fun
    | .err text => text
    | .event event => event.lineAt time filter
    | .out _ | .formatting _ => "")

end DartTriggers.Transcript
