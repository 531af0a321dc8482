/-!
Indented text, written in steps. A step that starts a line puts two blanks for every level before
its text; empty lines and text that goes on are never indented.
-/

namespace DartTriggers.Dart

inductive LayoutStep where
  /-- Text that goes on where the last step ended. -/
  | add (text : String)
  /-- An indented text and the end of its line. -/
  | line (text : String)
  /-- An indented text. -/
  | indented (text : String)
  | blank
  | indent
  /-- One level back, at the outermost level nothing. -/
  | dedent
deriving DecidableEq, Repr

/-- What has been written, and the level of what is to come. -/
structure Layout where
  text : String := ""
  level : Nat := 0
deriving DecidableEq, Repr, Inhabited

namespace Layout

/-- The blanks before a line of a level. -/
def margin (level : Nat) : String :=
  .ofList (List.replicate (2 * level) ' ')

def step (w : Layout) : LayoutStep → Layout
  | .add text => { w with text := w.text ++ text }
  | .line text => { w with text := w.text ++ margin w.level ++ text ++ "\n" }
  | .indented text => { w with text := w.text ++ margin w.level ++ text }
  | .blank => { w with text := w.text ++ "\n" }
  | .indent => { w with level := w.level + 1 }
  | .dedent => { w with level := w.level - 1 }

def run (w : Layout) (steps : List LayoutStep) : Layout :=
  steps.foldl step w

/-- The text of some steps, from the outermost level on. -/
def render (steps : List LayoutStep) : String :=
  (run {} steps).text

end Layout

end DartTriggers.Dart
