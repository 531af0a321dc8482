import DartTriggers.Toolbox.Pattern
/-!
Scripts of the stream editor: instructions, each with the lines that it is carried out on. They
stand in one sequence; a block reaches up to the instruction that closes it, and jumps lead to
labels.
-/

namespace DartTriggers.Toolbox.Sed

/-- What selects a line. -/
inductive Address where
  | line (number : Nat)
  /-- A line and every so many lines after it. -/
  | every (first step : Nat)
  | last
  /-- The lines in which there is a match; without an expression the one that was used last. -/
  | matching (p : Option Pattern)

/-- Where a range of lines ends. -/
inductive RangeEnd where
  | address (a : Address)
  /-- So many lines after its start. -/
  | after (count : Nat)
  /-- At the next line whose number is a multiple. -/
  | multipleOf (n : Nat)

/-- The lines that an instruction is carried out on. -/
inductive Selection where
  | all
  | each (a : Address)
  | range (start : Address) (stop : RangeEnd)

/-- How letters of a replacement are changed. -/
inductive Case where
  | same
  | lower
  | upper
deriving DecidableEq, Repr

/-- A part of a replacement: some text, and what a group has matched after it. -/
structure Part where
  text : List Char
  case : Case
  /-- How the first letter alone is changed. -/
  first : Option Case
  /-- Group 0 is the whole match. -/
  group : Option Nat

/-- A replacement of matches. -/
structure Substitution where
  /-- Without an expression, the one that was used last. -/
  pattern : Option Pattern
  replacement : List Part
  /-- The number of the first match that is replaced. -/
  nth : Nat := 1
  all : Bool := false
  shows : Bool := false
  /-- Whether the result is run as a command. -/
  runs : Bool := false
  file : Option String := none

inductive Action where
  /-- Does nothing: a label, or the end of a block. -/
  | nothing
  /-- Goes on in a block, which ends at an instruction. -/
  | block (stop : Nat)
  | append (text : String)
  | insert (text : String)
  | change (text : String)
  | delete
  | deleteFirst
  | show
  | showFirst
  | hold
  | holdMore
  | get
  | getMore
  | exchange
  | next
  | nextMore
  | number
  | fileName
  | clear
  | quit (code : Nat)
  | quitSilently (code : Nat)
  /-- Goes on at a label, or at the end. -/
  | jump (label : String)
  /-- Does so if there has been a replacement. -/
  | jumpIf (label : String)
  | jumpUnless (label : String)
  | readFile (name : String)
  /-- Shows a file at once. -/
  | insertFile (name : String)
  | readLine (name : String)
  | writeFile (name : String)
  | writeFirst (name : String)
  | list (width : Option Nat)
  | substitute (s : Substitution)
  | mapChars (pairs : List (Char × Char))
  /-- Runs a command, or the line as one. -/
  | run (command : String)

structure Instruction where
  selection : Selection := .all
  /-- Whether it is carried out on the other lines instead. -/
  negated : Bool := false
  action : Action := .nothing

instance : Inhabited Instruction := ⟨{}⟩

/-- A script that has been read. -/
structure Script where
  instructions : Array Instruction := #[]
  labels : List (String × Nat) := []
  /-- Whether the script asks that lines are not shown at its end. -/
  quiet : Bool := false

/-- The instruction at a label; the end of the script if there is none. -/
def Script.find (s : Script) (label : String) : Nat :=
  (s.labels.lookup label).getD s.instructions.size

end DartTriggers.Toolbox.Sed
