import DartTriggers.Toolbox.Input
/-!
What is in directories, and the questions that are asked before it is changed.
-/

namespace DartTriggers.Toolbox

/-- How deep directories are followed. -/
def depthLimit : Nat := 1000

/-- The names of what is in a directory. -/
def entryNames (tree : FileTree) (p : Path) : List String :=
  match tree.node p with
  | .ok (.directory entries) => entries.map fun e => Bytes.toOctets e.1.bytes
  | _ => []

/-- The names from the root on that a path leads to, whether there is something or not. -/
def namesAt? (tree : FileTree) (p : Path) : Option (List Name) :=
  match tree.locate p with
  | .ok (.directory names) => some names
  | .ok (.entry parent name _) => some (parent ++ [name])
  | .error _ => none

/-- Takes a file or a directory away. -/
def dropEntry (o : Outcome) (p : Path) : Outcome :=
  match o.tree.locate p with
  | .ok (.entry parent name _) => { o with tree := o.tree.remove (parent ++ [name]) }
  | _ => o

/-- The last part of a name. -/
def baseName (name : String) : String :=
  ((name.splitOn "/").filter (!·.isEmpty)).getLast?.getD (if name.isEmpty then "" else "/")

/-- A name in a directory. -/
def nameIn (directory name : String) : String :=
  (if directory.endsWith "/" then directory else directory ++ "/") ++ name

/-- Takes the first line of the input. -/
def takeInputLine (o : Outcome) : Outcome × String :=
  match linesOf o.input with
  | [] => (o, "")
  | line :: rest => ({ o with input := String.join rest }, withoutEnd line)

/-- Asks a question; what starts with a `y` is a yes. -/
def ask (question : String) (o : Outcome) : Outcome × Bool :=
  let (o, answer) := takeInputLine (o.warn question)
  (o, answer.startsWith "y" || answer.startsWith "Y")

/-- Asks a question if it is to be asked; otherwise the answer is yes. -/
def askIf (asks : Bool) (question : String) (o : Outcome) : Outcome × Bool :=
  if asks then ask question o else (o, true)

end DartTriggers.Toolbox
