import DartTriggers.FileTree.Access
/-!
Walking a file tree: the files below a directory, depth first, the entries of every directory in
byte order, each under the path of the directory it was reached through.
-/

namespace DartTriggers

/-- The path of an entry of a directory. -/
def Path.entry (p : Path) (name : Name) : Path :=
  p.append ⟨name.bytes⟩

namespace Node

mutual

/-- The files at and below a node that stands at a path. -/
def files (p : Path) : Node → List Path
  | .file _ => [p]
  | .directory entries => filesIn p entries

/-- The files at and below the entries of a directory. -/
def filesIn (p : Path) : List (Name × Node) → List Path
  | [] => []
  | (name, node) :: rest => files (p.entry name) node ++ filesIn p rest

end

end Node

end DartTriggers
