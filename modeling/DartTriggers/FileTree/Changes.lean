import DartTriggers.FileTree.Node
/-!
What has changed below a directory: the directories and files that a tree has there and an
earlier one has not, the files with another content, and what is gone.
-/

namespace DartTriggers

namespace Node

mutual

/-- Everything below a node, each with the names that lead to it. -/
def descendants (here : List Name) : Node → List (List Name × Node)
  | .file _ => []
  | .directory entries => descendantsIn here entries

/-- The entries of a directory and everything below them. -/
def descendantsIn (here : List Name) : List (Name × Node) → List (List Name × Node)
  | [] => []
  | (name, node) :: rest =>
      (here ++ [name], node) :: (descendants (here ++ [name]) node ++ descendantsIn here rest)

end

def content? : Node → Option ByteArray
  | .file content => some content
  | .directory _ => none

/-- The directories below a node. -/
def directoriesBelow (node : Node) : List (List Name) :=
  (node.descendants []).filterMap fun (names, node) =>
    if node.content?.isNone then some names else none

/-- The files below a node, each with its content. -/
def filesBelow (node : Node) : List (List Name × ByteArray) :=
  (node.descendants []).filterMap fun (names, node) =>
    node.content?.map fun content => (names, content)

/-- The content of the file at the end of some names. -/
def contentAt? (node : Node) (names : List Name) : Option ByteArray :=
  (node.find? names).bind content?

/-- The files of a node that an earlier one has not, or with another content. -/
def written (before after : Node) : List (List Name × ByteArray) :=
  after.filesBelow.filter fun (names, content) => before.contentAt? names != some content

/-- The files of an earlier node that are gone. -/
def removed (before after : Node) : List (List Name) :=
  (before.filesBelow.map (·.1)).filter fun names => (after.contentAt? names).isNone

/-- The directories of a node that an earlier one has not. -/
def made (before after : Node) : List (List Name) :=
  after.directoriesBelow.filter fun names => !before.directoriesBelow.contains names

end Node

namespace FileTree

/-- The node at the end of some names, or an empty directory. -/
def directoryAt (t : FileTree) (names : List Name) : Node :=
  (t.find? names).getD (.directory [])

end FileTree

/-- The path of some names, relative to where they start. -/
def Path.ofNames (names : List Name) : Path :=
  ⟨Path.join (names.map (·.bytes))⟩

end DartTriggers
