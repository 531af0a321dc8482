import DartTriggers.Descriptor.Registration
import DartTriggers.FileTree.Walk
import DartTriggers.UnitName
/-!
Descriptor files: finding them below a directory and loading them.
-/

namespace DartTriggers

/-- Whether a file is taken for a descriptor by its name. -/
def isDescriptorName (fileName : Bytes) : Bool :=
  match fileName.text? with
  | none => false
  | some name => descriptorSuffix.toList.isSuffixOf name.toList

def isDescriptorPath (p : Path) : Bool :=
  match p.fileName? with
  | none => false
  | some fileName => isDescriptorName fileName

namespace FileTree

/-- The descriptors that an input stands for: a file stands for itself, a directory for every
descriptor below it that can be reached by its path, and anything else for nothing. -/
def descriptors? (t : FileTree) (input : Path) : Option (List Path) :=
  match t.node input with
  | .ok (.file _) => some [input]
  | .ok (.directory entries) =>
      some ((Node.filesIn input entries).filter fun p => t.isFile p && isDescriptorPath p)
  | .error _ => none

end FileTree

/-- Why a unit cannot be made. -/
inductive UnitError where
  | file (error : FileError)
  | descriptor (error : Json.ReadError)
  | noUnitName (path : Path)
deriving DecidableEq, Repr

namespace UnitError

def message : UnitError → String
  | .file e => "IO error: " ++ e.message
  | .descriptor e => "Invalid descriptor: " ++ e.message
  | .noUnitName p => UnitName.noneMessage p

end UnitError

namespace Registry

/-- Loads a descriptor file. -/
def load (t : FileTree) (p : Path) : Except UnitError (Logged Registry) :=
  match t.readText p with
  | .error e => .error (.file e)
  | .ok source =>
      match ofText source with
      | .error e => .error (.descriptor e)
      | .ok r => .ok r

end Registry

end DartTriggers
