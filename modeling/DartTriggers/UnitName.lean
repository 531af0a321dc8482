import DartTriggers.FileTree.Path
/-!
Names of units. The unit `models` is the file `models.g.dart`, a part of the library
`models.dart`; it is named after the descriptor `models.trigger.json`.
-/

namespace DartTriggers

/-- The end of the names of descriptor files. -/
def descriptorSuffix : String := ".trigger.json"

/-- The name of the library that a generated file is a part of. -/
structure UnitName where
  text : String
deriving DecidableEq, Repr, Inhabited

namespace UnitName

/-- The file of the library. -/
def libraryFile (u : UnitName) (extension : String) : String :=
  u.text ++ "." ++ extension

/-- The file that is generated. -/
def generatedFile (u : UnitName) (extension : String) : String :=
  u.text ++ ".g." ++ extension

/-- What stands before a suffix. -/
def dropSuffix? (suffix name : List Char) : Option (List Char) :=
  if suffix.isSuffixOf name then some (name.take (name.length - suffix.length)) else none

/-- What stands before the last dot, unless that is nothing. -/
def dropExtension (name : List Char) : List Char :=
  match name.reverse.dropWhile (· ≠ '.') with
  | [] => name
  | _ :: before => if before.isEmpty then name else before.reverse

/-- The name of a file without the suffix of descriptors or, failing that, its extension. -/
def stem (fileName : String) : String :=
  let name := fileName.toList
  .ofList ((dropSuffix? descriptorSuffix.toList name).getD (dropExtension name))

/-- The unit named after the file at the end of a path, if that is text and leaves a name. -/
def ofPath? (p : Path) : Option UnitName :=
  match p.fileName?.bind Bytes.text? with
  | none => none
  | some fileName => if (stem fileName).isEmpty then none else some ⟨stem fileName⟩

/-- The message for a path that names no unit. -/
def noneMessage (p : Path) : String :=
  "Cannot derive a unit name from " ++ p.quoted

end UnitName

end DartTriggers
