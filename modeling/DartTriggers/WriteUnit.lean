import DartTriggers.Dart.Compile
import DartTriggers.Descriptor.Files
import DartTriggers.Formatter
/-!
Writing a unit: the source is generated and written to `<unit>.g.<extension>` in a directory, and
then the formatter is run on it. Where the file cannot be written nothing is changed, and the
formatter is not run.
-/

namespace DartTriggers

/-- A tree after an attempt, what was shown, and what came of it. -/
structure Attempt (ε α : Type) where
  tree : FileTree
  transcript : Transcript
  result : Except ε α

/-- The file that a unit is written to. -/
def unitFile (options : Options) (unit : UnitName) (dir : Path) : Path :=
  dir.appendString (unit.generatedFile options.extension)

/-- Writes a unit into a directory and runs the formatter on it. -/
def writeUnit (tree : FileTree) (formatter : Formatter) (options : Options) (unit : UnitName)
    (dir : Path) (r : Registry) : Attempt UnitError Path :=
  let file := unitFile options unit dir
  let compiled := Transcript.ofEvents (Dart.compilationEvents options.variant r)
  match tree.writeText file (Dart.generateUnit options unit r) with
  | .error e => ⟨tree, compiled, .error (.file e)⟩
  | .ok written =>
      let formatted := formatter file written
      ⟨formatted.tree,
        compiled ++ [.event (.wroteUnit unit.text r.entities.length file), .formatting file] ++
          formatted.transcript,
        .ok file⟩

end DartTriggers
