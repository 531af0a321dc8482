import DartTriggers.Command.Paint
import DartTriggers.Config
import DartTriggers.WriteUnit
/-!
The command that starts a project: it makes the directory for descriptors, an example in it and a
configuration file. What is there already stays, except that the configuration can be replaced.
-/

namespace DartTriggers.Init

/-- What is asked for. -/
structure Args where
  /-- The directory for descriptors. -/
  srcDir : String := "lib"
  /-- Whether a configuration file that is there is replaced. -/
  force : Bool := false
deriving DecidableEq, Repr, Inhabited

/-- The name of the example. -/
def exampleName : String := "models.trigger.json"

/-- The example: an entity with an attribute of every kind. -/
def exampleContent : String :=
  "\x7b\n" ++
  "  \"entities\": [\n" ++
  "    \x7b\n" ++
  "      \"name\": \"Counter\",\n" ++
  "      \"attributes\": [\n" ++
  "        \x7b \"name\": \"count\", \"type\": \"int\", \"default\": 0 \x7d,\n" ++
  "        \x7b \"name\": \"label\", \"type\": \"str\", \"default\": \"n/a\" \x7d,\n" ++
  "        \x7b \"name\": \"enabled\", \"type\": \"bool\", \"default\": true \x7d,\n" ++
  "        \x7b \"name\": \"note\", \"type\": \"String?\" \x7d\n" ++
  "      ]\n" ++
  "    \x7d\n" ++
  "  ]\n" ++
  "\x7d\n"

/-- A tree after a part of the work, and what was shown, or why it cannot go on. -/
abbrev Work := Attempt FileError Unit

/-- Goes on with more work where there was no error. -/
def andThen (first : Work) (next : FileTree → Work) : Work :=
  match first.result with
  | .error _ => first
  | .ok () =>
      let rest := next first.tree
      { rest with transcript := first.transcript ++ rest.transcript }

/-- Tells that something was made. -/
def created (colored : Bool) (name : String) : Shown :=
  outLine ("  " ++ paint colored [.green] "✓" ++ " Created " ++ name)

/-- Makes the directory for descriptors, if there is nothing of its name. -/
def makeSource (colored : Bool) (args : Args) (dir : Path) (tree : FileTree) : Work :=
  if tree.exists? dir then ⟨tree, [], .ok ()⟩
  else
    match tree.makeDirectories dir with
    | (tree, .error e) => ⟨tree, [], .error e⟩
    | (tree, .ok ()) => ⟨tree, [created colored (args.srcDir ++ "/")], .ok ()⟩

/-- Writes a file and tells so. -/
def writeFile (colored : Bool) (file : Path) (name text : String) (tree : FileTree) : Work :=
  match tree.writeText file text with
  | .error e => ⟨tree, [], .error e⟩
  | .ok tree => ⟨tree, [created colored name], .ok ()⟩

/-- Writes the example, if there is nothing of its name. -/
def writeExample (colored : Bool) (dir : Path) (tree : FileTree) : Work :=
  let file := dir.appendString exampleName
  if tree.exists? file then ⟨tree, [], .ok ()⟩
  else writeFile colored file exampleName exampleContent tree

/-- The configuration of a new project. -/
def configFor (args : Args) : Config :=
  { srcDir := args.srcDir }

/-- What is shown at the end. -/
def closing (colored : Bool) (args : Args) : Transcript :=
  [outLine "", outLine (paint colored [.bold, .green] "✅ Project initialized!"), outLine "",
    outLine "Next steps:",
    outLine ("  1. Edit " ++ args.srcDir ++ "/" ++ exampleName),
    outLine "  2. Run: trigger-gen generate",
    outLine ("  3. Add `part 'models.g.dart';` to " ++ args.srcDir ++ "/models.dart")]

/-- Runs the command. -/
def run (tree : FileTree) (colored : Bool) (cwd : Path) (args : Args) : Work :=
  if tree.exists? (Config.path cwd) && !args.force then
    ⟨tree, [outLine (paint colored [.yellow] "⚠️" ++ " " ++
      paint colored [.brightWhite] Config.fileName ++ " already exists"),
      outLine "Use --force to overwrite"], .ok ()⟩
  else
    let dir := cwd.appendString args.srcDir
    let start : Work :=
      ⟨tree, [outLine (paint colored [.bold, .brightBlue]
        "📝 Initializing trigger generation...")], .ok ()⟩
    let made := andThen start (makeSource colored args dir)
    let illustrated := andThen made (writeExample colored dir)
    let configured := andThen illustrated
      (writeFile colored (Config.path cwd) Config.fileName (configFor args).toJson.pretty)
    andThen configured fun tree => ⟨tree, closing colored args, .ok ()⟩

end DartTriggers.Init
