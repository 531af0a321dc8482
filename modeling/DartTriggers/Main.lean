import DartTriggers.CommandLine.Request
import DartTriggers.FileTree.Changes
import DartTriggers.Toolbox
/-!
The program: the working directory is taken into a tree, the arguments are answered, and what has
changed is written back.
-/

namespace DartTriggers.Program

/-- How deep directories are taken in. -/
def depthLimit : Nat := 64

/-- Takes some entries and what is below them into a tree, under the names that lead there. -/
def gather (names : List Name) : (room : Nat) → List IO.FS.DirEntry → FileTree → IO FileTree
  | 0, _, tree => pure tree
  | room + 1, entries, tree =>
      entries.foldlM (fun tree entry =>
        match Name.ofBytes? (Bytes.ofString entry.fileName) with
        | none => pure tree
        | some name => do
            let here := names ++ [name]
            if ← entry.path.isDir then
              let inner ← entry.path.readDir
              gather here room inner.toList (tree.putDirectory here)
            else
              let content ← IO.FS.readBinFile entry.path
              pure (tree.putFile here content)) tree

/-- Writes back what is different. -/
def writeBack (before after : Node) : IO Unit := do
  let path (names : List Name) : String := (Path.ofNames names).display
  for names in Node.removed before after do
    IO.FS.removeFile (path names)
  for names in (Node.made after before).reverse do
    IO.FS.removeDir (path names)
  for names in Node.made before after do
    IO.FS.createDirAll (path names)
  for (names, content) in Node.written before after do
    IO.FS.writeBinFile (path names) content

/-- The time of an event: the time since the machine was started, in seconds. -/
def timeText : IO String := do
  let now ← IO.monoMsNow
  let fraction := toString (1000 + now % 1000)
  pure (toString (now / 1000) ++ "." ++ (fraction.drop 1).toString ++ "s")

/-- Answers some arguments in the working directory. -/
def run (args : List String) : IO UInt32 := do
  let here ← IO.currentDir
  let cwd := Path.ofString here.toString
  let names := (Path.split cwd.bytes).filterMap Name.ofBytes?
  let (empty, _) := FileTree.empty.makeDirectories cwd
  let entries ← here.readDir
  let tree ← gather names depthLimit entries.toList empty
  let setting : CommandLine.Setting :=
    { tree
      cwd
      runner := Toolbox.runner cwd
      colored := (← IO.getEnv "NO_COLOR").isNone && (← (← IO.getStdout).isTty)
      time := ← timeText
      filter := Log.Filter.ofSetting (← IO.getEnv "RUST_LOG") }
  let answer := CommandLine.answer setting args
  writeBack (tree.directoryAt names) (answer.tree.directoryAt names)
  (← IO.getStdout).putStr answer.out
  (← IO.getStderr).putStr answer.err
  pure (UInt32.ofNat answer.code)

end DartTriggers.Program

def main (args : List String) : IO UInt32 :=
  DartTriggers.Program.run args
