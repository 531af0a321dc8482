import DartTriggers.Toolbox.Entries
/-!
Removing files and directories.
-/

namespace DartTriggers.Toolbox

/-- What removing files is asked to do. -/
structure Removal where
  forced : Bool
  /-- Whether it is asked before each file. -/
  asks : Bool
  recursive : Bool
  emptyDirectories : Bool
  verbose : Bool

namespace Removal

/-- Removes a file. -/
def removeFile (r : Removal) (p : Path) (name : String) (isEmpty : Bool) (o : Outcome) :
    Outcome :=
  let kind := if isEmpty then "regular empty file " else "regular file "
  let (o, agreed) := askIf r.asks ("rm: remove " ++ kind ++ quotedName name ++ "? ") o
  if !agreed then o
  else
    let o := dropEntry o p
    if r.verbose then o.say ("removed " ++ quotedName name ++ "\n") else o

/-- Removes a directory if there is nothing in it. -/
def removeEmpty (r : Removal) (p : Path) (name : String) (o : Outcome) : Outcome :=
  match o.tree.node p with
  | .ok (.directory []) =>
      let (o, agreed) := askIf r.asks ("rm: remove directory " ++ quotedName name ++ "? ") o
      if !agreed then o
      else
        let o := dropEntry o p
        if r.verbose then o.say ("removed directory " ++ quotedName name ++ "\n") else o
  | _ => o

/-- Removes a file, or a directory with what is in it. -/
def remove (r : Removal) (s : Setting) : (depth : Nat) → String → Outcome → Outcome
  | 0, _, o => o
  | depth + 1, name, o =>
      let p := s.path name
      let refuse (reason : String) : Outcome :=
        o.complain 1 ("rm: cannot remove " ++ quotedName name ++ ": " ++ reason)
      match o.tree.node p with
      | .error e =>
          if r.forced && (e = .notFound || e = .notDirectory) then o else refuse e.reason
      | .ok (.file content) => r.removeFile p name (content.size = 0) o
      | .ok (.directory entries) =>
          if !r.recursive && !r.emptyDirectories then refuse FileError.isDirectory.reason
          else if baseName name = "." || baseName name = ".." then
            o.complain 1 ("rm: refusing to remove '.' or '..' directory: skipping " ++
              quotedName name)
          else if !r.recursive && !entries.isEmpty then refuse "Directory not empty"
          else
            let (o, agreed) := askIf (r.asks && !entries.isEmpty)
              ("rm: descend into directory " ++ quotedName name ++ "? ") o
            if !agreed then o
            else
              r.removeEmpty p name
                (forEach (fun entry => r.remove s depth (nameIn name entry))
                  (entryNames o.tree p) o)

end Removal

/-- The ways in which a word says how often it is asked. -/
def askingWords : List (String × Char) :=
  [("never", 'n'), ("no", 'n'), ("none", 'n'), ("once", 'I'), ("always", 'i'), ("yes", 'i'),
   ("", 'i')]

/-- The letter of the last option that says how often it is asked. -/
def askingMode (a : Arguments) : Option Char :=
  let modes := a.options.filterMap fun g =>
    if "fiI".toList.contains g.letter then some g.letter
    else if g.letter = '\x01' then askingWords.lookup g.value
    else none
  modes.getLast?

/-- Removes files. -/
def rm : Program :=
  withOptions "rm"
    [⟨'f', ["force"], .nothing⟩, ⟨'i', [], .nothing⟩, ⟨'I', [], .nothing⟩,
     ⟨'\x01', ["interactive"], .maybe⟩, ⟨'r', ["recursive"], .nothing⟩, ⟨'R', [], .nothing⟩,
     ⟨'d', ["dir"], .nothing⟩, ⟨'v', ["verbose"], .nothing⟩, ⟨'\x02', ["preserve-root"], .maybe⟩,
     ⟨'\x03', ["no-preserve-root"], .nothing⟩, ⟨'\x04', ["one-file-system"], .nothing⟩] 1
    fun a s =>
      let mode := askingMode a
      let r : Removal :=
        { forced := mode = some 'f', asks := mode = some 'i', recursive := a.hasAny "rR",
          emptyDirectories := a.has 'd', verbose := a.has 'v' }
      let n := a.operands.length
      if n = 0 && !r.forced then s.start.misused 1 "rm" "missing operand"
      else
        let (o, agreed) := askIf (mode = some 'I' && (3 < n || r.recursive))
          ("rm: remove " ++ toString n ++ (if n = 1 then " argument" else " arguments") ++
            (if r.recursive then " recursively? " else "? ")) s.start
        if agreed then forEach (r.remove s depthLimit) a.operands o else o

/-- Removes a directory that is empty, or says why that cannot be. -/
def removeDirectory (s : Setting) (verbose ignores : Bool) (what name : String) (o : Outcome) :
    Outcome × Bool :=
  let o := if verbose then o.say ("rmdir: removing directory, " ++ quotedName name ++ "\n")
    else o
  let refuse (reason : String) : Outcome × Bool :=
    (o.complain 1 ("rmdir: failed to remove " ++ what ++ quotedName name ++ ": " ++ reason), false)
  match o.tree.node (s.path name) with
  | .ok (.file _) => refuse FileError.notDirectory.reason
  | .error e => refuse e.reason
  | .ok (.directory entries) =>
      if baseName name = "." then refuse "Invalid argument"
      else if !entries.isEmpty || baseName name = ".." then
        if ignores then (o, false) else refuse "Directory not empty"
      else (dropEntry o (s.path name), true)

/-- A name without its last part, if there is more. -/
def nameAbove? (name : String) : Option String :=
  let dropSlashes (s : List Char) : List Char := s.dropWhile (· = '/')
  match dropSlashes ((dropSlashes name.toList.reverse).dropWhile (· ≠ '/')) with
  | [] => none
  | rest => some (.ofList rest.reverse)

/-- Removes a directory and then those above it, as long as they are empty. -/
def removeUpwards (s : Setting) (verbose ignores : Bool) :
    (room : Nat) → (what name : String) → Outcome → Outcome
  | 0, _, _, o => o
  | room + 1, what, name, o =>
      match removeDirectory s verbose ignores what name o, nameAbove? name with
      | (o, true), some above => removeUpwards s verbose ignores room "directory " above o
      | (o, _), _ => o

/-- Removes directories that are empty. -/
def rmdir : Program :=
  withOptions "rmdir"
    [⟨'p', ["parents"], .nothing⟩, ⟨'v', ["verbose"], .nothing⟩,
     ⟨'\x01', ["ignore-fail-on-non-empty"], .nothing⟩] 1 fun a s =>
    if a.operands.isEmpty then s.start.misused 1 "rmdir" "missing operand"
    else
      forEach (fun name o =>
        let room := if a.has 'p' then name.length + 1 else 1
        removeUpwards s (a.has 'v') (a.has '\x01') room "" name o) a.operands s.start

end DartTriggers.Toolbox
