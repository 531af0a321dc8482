import DartTriggers.Toolbox.Entries
/-!
Copying and moving files and directories.
-/

namespace DartTriggers.Toolbox

/-- What copying or moving files is asked to do. -/
structure Transfer where
  /-- The name of the program. -/
  name : String
  recursive : Bool
  verbose : Bool
  keepsOld : Bool
  /-- Whether it is asked before a file is replaced. -/
  asks : Bool
  /-- Whether a file that is replaced is kept under another name. -/
  backs : Bool

namespace Transfer

def complain (t : Transfer) (o : Outcome) (text : String) : Outcome :=
  o.complain 1 (t.name ++ ": " ++ text)

/-- Whether two paths lead to the same entry. -/
def isSame (tree : FileTree) (p q : Path) : Bool :=
  match namesAt? tree p, namesAt? tree q with
  | some a, some b => a = b
  | _, _ => false

/-- Whether a path leads into what another one leads to. -/
def isInside (tree : FileTree) (p q : Path) : Bool :=
  match namesAt? tree p, namesAt? tree q with
  | some a, some b => a.isPrefixOf b
  | _, _ => false

/-- Keeps a file that is going to be replaced, under a name with a tilde. -/
def backUp (s : Setting) (target : String) (o : Outcome) : Outcome :=
  match namesAt? o.tree (s.path target), namesAt? o.tree (s.path (target ++ "~")) with
  | some old, some new => { o with tree := (o.tree.remove new).move old new }
  | _, _ => o

/-- What is done before a file is replaced: nothing goes on if it is to be kept. -/
def replacing (t : Transfer) (s : Setting) (target : String) (o : Outcome) : Outcome × Bool :=
  if t.keepsOld then (o, false)
  else
    let (o, agreed) := askIf t.asks (t.name ++ ": overwrite " ++ quotedName target ++ "? ") o
    if !agreed then (o.exit 1, false)
    else (if t.backs then backUp s target o else o, true)

/-- What is said of a file or a directory that has been copied. -/
def copied (t : Transfer) (source target : String) (o : Outcome) : Outcome :=
  if t.verbose then o.say (quotedName source ++ " -> " ++ quotedName target ++ "\n") else o

/-- Copies a file. -/
def copyFile (t : Transfer) (s : Setting) (source target : String) (content : ByteArray)
    (o : Outcome) : Outcome :=
  let q := s.path target
  let write (o : Outcome) : Outcome :=
    match writeText o.tree q (textOf content) with
    | .ok tree => t.copied source target { o with tree }
    | .error e =>
        let reason := if e = .isDirectory then FileError.notDirectory.reason else e.reason
        t.complain o ("cannot create regular file " ++ quotedName target ++ ": " ++ reason)
  match o.tree.node q with
  | .error .notDirectory =>
      t.complain o ("cannot stat " ++ quotedName target ++ ": " ++ FileError.notDirectory.reason)
  | .error _ => write o
  | .ok (.directory _) =>
      t.complain o ("cannot overwrite directory " ++ quotedName target ++ " with non-directory")
  | .ok (.file _) =>
      if isSame o.tree (s.path source) q then
        t.complain o (quotedName source ++ " and " ++ quotedName target ++ " are the same file")
      else
        match t.replacing s target o with
        | (o, true) => write o
        | (o, false) => o

/-- Copies a file, or a directory with what is in it. -/
def copy (t : Transfer) (s : Setting) :
    (depth : Nat) → (source target : String) → Outcome → Outcome
  | 0, _, _, o => o
  | depth + 1, source, target, o =>
      let p := s.path source
      let q := s.path target
      match o.tree.node p with
      | .error e => t.complain o ("cannot stat " ++ quotedName source ++ ": " ++ e.reason)
      | .ok (.file content) => t.copyFile s source target content o
      | .ok (.directory _) =>
          let isFile := match o.tree.node q with
            | .ok (.file _) => true
            | _ => false
          if !t.recursive then
            t.complain o ("-r not specified; omitting directory " ++ quotedName source)
          else if isFile then
            t.complain o ("cannot overwrite non-directory " ++ quotedName target ++
              " with directory " ++ quotedName source)
          else
            match if o.tree.isDirectory q then .ok o.tree else o.tree.makeDirectory q with
            | .error e =>
                t.complain o ("cannot create directory " ++ quotedName target ++ ": " ++ e.reason)
            | .ok tree =>
                if isInside o.tree p q then
                  t.complain { o with tree } ("cannot copy a directory, " ++ quotedName source ++
                    ", into itself, " ++ quotedName target)
                else
                  forEach (fun entry => t.copy s depth (nameIn source entry) (nameIn target entry))
                    (entryNames o.tree p) (t.copied source target { o with tree })

/-- Moves a file or a directory to a path whose directory is there. -/
def moveTo (t : Transfer) (s : Setting) (source target : String) (o : Outcome) : Outcome :=
  match namesAt? o.tree (s.path source), namesAt? o.tree (s.path target) with
  | some old, some new =>
      let o := { o with tree := o.tree.move old new }
      if t.verbose then
        o.say ("renamed " ++ quotedName source ++ " -> " ++ quotedName target ++ "\n")
      else o
  | _, _ =>
      let reason := match o.tree.locate (s.path target) with
        | .error e => e.reason
        | .ok _ => FileError.notFound.reason
      t.complain o ("cannot move " ++ quotedName source ++ " to " ++ quotedName target ++ ": " ++
        reason)

/-- Moves a file or a directory in place of what is there. -/
def moveOnto (t : Transfer) (s : Setting) (source target : String) (isDirectory : Bool)
    (o : Outcome) : Outcome :=
  match o.tree.node (s.path target), isDirectory with
  | .ok (.directory _), false =>
      t.complain o ("cannot overwrite directory " ++ quotedName target ++ " with non-directory")
  | .ok (.file _), true =>
      t.complain o ("cannot overwrite non-directory " ++ quotedName target ++ " with directory " ++
        quotedName source)
  | .ok (.directory (_ :: _)), true =>
      t.complain o ("cannot overwrite " ++ quotedName target ++ ": Directory not empty")
  | _, _ =>
      match t.replacing s target o with
      | (o, true) => t.moveTo s source target o
      | (o, false) => o

/-- Moves a file or a directory. -/
def move (t : Transfer) (s : Setting) (source target : String) (o : Outcome) : Outcome :=
  let p := s.path source
  let q := s.path target
  let failed (reason : String) : Outcome :=
    t.complain o ("cannot move " ++ quotedName source ++ " to " ++ quotedName target ++ reason)
  match o.tree.node p with
  | .error e => t.complain o ("cannot stat " ++ quotedName source ++ ": " ++ e.reason)
  | .ok node =>
      let isDirectory := match node with
        | .directory _ => true
        | .file _ => false
      if baseName source = "." || baseName source = ".." then failed ": Device or resource busy"
      else if isDirectory && isInside o.tree p q then
        t.complain o ("cannot move " ++ quotedName source ++ " to a subdirectory of itself, " ++
          quotedName target)
      else if isSame o.tree p q && o.tree.exists? q then
        t.complain o (quotedName source ++ " and " ++ quotedName target ++ " are the same file")
      else
        match o.tree.node q with
        | .error .notDirectory =>
            t.complain o ("cannot stat " ++ quotedName target ++ ": " ++
              FileError.notDirectory.reason)
        | .error _ =>
            if target.endsWith "/" && !isDirectory then
              failed (": " ++ FileError.notDirectory.reason)
            else t.moveTo s source target o
        | .ok _ => t.moveOnto s source target isDirectory o

/-- Where files are copied or moved to. -/
structure Destination where
  /-- The directory that an option names. -/
  directory : Option String
  /-- Whether the last operand is no directory to put files into. -/
  asFile : Bool

/-- Copies or moves files to the last operand, or into it. -/
def run (t : Transfer) (act : (source target : String) → Outcome → Outcome) (d : Destination)
    (operands : List String) (s : Setting) : Outcome :=
  let misused (text : String) : Outcome := s.start.misused 1 t.name text
  let (sources, target) := match d.directory with
    | some dir => (operands, some dir)
    | none => (operands.dropLast, operands.getLast?)
  match sources, target with
  | [], some only =>
      if d.directory.isSome then misused "missing file operand"
      else misused ("missing destination file operand after " ++ quotedName only)
  | _, none => misused "missing file operand"
  | sources, some target =>
      let intoDirectory := !d.asFile && s.tree.isDirectory (s.path target)
      if d.asFile && 1 < sources.length then
        misused ("extra operand " ++ quotedName (operands[2]?.getD ""))
      else if !intoDirectory && (d.directory.isSome || 1 < sources.length) then
        let reason := if s.tree.exists? (s.path target) then FileError.notDirectory.reason
          else FileError.notFound.reason
        t.complain s.start ((if d.directory.isSome then "target directory " else "target ") ++
          quotedName target ++ ": " ++ reason)
      else
        forEach (fun source =>
          act source (if intoDirectory then nameIn target (baseName source) else target))
          sources s.start

/-- What is asked for by the options that copying and moving have in common. -/
def ofArguments (name : String) (a : Arguments) : Transfer :=
  let mode := a.lastOf? "fin"
  { name, recursive := a.hasAny "arR", verbose := a.has 'v', keepsOld := mode = some 'n'
    asks := mode = some 'i', backs := a.has 'b' }

end Transfer

/-- The options that copying and moving have in common. -/
def transferChoices : List Choice :=
  [⟨'b', ["backup"], .nothing⟩, ⟨'f', ["force"], .nothing⟩, ⟨'i', ["interactive"], .nothing⟩,
   ⟨'n', ["no-clobber"], .nothing⟩, ⟨'t', ["target-directory"], .value⟩,
   ⟨'T', ["no-target-directory"], .nothing⟩, ⟨'u', ["update"], .nothing⟩,
   ⟨'v', ["verbose"], .nothing⟩]

/-- Copies files. -/
def cp : Program :=
  withOptions "cp"
    (transferChoices ++
      [⟨'a', ["archive"], .nothing⟩, ⟨'d', [], .nothing⟩, ⟨'L', ["dereference"], .nothing⟩,
       ⟨'P', ["no-dereference"], .nothing⟩, ⟨'p', [], .nothing⟩, ⟨'\x01', ["preserve"], .maybe⟩,
       ⟨'R', ["recursive"], .nothing⟩, ⟨'r', [], .nothing⟩, ⟨'x', ["one-file-system"], .nothing⟩])
    1 fun a s =>
    let t := Transfer.ofArguments "cp" a
    t.run (t.copy s depthLimit) ⟨a.value? 't', a.has 'T'⟩ a.operands s

/-- Moves files. -/
def mv : Program :=
  withOptions "mv" transferChoices 1 fun a s =>
    let t := Transfer.ofArguments "mv" a
    t.run (t.move s) ⟨a.value? 't', a.has 'T'⟩ a.operands s

end DartTriggers.Toolbox
