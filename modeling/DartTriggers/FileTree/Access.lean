import DartTriggers.FileTree.Node
/-!
Reading and changing a file tree by paths. A path is followed part by part from the root: `..`
leads back to the directory above, every other part but the last has to be a directory, and so has
the last one if a slash follows it.
-/

namespace DartTriggers

/-- Why a path cannot be used as wanted. -/
inductive FileError where
  | notFound
  | alreadyExists
  | notDirectory
  | isDirectory
  | nameTooLong
  | zeroByte
  /-- The content of a file is not UTF-8. -/
  | notText
deriving DecidableEq, Repr

namespace FileError

/-- What is wrong, in the words of the operating system where it is the one that objects. -/
def reason : FileError → String
  | .notFound => "No such file or directory"
  | .alreadyExists => "File exists"
  | .notDirectory => "Not a directory"
  | .isDirectory => "Is a directory"
  | .nameTooLong => "File name too long"
  | .zeroByte => "file name contained an unexpected NUL byte"
  | .notText => "stream did not contain valid UTF-8"

/-- The number that the operating system has for an error. -/
def number? : FileError → Option Nat
  | .notFound => some 2
  | .alreadyExists => some 17
  | .notDirectory => some 20
  | .isDirectory => some 21
  | .nameTooLong => some 36
  | .zeroByte | .notText => none

def message (e : FileError) : String :=
  match e.number? with
  | none => e.reason
  | some number => e.reason ++ " (os error " ++ toString number ++ ")"

end FileError

/-- Where a path leads that is followed up to its last part. -/
inductive Approach where
  /-- A directory, named by the root or by dots. -/
  | directory (names : List Name)
  /-- A last part that stands for an entry of a directory. -/
  | part (parent : List Name) (last : Bytes)

/-- What a path leads to, its last part not yet looked up. -/
inductive Target where
  | directory (names : List Name)
  /-- An entry of a directory, and whether it has to be a directory itself. -/
  | entry (parent : List Name) (name : Name) (asDirectory : Bool)

namespace FileTree

/-- The name that a part stands for. -/
def nameOf (part : Bytes) : Except FileError Name :=
  match Name.ofBytes? part with
  | some name => .ok name
  | none => .error (if 255 < part.length then .nameTooLong else .notFound)

/-- Goes on from a directory through parts that are all directories. -/
def enter (t : FileTree) : List Name → List Bytes → Except FileError (List Name)
  | here, [] => .ok here
  | here, part :: parts =>
      if Path.isIdle part then t.enter here parts
      else if part = Path.dotDot then t.enter here.dropLast parts
      else
        match nameOf part with
        | .error e => .error e
        | .ok name =>
            match t.find? (here ++ [name]) with
            | none => .error .notFound
            | some (.file _) => .error .notDirectory
            | some (.directory _) => t.enter (here ++ [name]) parts

/-- The most bytes that a path may have. -/
def pathLimit : Nat := 4095

/-- Follows a path up to its last part. -/
def approach (t : FileTree) (p : Path) : Except FileError Approach :=
  if p.bytes.contains 0 then .error .zeroByte
  else if p.bytes.isEmpty then .error .notFound
  else if pathLimit < p.bytes.length then .error .nameTooLong
  else
    let parts := (Path.split p.bytes).filter (· ≠ [])
    match parts.getLast? with
    | none => .ok (.directory [])
    | some last =>
        if last = Path.dot ∨ last = Path.dotDot then
          match t.enter [] parts with
          | .error e => .error e
          | .ok names => .ok (.directory names)
        else
          match t.enter [] parts.dropLast with
          | .error e => .error e
          | .ok parent => .ok (.part parent last)

/-- Whether what a path leads to has to be a directory, since a slash follows its last part. -/
def endsInSlash (p : Path) : Bool :=
  p.bytes.getLast? == some Path.slash

/-- Finds out what a path leads to. -/
def locate (t : FileTree) (p : Path) : Except FileError Target :=
  match t.approach p with
  | .error e => .error e
  | .ok (.directory names) => .ok (.directory names)
  | .ok (.part parent last) =>
      match nameOf last with
      | .error e => .error e
      | .ok name => .ok (.entry parent name (endsInSlash p))

/-- The node that a path leads to. -/
def node (t : FileTree) (p : Path) : Except FileError Node :=
  match t.locate p with
  | .error e => .error e
  | .ok (.directory names) =>
      match t.find? names with
      | none => .error .notFound
      | some node => .ok node
  | .ok (.entry parent name asDirectory) =>
      match t.find? (parent ++ [name]) with
      | none => .error .notFound
      | some (.file content) => if asDirectory then .error .notDirectory else .ok (.file content)
      | some (.directory entries) => .ok (.directory entries)

def exists? (t : FileTree) (p : Path) : Bool :=
  (t.node p).toOption.isSome

def isDirectory (t : FileTree) (p : Path) : Bool :=
  match t.node p with
  | .ok (.directory _) => true
  | _ => false

def isFile (t : FileTree) (p : Path) : Bool :=
  match t.node p with
  | .ok (.file _) => true
  | _ => false

/-- The content of a file. -/
def read (t : FileTree) (p : Path) : Except FileError ByteArray :=
  match t.node p with
  | .error e => .error e
  | .ok (.directory _) => .error .isDirectory
  | .ok (.file content) => .ok content

/-- The content of a file that is text. -/
def readText (t : FileTree) (p : Path) : Except FileError String :=
  match t.read p with
  | .error e => .error e
  | .ok content =>
      match String.fromUTF8? content with
      | none => .error .notText
      | some text => .ok text

/-- Writes a file, new or in place of one that is there. A path that ends in a slash is refused
before its last part is looked at. -/
def write (t : FileTree) (p : Path) (content : ByteArray) : Except FileError FileTree :=
  match t.approach p with
  | .error e => .error e
  | .ok (.directory _) => .error .isDirectory
  | .ok (.part parent last) =>
      if endsInSlash p then .error .isDirectory
      else
        match nameOf last with
        | .error e => .error e
        | .ok name =>
            match t.find? (parent ++ [name]) with
            | some (.directory _) => .error .isDirectory
            | _ => .ok (t.putFile (parent ++ [name]) content)

/-- Takes a file away. -/
def removeFile (t : FileTree) (p : Path) : Except FileError FileTree :=
  match t.node p, t.locate p with
  | .error e, _ | _, .error e => .error e
  | .ok (.file _), .ok (.entry parent name _) => .ok (t.remove (parent ++ [name]))
  | _, _ => .error .isDirectory

def writeText (t : FileTree) (p : Path) (text : String) : Except FileError FileTree :=
  t.write p text.toUTF8

/-- Makes a directory in one that is there. -/
def makeDirectory (t : FileTree) (p : Path) : Except FileError FileTree :=
  match t.locate p with
  | .error e => .error e
  | .ok (.directory _) => .error .alreadyExists
  | .ok (.entry parent name _) =>
      match t.find? (parent ++ [name]) with
      | some _ => .error .alreadyExists
      | none => .ok (t.putDirectory (parent ++ [name]))

/-- A path and the paths above it, as long as there are any, the innermost first. -/
def ancestors (p : Path) : (room : Nat) → List Path
  | 0 => []
  | room + 1 =>
      if p.bytes.isEmpty then []
      else
        match p.parent? with
        | none => [p]
        | some above => p :: ancestors above room

/-- Goes up until a directory is there or can be made; gives the tree and the paths left to
make, the outermost first. -/
def climb (t : FileTree) : (left : List Path) → List Path → Except FileError (FileTree × List Path)
  | left, [] => .ok (t, left)
  | left, p :: above =>
      match t.makeDirectory p with
      | .ok t => .ok (t, left)
      | .error .notFound => t.climb (p :: left) above
      | .error e =>
          if e = .alreadyExists ∧ t.isDirectory p then .ok (t, left) else .error e

/-- Makes directories one after the other, where they are not there. -/
def descend (t : FileTree) : List Path → FileTree × Except FileError Unit
  | [] => (t, .ok ())
  | p :: rest =>
      match t.makeDirectory p with
      | .ok t => t.descend rest
      | .error e =>
          if e = .alreadyExists ∧ t.isDirectory p then t.descend rest else (t, .error e)

/-- Makes a directory and all those above it. Where that fails, some may have been made. -/
def makeDirectories (t : FileTree) (p : Path) : FileTree × Except FileError Unit :=
  match t.climb [] (ancestors p (p.bytes.length + 1)) with
  | .error e => (t, .error e)
  | .ok (t, left) => t.descend left

end FileTree

end DartTriggers
