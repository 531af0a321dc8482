import DartTriggers.Text.Quoted
/-!
Paths as they are written: bytes in which slashes separate parts. Empty parts and single dots say
nothing about where a path leads, but they stay in its text.
-/

namespace DartTriggers

/-- A path as it is written. -/
structure Path where
  bytes : Bytes
deriving DecidableEq, Repr, Inhabited

namespace Path

/-- The byte that separates parts. -/
def slash : UInt8 := 47

/-- The part that stands for the directory it is in. -/
def dot : Bytes := [46]

/-- The part that stands for the directory above. -/
def dotDot : Bytes := [46, 46]

def ofString (s : String) : Path :=
  ⟨Bytes.ofString s⟩

/-- The path as text to show. -/
def display (p : Path) : String :=
  p.bytes.display

/-- The path in quotes. -/
def quoted (p : Path) : String :=
  Text.quotedBytes p.bytes

/-- Cuts at every slash; there is always a last part, which may be empty. -/
def split : Bytes → List Bytes
  | [] => [[]]
  | b :: rest =>
      if b = slash then [] :: split rest
      else
        match split rest with
        | [] => [[b]]
        | part :: parts => (b :: part) :: parts

/-- Puts a slash between parts. -/
def join : List Bytes → Bytes
  | [] => []
  | [part] => part
  | part :: parts => part ++ slash :: join parts

def isAbsolute (p : Path) : Bool :=
  p.bytes.head? == some slash

/-- A part that leads nowhere. -/
def isIdle (part : Bytes) : Bool :=
  part == [] || part == dot

/-- What a path goes through. -/
inductive Component where
  | root
  /-- A dot at the start of a relative path. -/
  | here
  | up
  | name (bytes : Bytes)
deriving DecidableEq, Repr

/-- The component that a part stands for, if it leads somewhere. -/
def componentOf? (part : Bytes) : Option Component :=
  if isIdle part then none
  else if part = dotDot then some .up
  else some (.name part)

/-- What comes before the parts that components are taken from. -/
def anchor (p : Path) : Option Component :=
  if p.isAbsolute then some .root
  else if (split p.bytes).head? = some dot then some .here
  else none

/-- The parts that components are taken from. -/
def parts (p : Path) : List Bytes :=
  if p.anchor.isSome then (split p.bytes).tail else split p.bytes

def components (p : Path) : List Component :=
  p.anchor.toList ++ p.parts.filterMap componentOf?

/-- The last part, if the path ends in a name. -/
def fileName? (p : Path) : Option Bytes :=
  match p.components.getLast? with
  | some (.name bytes) => some bytes
  | _ => none

/-- Drops idle parts from the end. -/
def trimEnd (parts : List Bytes) : List Bytes :=
  (parts.reverse.dropWhile isIdle).reverse

/-- The path of an anchor and some parts. -/
def assemble : Option Component → List Bytes → Path
  | some .root, parts => ⟨slash :: join parts⟩
  | some _, [] => ⟨dot⟩
  | some _, parts => ⟨join (dot :: parts)⟩
  | none, parts => ⟨join parts⟩

/-- The path without its last component; there is none of the root and of the empty path. -/
def parent? (p : Path) : Option Path :=
  match trimEnd p.parts with
  | [] => if p.anchor = some .here then some ⟨[]⟩ else none
  | parts => some (assemble p.anchor (trimEnd parts.dropLast))

/-- The parts after a number of components, from the first that leads somewhere. -/
def dropParts : Nat → List Bytes → List Bytes
  | _, [] => []
  | n, part :: parts =>
      if isIdle part then dropParts n parts
      else
        match n with
        | 0 => part :: parts
        | n + 1 => dropParts n parts

/-- What is left of a path after the components of another one. -/
def relativeTo? (p base : Path) : Option Path :=
  if base.components.isPrefixOf p.components then
    let used := base.parts.filterMap componentOf?
    some ⟨join (trimEnd (dropParts used.length p.parts))⟩
  else none

/-- One path after another: an absolute one replaces what is before it, and a slash is added only
where there is none. -/
def append (p q : Path) : Path :=
  if q.isAbsolute then q
  else if p.bytes.isEmpty ∨ p.bytes.getLast? = some slash then ⟨p.bytes ++ q.bytes⟩
  else ⟨p.bytes ++ slash :: q.bytes⟩

def appendString (p : Path) (s : String) : Path :=
  p.append (ofString s)

end Path

end DartTriggers
