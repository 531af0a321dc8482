import DartTriggers.Toolbox.Entries
/-!
Listing files and what is in directories, one name in a line.
-/

namespace DartTriggers.Toolbox

/-- How names are listed. -/
structure Listing where
  /-- Whether names that start with a dot are listed, and the two that are dots alone. -/
  hidden : Bool
  dots : Bool
  /-- Whether names that end in a tilde are left out. -/
  dropsBackups : Bool
  reversed : Bool
  bySize : Bool
  /-- Whether directories stand for themselves. -/
  asEntries : Bool
  recursive : Bool
  /-- Whether directories are marked with a slash. -/
  marks : Bool
  quotes : Bool
  /-- Whether names stand in one line, with commas. -/
  commas : Bool

namespace Listing

/-- The size of a file. -/
def size (s : Setting) (name : String) : Nat :=
  match s.tree.node (s.path name) with
  | .ok (.file content) => content.size
  | _ => 4096

/-- Puts names in order, given where they stand. -/
def order (l : Listing) (s : Setting) (place : String → String) (names : List String) :
    List String :=
  let byName (x y : String) : Ordering := compare x y
  let bySize (x y : String) : Ordering :=
    (compare (size s (place y)) (size s (place x))).then (byName x y)
  let sorted := names.mergeSort fun x y => (if l.bySize then bySize x y else byName x y) != .gt
  if l.reversed then sorted.reverse else sorted

/-- A name as it is listed. -/
def shown (l : Listing) (s : Setting) (place name : String) : String :=
  let text := if l.quotes then
      "\"" ++ ((name.replace "\\" "\\\\").replace "\"" "\\\"") ++ "\""
    else name
  text ++ (if l.marks && s.tree.isDirectory (s.path place) then "/" else "")

/-- Names, one in a line or all in one. -/
def lines (l : Listing) (names : List String) : String :=
  if names.isEmpty then ""
  else if l.commas then ", ".intercalate names ++ "\n"
  else String.join (names.map (· ++ "\n"))

/-- The names in a directory that are listed, in order. -/
def entries (l : Listing) (s : Setting) (directory : String) : List String :=
  let names := (entryNames s.tree (s.path directory)).filter fun name =>
    (l.hidden || !name.startsWith ".") && !(l.dropsBackups && name.endsWith "~")
  l.order s (nameIn directory) ((if l.dots then [".", ".."] else []) ++ names)

/-- What is in a directory, and in those in it if they are listed too. -/
def directory (l : Listing) (s : Setting) (titled : Bool) :
    (depth : Nat) → (isFirst : Bool) → String → String
  | 0, _, _ => ""
  | depth + 1, isFirst, name =>
      let title := if titled then (if isFirst then "" else "\n") ++ name ++ ":\n" else ""
      let names := l.entries s name
      let below := names.filter fun e =>
        e ≠ "." && e ≠ ".." && s.tree.isDirectory (s.path (nameIn name e))
      title ++ l.lines (names.map fun e => l.shown s (nameIn name e) e) ++
        (if l.recursive then
          String.join (below.map fun e => l.directory s titled depth false (nameIn name e))
        else "")

/-- How names are listed, as options tell. -/
def ofArguments (a : Arguments) : Listing :=
  { hidden := a.hasAny "aA", dots := a.lastOf? "aA" = some 'a', dropsBackups := a.has 'B'
    reversed := a.has 'r', bySize := a.has 'S', asEntries := a.has 'd', recursive := a.has 'R'
    marks := a.hasAny "Fp", quotes := a.has 'Q', commas := a.has 'm' }

end Listing

/-- Shows the names of files and of what is in directories. -/
def ls : Program :=
  withOptions "ls"
    ([⟨'a', ["all"], .nothing⟩, ⟨'A', ["almost-all"], .nothing⟩,
      ⟨'B', ["ignore-backups"], .nothing⟩, ⟨'d', ["directory"], .nothing⟩,
      ⟨'F', ["classify"], .nothing⟩, ⟨'N', ["literal"], .nothing⟩,
      ⟨'Q', ["quote-name"], .nothing⟩, ⟨'r', ["reverse"], .nothing⟩,
      ⟨'R', ["recursive"], .nothing⟩, ⟨'\x01', ["color"], .maybe⟩] ++
      "1mpSUkbqvXt".toList.map fun c => ⟨c, [], .nothing⟩) 2 fun a s =>
    let l := Listing.ofArguments a
    let names := orInput a.operands |>.map fun name => if a.operands.isEmpty then "." else name
    let o := forEach (fun name o =>
      match s.tree.node (s.path name) with
      | .ok _ => o
      | .error e => o.complain 2 ("ls: cannot access " ++ quotedName name ++ ": " ++ e.reason))
      names s.start
    let there := names.filter fun name => s.tree.exists? (s.path name)
    let isListed (name : String) : Bool := !l.asEntries && s.tree.isDirectory (s.path name)
    let plain := l.order s id (there.filter (!isListed ·))
    let o := o.say (l.lines (plain.map fun name => l.shown s name name))
    let titled := 1 < names.length || l.recursive
    ((l.order s id (there.filter isListed)).foldl (fun (o, isFirst) name =>
      (o.say (l.directory s titled depthLimit isFirst name), false)) (o, plain.isEmpty)).1

end DartTriggers.Toolbox
