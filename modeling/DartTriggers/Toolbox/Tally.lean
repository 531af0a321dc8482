import DartTriggers.Toolbox.Input
import DartTriggers.Toolbox.Pattern
/-!
Counting: how many lines, words and characters there are in texts, and how often lines follow each
other that are the same.
-/

namespace DartTriggers.Toolbox

/-- What is counted in a text. -/
structure Tally where
  lines : Nat := 0
  words : Nat := 0
  chars : Nat := 0
  /-- How many columns the widest line has. -/
  widest : Nat := 0
  /-- The column in the last line, and whether a word has been begun in it. -/
  column : Nat := 0
  inWord : Bool := false

namespace Tally

/-- Ends a word if there is one. -/
def gap (t : Tally) (column : Nat) : Tally :=
  { t with inWord := false, column }

/-- Counts a character. Only what can be seen begins a word. -/
def char (t : Tally) (c : Char) : Tally :=
  let t := { t with chars := t.chars + 1 }
  if c = '\n' || c = '\r' || c = '\x0c' then
    { t.gap 0 with
      lines := if c = '\n' then t.lines + 1 else t.lines
      widest := max t.widest t.column }
  else if c = '\t' then t.gap (t.column + 8 - t.column % 8)
  else if c = ' ' then t.gap (t.column + 1)
  else if c = '\x0b' then t.gap t.column
  else if isShowable c then
    { t with
      column := t.column + 1
      words := if t.inWord then t.words else t.words + 1
      inWord := true }
  else t

/-- What is counted in a whole text. -/
def ofText (text : String) : Tally :=
  let t := text.foldl char {}
  { t with widest := max t.widest t.column }

/-- What is counted in two texts. -/
def add (t u : Tally) : Tally :=
  { lines := t.lines + u.lines, words := t.words + u.words, chars := t.chars + u.chars
    widest := max t.widest u.widest }

/-- The numbers that options ask for. -/
def shown (t : Tally) (a : Arguments) : List Nat :=
  let all := !a.hasAny "cmlwL"
  (if all || a.has 'l' then [t.lines] else []) ++ (if all || a.has 'w' then [t.words] else []) ++
    (if a.has 'm' then [t.chars] else []) ++ (if all || a.has 'c' then [t.chars] else []) ++
    (if a.has 'L' then [t.widest] else [])

/-- Numbers in columns, a name after them. -/
def line (t : Tally) (a : Arguments) (width : Nat) (name : String) : String :=
  let named := if name.isEmpty then "" else " " ++ name
  " ".intercalate ((t.shown a).map (inColumns width)) ++ named ++ "\n"

end Tally

/-- How many columns the numbers take: as many as the sizes of all files together, but seven if
there is something else than files. -/
def tallyWidth (a : Arguments) (s : Setting) : Nat :=
  let names := orInput a.operands
  let size (name : String) : Option Nat :=
    if name = "-" then (if s.readsFile then some s.input.length else none)
    else
      match s.tree.node (s.path name) with
      | .ok (.file content) => some content.size
      | .ok (.directory _) => none
      | .error _ => if (s.path name).bytes = Bytes.ofString nullDevice then none else some 0
  if names.length = 1 && (({} : Tally).shown a).length = 1 then 1
  else
    let sizes := names.map size
    let digits := (toString ((sizes.map (·.getD 0)).foldl (· + ·) 0)).length
    if sizes.contains none then max 7 digits else digits

/-- Counts lines, words and characters. -/
def wc : Program :=
  withOptions "wc"
    [⟨'c', ["bytes"], .nothing⟩, ⟨'m', ["chars"], .nothing⟩, ⟨'l', ["lines"], .nothing⟩,
     ⟨'L', ["max-line-length"], .nothing⟩, ⟨'w', ["words"], .nothing⟩] 1 fun a s =>
    let width := tallyWidth a s
    let title (name : String) : String := if a.operands.isEmpty then "" else name
    let (o, total) := (orInput a.operands).foldl (fun (o, total) name =>
      match readOperand s name o with
      | (o, .ok text) =>
          let t := Tally.ofText text
          (o.say (t.line a width (title name)), total.add t)
      | (o, .error e) =>
          let o := o.complain 1 ("wc: " ++ shownName name ++ ": " ++ e.reason)
          (if e = .isDirectory then o.say (({} : Tally).line a width name) else o, total))
      (s.start, ({} : Tally))
    if 1 < a.operands.length then o.say (total.line a width "total") else o

/-- Which parts of lines have to be the same. -/
structure Sameness where
  anyCase : Bool
  /-- How many fields do not count, and how many characters after them. -/
  fields : Nat
  chars : Nat
  /-- How many characters count at most. -/
  most : Option Nat

namespace Sameness

def isBlank (c : Char) : Bool :=
  c = ' ' || c = '\t' || c = '\n'

/-- What follows some fields, each of which is text with blanks in front of it. -/
def afterFields : Nat → List Char → List Char
  | 0, s => s
  | n + 1, s => afterFields n ((s.dropWhile isBlank).dropWhile (!isBlank ·))

/-- The part of a line that counts. -/
def part (k : Sameness) (line : String) : List Char :=
  let s := (afterFields k.fields line.toList).drop k.chars
  let s := match k.most with
    | some n => s.take n
    | none => s
  if k.anyCase then s.map Char.toUpper else s

/-- Puts lines that are the same and follow each other into groups. -/
def groups (k : Sameness) : List String → List (List String)
  | [] => []
  | line :: rest =>
      match groups k rest with
      | (next :: same) :: more =>
          if k.part line = k.part next then (line :: next :: same) :: more
          else [line] :: (next :: same) :: more
      | more => [line] :: more

end Sameness

/-- The count of an option, or what is wrong with it. -/
def skipCount (a : Arguments) (letter : Char) (what : String) : Except String (Option Nat) :=
  match a.value? letter with
  | none => .ok none
  | some text =>
      match if text.toList.all Char.isDigit then count text else .error .invalid with
      | .ok n => .ok (some n)
      | .error .tooLarge => .ok (some largestCount)
      | .error .invalid => .error (text ++ ": invalid number of " ++ what)

/-- What counts as the same, as options tell. -/
def Sameness.ofArguments (a : Arguments) : Except String Sameness := do
  let fields ← skipCount a 'f' "fields to skip"
  let chars ← skipCount a 's' "bytes to skip"
  let most ← skipCount a 'w' "bytes to compare"
  pure ⟨a.has 'i', fields.getD 0, chars.getD 0, most⟩

/-- What is shown of a group of lines. -/
def groupText (a : Arguments) (mark : Char) (group : List String) : String :=
  let n := group.length
  let isWanted := (!a.hasAny "dD" || 1 < n) && (!a.has 'u' || n = 1)
  let lines := if !isWanted then [] else if a.has 'D' then group else group.take 1
  String.join (lines.map fun line =>
    (if a.has 'c' then inColumns 7 n ++ " " else "") ++ line.push mark)

/-- Leaves out lines that are the same as the one before. -/
def uniq : Program :=
  withOptions "uniq"
    [⟨'c', ["count"], .nothing⟩, ⟨'d', ["repeated"], .nothing⟩, ⟨'D', [], .nothing⟩,
     ⟨'f', ["skip-fields"], .value⟩, ⟨'i', ["ignore-case"], .nothing⟩,
     ⟨'s', ["skip-chars"], .value⟩, ⟨'u', ["unique"], .nothing⟩,
     ⟨'w', ["check-chars"], .value⟩, ⟨'z', ["zero-terminated"], .nothing⟩] 1 fun a s =>
    let complain (o : Outcome) (text : String) : Outcome := o.complain 1 ("uniq: " ++ text)
    let mark := endMark (a.has 'z')
    let name := a.operands.head?.getD "-"
    match Sameness.ofArguments a, a.operands.drop 2 with
    | .error message, _ => complain s.start message
    | _, extra :: _ => s.start.misused 1 "uniq" ("extra operand " ++ quotedWord extra)
    | .ok k, [] =>
        if a.has 'c' && a.has 'D' then
          s.start.misused 1 "uniq"
            "printing all duplicated lines and repeat counts is meaningless"
        else
          match readOperand s name s.start with
          | (o, .error .isDirectory) =>
              complain o ("error reading " ++ quotedName name ++ ": " ++
                FileError.isDirectory.reason)
          | (o, .error e) => complain o (shownName name ++ ": " ++ e.reason)
          | (o, .ok text) =>
              let lines := (piecesOf mark text).map (withoutMark mark)
              let shown := String.join ((k.groups lines).map (groupText a mark))
              match a.operands.drop 1 with
              | [] | ["-"] => o.say shown
              | target :: _ =>
                  match writeText o.tree (s.path target) shown with
                  | .ok tree => { o with tree }
                  | .error e => complain o (shownName target ++ ": " ++ e.reason)

end DartTriggers.Toolbox
