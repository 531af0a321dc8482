import DartTriggers.Toolbox.Pattern
/-!
Patterns for names: `*` stands for any text, `?` for any character and brackets for one of several.
Characters that are quoted stand for themselves.
-/

namespace DartTriggers.Toolbox

/-- A character of a pattern. -/
structure Glyph where
  char : Char
  isQuoted : Bool
deriving DecidableEq, Repr

namespace Glyph

def isOperator (g : Glyph) : Bool :=
  !g.isQuoted && (g.char = '*' || g.char = '?' || g.char = '[')

def isBare (g : Glyph) (c : Char) : Bool :=
  !g.isQuoted && g.char = c

def text (gs : List Glyph) : String :=
  .ofList (gs.map (·.char))

/-- The ranges of a bracket after its opening, and what follows; nothing if it is not closed. -/
def bracketItems : (room : Nat) → (isFirst : Bool) → List Glyph →
    Option (List (Char × Char) × List Glyph)
  | 0, _, _ => none
  | room + 1, isFirst, gs =>
      match gs with
      | [] => none
      | g :: rest =>
          if g.isBare ']' && !isFirst then some ([], rest)
          else
            let named : Option (List (Char × Char) × List Glyph) :=
              match rest with
              | colon :: more =>
                  if g.isBare '[' && colon.isBare ':' then
                    let name := more.takeWhile fun g => g.char.isAlpha
                    match CharClass.named.lookup (text name), more.drop name.length with
                    | some ranges, c :: d :: left =>
                        if c.char = ':' && d.char = ']' then some (ranges, left) else none
                    | _, _ => none
                  else none
              | [] => none
            let item : List (Char × Char) × List Glyph :=
              match named, rest with
              | some found, _ => found
              | none, dash :: last :: more =>
                  if dash.isBare '-' && !last.isBare ']' then ([(g.char, last.char)], more)
                  else ([(g.char, g.char)], rest)
              | none, _ => ([(g.char, g.char)], rest)
            (bracketItems room false item.2).map fun (ranges, left) => (item.1 ++ ranges, left)

/-- The class of a bracket after its opening, and what follows. -/
def bracketClass? (gs : List Glyph) : Option (CharClass × List Glyph) :=
  let (negated, gs) := match gs with
    | g :: rest => if g.isBare '!' || g.isBare '^' then (true, rest) else (false, gs)
    | [] => (false, [])
  (bracketItems (gs.length + 1) true gs).map fun (ranges, left) => (⟨negated, ranges, false⟩, left)

/-- Whether a pattern matches a whole text. -/
def matchesText : (room : Nat) → List Glyph → List Char → Bool
  | 0, _, _ => false
  | room + 1, gs, s =>
      match gs, s with
      | [], s => s.isEmpty
      | g :: rest, s =>
          if g.isBare '*' then
            matchesText room rest s ||
              (match s with
              | [] => false
              | _ :: s => matchesText room (g :: rest) s)
          else if g.isBare '\\' && !rest.isEmpty then
            match rest, s with
            | h :: rest, c :: s => h.char = c && matchesText room rest s
            | _, _ => false
          else
            match s with
            | [] => false
            | c :: s =>
                if g.isBare '?' then matchesText room rest s
                else
                  match if g.isBare '[' then bracketClass? rest else none with
                  | some (k, left) => k.contains c && matchesText room left s
                  | none => g.char = c && matchesText room rest s

/-- Whether a pattern matches a whole text. -/
def matchesAll (gs : List Glyph) (s : List Char) : Bool :=
  matchesText (gs.length + s.length + 1) gs s

/-- A text without the shortest or the longest beginning that a pattern matches. -/
def dropStart (longest : Bool) (gs : List Glyph) (text : String) : String :=
  let s := text.toList
  let cuts := List.range (s.length + 1)
  let cuts := if longest then cuts.reverse else cuts
  match cuts.find? fun n => matchesAll gs (s.take n) with
  | some n => .ofList (s.drop n)
  | none => text

/-- A text without the shortest or the longest end that a pattern matches. -/
def dropEnd (longest : Bool) (gs : List Glyph) (text : String) : String :=
  let s := text.toList
  let cuts := List.range (s.length + 1)
  let cuts := if longest then cuts else cuts.reverse
  match cuts.find? fun n => matchesAll gs (s.drop n) with
  | some n => .ofList (s.take n)
  | none => text

/-- Cuts a pattern at its slashes. -/
def components : List Glyph → List (List Glyph)
  | [] => [[]]
  | g :: rest =>
      if g.char = '/' then [] :: components rest
      else
        match components rest with
        | [] => [[g]]
        | first :: more => (g :: first) :: more

/-- The names that a pattern stands for, given what is in a directory and whether there is
something of a name. -/
def names (entries : String → List String) (isThere : String → Bool) :
    (start : String) → List (List Glyph) → List String
  | _, [] => []
  | start, part :: more =>
      let found : List String :=
        if part.any (·.isOperator) then
          let hidden := part.head?.any fun g => g.char = '.'
          ((entries start).filter fun name =>
            (hidden || !name.startsWith ".") && matchesAll part name.toList).mergeSort
              fun a b => compare a b != .gt
        else [text (part.filter fun g => !(g.isBare '\\'))]
      found.flatMap fun name =>
        let full := start ++ name
        if more.isEmpty then (if isThere full || full.isEmpty then [full] else [])
        else names entries isThere (full ++ "/") more

end Glyph

end DartTriggers.Toolbox
