import DartTriggers.Toolbox.Pattern
/-!
Reading regular expressions. There are two ways of writing them: in basic expressions the operators
`( ) \x7b \x7d | + ?` have a backslash before them, in extended ones they have none. A text that
is no expression has a fault.
-/

namespace DartTriggers.Toolbox

/-- What is wrong with the text of an expression. -/
inductive PatternFault where
  | openBracket
  | unknownClass
  | emptyRange
  | openGroup
  | strayClose
  | openBounds
  | badBounds
  | nothingToRepeat
  | noSuchGroup
  | trailingBackslash
  | tooBig
  | badCollation
  | nothingInBracket
deriving DecidableEq, Repr

namespace PatternFault

def message : PatternFault → String
  | .openBracket => "Unmatched [, [^, [:, [., or [="
  | .unknownClass => "Invalid character class name"
  | .emptyRange => "Invalid range end"
  | .openGroup => "Unmatched ( or \\("
  | .strayClose => "Unmatched ) or \\)"
  | .openBounds => "Unmatched \\\x7b"
  | .badBounds => "Invalid content of \\\x7b\\\x7d"
  | .nothingToRepeat => "Invalid preceding regular expression"
  | .noSuchGroup => "Invalid back reference"
  | .trailingBackslash => "Trailing backslash"
  | .tooBig => "Regular expression too big"
  | .badCollation => "Invalid collation character"
  | .nothingInBracket => "Invalid regular expression"

end PatternFault

namespace Pattern

/-- How expressions are read. -/
structure Reading where
  extended : Bool := false
  anyCase : Bool := false
  /-- Whether the ends of lines inside the text count, which then belong to no class that is
  given by what it leaves out. -/
  byLine : Bool := false
  /-- Whether operators without anything to work on do no harm. -/
  lenient : Bool := false

/-- A symbol of a written expression. -/
inductive Symbol where
  /-- A character, or an operator that can stand for itself. -/
  | char (c : Char)
  | set (k : CharClass)
  | again (index : Nat)
  | opening
  | closing
  | bar
  | times (least : Nat) (most : Option Nat) (written : Char)
  | openBounds
  | closeBounds
  | bracket
  | edge (e : Edge)
  | backslash
  | finish
deriving DecidableEq, Repr

/-- The symbols of letters after a backslash. -/
def letterSymbols : List (Char × Symbol) :=
  [('w', .set ⟨false, CharClass.word, false⟩), ('W', .set ⟨true, CharClass.word, false⟩),
   ('s', .set ⟨false, CharClass.space, false⟩), ('S', .set ⟨true, CharClass.space, false⟩),
   ('<', .edge .wordStart), ('>', .edge .wordEnd), ('b', .edge .wordEdge),
   ('B', .edge .noWordEdge), ('\x60', .edge .textStart), ('\'', .edge .textEnd)]

/-- The operators that have a backslash before them in basic expressions alone. -/
def operators : List (Char × Symbol) :=
  [('(', .opening), (')', .closing), ('|', .bar), ('+', .times 1 none '+'),
   ('?', .times 0 (some 1) '?'), ('\x7b', .openBounds), ('\x7d', .closeBounds)]

/-- The class of a dot. -/
def Reading.dot (r : Reading) : CharClass :=
  if r.byLine then ⟨true, [('\n', '\n')], false⟩ else .any

/-- A character as a class. -/
def Reading.exactly (r : Reading) (c : Char) : CharClass :=
  { CharClass.exactly c with anyCase := r.anyCase }

/-- The symbol at the start of a text, and the text after it. Whether a caret stands for the start
of a line hangs on what is before it, a dollar sign on what follows. -/
def symbolAt (r : Reading) (caretHolds : Bool) : List Char → Symbol × List Char
  | [] => (.finish, [])
  | '\\' :: [] => (.backslash, [])
  | '\\' :: c :: rest =>
      if '1' ≤ c ∧ c ≤ '9' then (.again (c.toNat - 48), rest)
      else
        match letterSymbols.lookup c with
        | some s => (s, rest)
        | none =>
            match if r.extended then none else operators.lookup c with
            | some s => (s, rest)
            | none => (.char c, rest)
  | c :: rest =>
      if c = '*' then (.times 0 none '*', rest)
      else if c = '[' then (.bracket, rest)
      else if c = '.' then (.set r.dot, rest)
      else if c = '^' then
        if r.extended || caretHolds then
          (.edge (if r.byLine then .lineStart else .textStart), rest)
        else (.char c, rest)
      else if c = '$' then
        let closes := match rest with
          | [] => true
          | '\\' :: d :: _ => d = ')' || d = '|'
          | _ => false
        if r.extended || closes then (.edge (if r.byLine then .lineEnd else .textEnd), rest)
        else (.char c, rest)
      else
        match if r.extended then operators.lookup c else none with
        | some s => (s, rest)
        | none => (.char c, rest)

/-- An item of a bracket expression: a character, a named class, or a character given by its
name. -/
inductive Item where
  | char (c : Char)
  | ranges (rs : List (Char × Char))
deriving Repr

/-- The text between marks such as `[:` and `:]`, and what follows. -/
def enclosed (mark : Char) : List Char → Option (List Char × List Char)
  | [] => none
  | [_] => none
  | c :: d :: rest =>
      if c = mark && d = ']' then some ([], rest)
      else (enclosed mark (d :: rest)).map fun (text, left) => (c :: text, left)

/-- Reads an item; the text does not start with a closing bracket that ends the expression. -/
def item : List Char → Except PatternFault (Item × List Char)
  | [] => .error .openBracket
  | '[' :: mark :: rest =>
      if mark = ':' then
        match enclosed mark rest with
        | none => .error .openBracket
        | some (name, left) =>
            match CharClass.named.lookup (.ofList name) with
            | none => .error .unknownClass
            | some rs => .ok (.ranges rs, left)
      else if mark = '.' || mark = '=' then
        match enclosed mark rest with
        | none => .error .openBracket
        | some ([c], left) => .ok (.char c, left)
        | some _ => .error .badCollation
      else .ok (.char '[', mark :: rest)
  | c :: rest => .ok (.char c, rest)

/-- A dash that stands neither first nor last, and between no two characters. -/
def isStrayDash (first : Bool) (i : Item) (rest : List Char) : Bool :=
  match i with
  | .char c => !first && c = '-' && rest.head? != some ']'
  | .ranges _ => false

/-- Reads an item or a range. -/
def element (first : Bool) (s : List Char) :
    Except PatternFault (List (Char × Char) × List Char) :=
  match item s with
  | .error e => .error e
  | .ok (start, rest) =>
      let single : List (Char × Char) := match start with
        | .char c => [(c, c)]
        | .ranges named => named
      if isStrayDash first start rest then .error .emptyRange
      else
        match rest with
        | '-' :: ']' :: _ => .ok (single, rest)
        | '-' :: rest =>
            match start, item rest with
            | _, .error e => .error e
            | .char a, .ok (.char b, rest) =>
                if b < a then .error .emptyRange else .ok ([(a, b)], rest)
            | _, .ok _ => .error .emptyRange
        | _ => .ok (single, rest)

/-- Reads the items of a bracket expression up to its end. -/
def elements : (room : Nat) → (first : Bool) → List Char →
    Except PatternFault (List (Char × Char) × List Char)
  | 0, _, _ => .error .openBracket
  | room + 1, first, s =>
      if s.head? = some ']' && !first then .ok ([], s.tail)
      else
        match element first s with
        | .error e => .error e
        | .ok (ranges, rest) =>
            match elements room false rest with
            | .error e => .error e
            | .ok (more, left) => .ok (ranges ++ more, left)

/-- Whether the inside of a bracket expression looks like a named class without the brackets around
it. -/
def isNaked (inner : List Char) : Bool :=
  let name := inner.takeWhile (· ≠ ']')
  decide (2 < name.length) && name.head? == some ':' && name.getLast? == some ':' &&
    name.any (· ≠ ':') && !name.contains '-' && !name.contains '['

/-- Reads a bracket expression after its opening bracket. -/
def Reading.bracket (r : Reading) (negated : Bool) (inner : List Char) :
    Except PatternFault (CharClass × List Char) :=
  let read := if inner.isEmpty then .error .nothingInBracket
    else elements (inner.length + 1) true inner
  match read with
  | .error e => .error e
  | .ok (ranges, left) =>
      let ranges := if negated && r.byLine then ('\n', '\n') :: ranges else ranges
      .ok (⟨negated, ranges, r.anyCase⟩, left)

/-- A text that is being read: the symbol in front, and the text after it. -/
structure Source where
  symbol : Symbol
  rest : List Char
  /-- How many groups have been opened. -/
  opened : Nat := 0
  /-- The groups that have been closed. -/
  closed : List Nat := []
  /-- Whether there has been a named class without the brackets around it. -/
  naked : Bool := false
  /-- The operators that have been passed over, the last one first. -/
  idle : List String := []

def Source.next (r : Reading) (caretHolds : Bool) (s : Source) : Source :=
  let (symbol, rest) := symbolAt r caretHolds s.rest
  { s with symbol, rest }

/-- The most repetitions that can be asked for. -/
def repetitionLimit : Nat := 32767

/-- Bounds such as `2`, `2,`, `,5` and `2,5`. -/
def bounds? (s : List Char) : Except PatternFault (Nat × Option Nat) :=
  let number (digits : List Char) : Option Nat :=
    if digits.isEmpty then none else (String.ofList digits).toNat?
  let least := s.takeWhile Char.isDigit
  match s.drop least.length with
  | [] =>
      match number least with
      | none => .error .badBounds
      | some n => if repetitionLimit < n then .error .tooBig else .ok (n, some n)
  | ',' :: most =>
      let n := (number least).getD 0
      if !most.all Char.isDigit then .error .badBounds
      else
        match number most with
        | none => if repetitionLimit < n then .error .tooBig else .ok (n, none)
        | some m =>
            if m < n then .error .badBounds
            else if repetitionLimit < m then .error .tooBig
            else .ok (n, some m)
  | _ => .error .badBounds

/-- The text up to the end of bounds, and what follows. -/
def upToClose (extended : Bool) : List Char → Option (List Char × List Char)
  | [] => none
  | '\\' :: c :: rest =>
      if c = '\x7d' && !extended then some ([], rest)
      else (upToClose extended rest).map fun (text, left) => ('\\' :: c :: text, left)
  | c :: rest =>
      if c = '\x7d' && extended then some ([], rest)
      else (upToClose extended rest).map fun (text, left) => (c :: text, left)

/-- Whether the inside of bounds is made of numbers. -/
def isBounds (inside : List Char) : Bool :=
  match inside.dropWhile Char.isDigit with
  | [] => !inside.isEmpty
  | ',' :: most => most.all Char.isDigit
  | _ => false

/-- The bounds after their opening operator, and what follows. Extended expressions that are read
leniently have none where there are no numbers. -/
def Reading.boundsAt? (r : Reading) (s : List Char) :
    Option (Except PatternFault ((Nat × Option Nat) × List Char)) :=
  match upToClose r.extended s with
  | none => if r.lenient && r.extended then none else some (.error .openBounds)
  | some (inside, left) =>
      if r.lenient && r.extended && !isBounds inside then none
      else some ((bounds? inside).map fun found => (found, left))

/-- Repetition of an expression. -/
def repeat' (p : Pattern) (least : Nat) (most : Option Nat) : Pattern :=
  if most = some 0 then .empty else .repeated p least most

/-- Reads the repetitions after an expression. -/
def Reading.repetitions (r : Reading) :
    (room : Nat) → Pattern → Source → Except PatternFault (Pattern × Source)
  | 0, p, s => .ok (p, s)
  | room + 1, p, s =>
      let goOn (least : Nat) (most : Option Nat) (s : Source) :
          Except PatternFault (Pattern × Source) :=
        let repeats := match s.symbol with
          | .times _ _ '*' | .openBounds => true
          | _ => false
        if repeats && !r.extended && !r.lenient then .error .nothingToRepeat
        else r.repetitions room (repeat' p least most) s
      match s.symbol with
      | .times least most _ => goOn least most (s.next r false)
      | .openBounds =>
          match r.boundsAt? s.rest with
          | none => .ok (p, { s with symbol := .char '\x7b' })
          | some (.error e) => .error e
          | some (.ok ((least, most), left)) =>
              goOn least most ({ s with rest := left }.next r false)
      | _ => .ok (p, s)

/-- Reads one expression with its repetitions; `inner` reads what stands in a group. -/
def Reading.expression (r : Reading)
    (inner : (depth : Nat) → Source → Except PatternFault (Pattern × Source)) (depth : Nat)
    (s : Source) : Except PatternFault (Pattern × Source) :=
  let repeated (p : Pattern) (s : Source) : Except PatternFault (Pattern × Source) :=
    r.repetitions (s.rest.length + 2) p s
  let itself (c : Char) : Except PatternFault (Pattern × Source) :=
    repeated (.char (r.exactly c)) (s.next r false)
  match s.symbol with
  | .char c => itself c
  | .set k => repeated (.char k) (s.next r false)
  | .again index =>
      if s.closed.contains index then repeated (.again index r.anyCase) (s.next r false)
      else .error .noSuchGroup
  | .bracket =>
      let (negated, inner) := match s.rest with
        | '^' :: inner => (true, inner)
        | inner => (false, inner)
      match r.bracket negated inner with
      | .error e => .error e
      | .ok (k, rest) =>
          repeated (.char k) ({ s with rest, naked := s.naked || isNaked inner }.next r false)
  | .edge e => .ok (.edge e, s.next r false)
  | .opening =>
      let index := s.opened + 1
      let opened := { s with opened := index }.next r true
      let body := if opened.symbol = .closing then .ok (.empty, opened)
        else inner (depth + 1) opened
      match body with
      | .error e => .error e
      | .ok (p, s) =>
          if s.symbol = .closing then
            repeated (.group index p) ({ s with closed := index :: s.closed }.next r false)
          else .error .openGroup
  | .closing => if r.lenient && r.extended then itself ')' else .error .strayClose
  | .times _ _ written =>
      if !r.extended then itself written
      else if r.lenient then
        .ok (.empty, { s with idle := .singleton written :: s.idle }.next r false)
      else .error .nothingToRepeat
  | .openBounds =>
      if !r.lenient then .error .nothingToRepeat
      else if !r.extended then itself '\x7b'
      else
        match r.boundsAt? s.rest with
        | none => itself '\x7b'
        | some (.error e) => .error e
        | some (.ok (_, left)) =>
            .ok (.empty, { s with rest := left, idle := "\x7b...\x7d" :: s.idle }.next r false)
  | .closeBounds => itself '\x7d'
  | .backslash => .error .trailingBackslash
  | .bar | .finish => .ok (.empty, s)

/-- Whether a sequence ends before a symbol. -/
def endsSequence (depth : Nat) (s : Symbol) : Bool :=
  s = .bar || s = .finish || (s = .closing && 0 < depth)

/-- Reads expressions that follow each other. -/
def Reading.sequence (r : Reading)
    (inner : (depth : Nat) → Source → Except PatternFault (Pattern × Source)) (depth : Nat) :
    (room : Nat) → Source → Except PatternFault (Pattern × Source)
  | 0, s => .ok (.empty, s)
  | room + 1, s =>
      match r.expression inner depth s with
      | .error e => .error e
      | .ok (p, s) =>
          if endsSequence depth s.symbol then .ok (p, s)
          else
            match r.sequence inner depth room s with
            | .error e => .error e
            | .ok (q, s) => .ok (.append p q, s)

/-- Reads choices divided by bars. -/
def Reading.choices (r : Reading)
    (inner : (depth : Nat) → Source → Except PatternFault (Pattern × Source)) (depth : Nat) :
    (room : Nat) → Source → Except PatternFault (Pattern × Source)
  | 0, s => .ok (.empty, s)
  | room + 1, s =>
      let branch := if endsSequence depth s.symbol then .ok (.empty, s)
        else r.sequence inner depth (s.rest.length + 2) s
      match branch with
      | .error e => .error e
      | .ok (p, s) =>
          if s.symbol = .bar then
            match r.choices inner depth room (s.next r true) with
            | .error e => .error e
            | .ok (q, s) => .ok (.either p q, s)
          else .ok (p, s)

/-- Reads an expression in which groups are nested no deeper than there is room. -/
def Reading.nested (r : Reading) :
    (room depth : Nat) → Source → Except PatternFault (Pattern × Source)
  | 0, _, _ => .error .tooBig
  | room + 1, depth, s => r.choices (r.nested room) depth (s.rest.length + 2) s

/-- An expression that has been read. -/
structure Written where
  pattern : Pattern
  /-- How many groups it has. -/
  groups : Nat
  /-- Whether a named class without the brackets around it stands in it. -/
  naked : Bool
  /-- The operators in it that have nothing to work on. -/
  idle : List String

/-- Reads a written expression. -/
def Reading.pattern (r : Reading) (text : List Char) : Except PatternFault Written :=
  let (symbol, rest) := symbolAt r true text
  match r.nested (text.length + 1) 0 { symbol, rest } with
  | .error e => .error e
  | .ok (p, s) => .ok ⟨p, s.opened, s.naked, s.idle.reverse⟩

end Pattern

end DartTriggers.Toolbox
