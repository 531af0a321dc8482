import DartTriggers.Toolbox.Input
/-!
Columns: parts of lines by their places, which are counted in characters or in fields.
-/

namespace DartTriggers.Toolbox

/-- Places from one to another; there may be no last one. -/
structure Span where
  first : Nat
  last : Option Nat
deriving DecidableEq, Repr

namespace Span

def contains (r : Span) (n : Nat) : Bool :=
  r.first ≤ n && r.last.all (n ≤ ·)

/-- Whether two spans have places in common, given that the first one does not start later. -/
def meets (a b : Span) : Bool :=
  a.last.all (b.first ≤ ·)

/-- A span over two that have places in common. -/
def join (a b : Span) : Span :=
  match a.last, b.last with
  | some m, some n => { a with last := some (max m n) }
  | _, _ => { a with last := none }

/-- Joins spans that have places in common; they stand in the order of their starts. -/
def joined : List Span → List Span
  | [] => []
  | [a] => [a]
  | a :: b :: rest =>
      if a.meets b then joined (a.join b :: rest) else a :: joined (b :: rest)
termination_by spans => spans.length

/-- The places from one on that belong to none of some spans. -/
def complement : (start : Nat) → List Span → List Span
  | start, [] => [⟨start, none⟩]
  | start, a :: rest =>
      let gap : List Span := if start < a.first then [⟨start, some (a.first - 1)⟩] else []
      match a.last with
      | none => gap
      | some n => gap ++ complement (n + 1) rest

/-- The part of a list that a span selects. -/
def slice {α : Type} (r : Span) (xs : List α) : List α :=
  let after := xs.drop (r.first - 1)
  match r.last with
  | none => after
  | some n => after.take (n + 1 - r.first)

end Span

/-- What is wrong with how columns are selected. -/
inductive ColumnFault where
  | noList
  | twoLists
  | longMark
  | markWithoutFields
  | dropsWithoutFields
  | noRange
  | emptyRange
  | decreasing
  | zero
  | notNumber (rest : String)
  | tooLarge (digits : String)
deriving DecidableEq, Repr

def ColumnFault.message (byField : Bool) : ColumnFault → String
  | .noList => "you must specify a list of bytes, characters, or fields"
  | .twoLists => "only one list may be specified"
  | .longMark => "the delimiter must be a single character"
  | .markWithoutFields => "an input delimiter may be specified only when operating on fields"
  | .dropsWithoutFields =>
      "suppressing non-delimited lines makes sense\n\tonly when operating on fields"
  | .noRange => if byField then "invalid field range" else "invalid byte or character range"
  | .emptyRange => "invalid range with no endpoint: -"
  | .decreasing => "invalid decreasing range"
  | .zero => if byField then "fields are numbered from 1"
      else "byte/character positions are numbered from 1"
  | .notNumber rest =>
      (if byField then "invalid field value " else "invalid byte/character position ") ++
        quotedWord rest
  | .tooLarge digits =>
      if byField then "field number " ++ quotedWord digits ++ " is too large"
      else "byte/character offset " ++ quotedWord digits ++ " is too large"

/-- Reads the digits at the start of a text; there may be none. -/
def columnNumber (s : List Char) : Except ColumnFault (Option Nat × List Char) :=
  let digits := s.takeWhile Char.isDigit
  if digits.isEmpty then .ok (none, s)
  else if largestCount ≤ valueOf digits then .error (.tooLarge (.ofList digits))
  else .ok (some (valueOf digits), s.drop digits.length)

/-- Reads a span, and what follows it. -/
def readSpan (s : List Char) : Except ColumnFault (Span × List Char) := do
  let (first, rest) ← columnNumber s
  let ends (rest : List Char) : Except ColumnFault Unit :=
    match rest with
    | [] => .ok ()
    | c :: _ =>
        if c = ',' || c = ' ' || c = '\t' then .ok ()
        else if c = '-' then .error .noRange
        else .error (.notNumber (.ofList rest))
  match rest with
  | '-' :: rest =>
      if first = some 0 then .error .zero
      else
        let (last, rest) ← columnNumber rest
        ends rest
        match first, last with
        | none, none => .error .emptyRange
        | some n, none => pure (⟨n, none⟩, rest)
        | first, some m =>
            if m < first.getD 1 then .error .decreasing
            else pure (⟨first.getD 1, some m⟩, rest)
  | rest =>
      ends rest
      match first with
      | none | some 0 => .error .zero
      | some n => pure (⟨n, some n⟩, rest)

/-- Reads spans with commas or blanks between them. -/
def readSpans : (room : Nat) → List Char → Except ColumnFault (List Span)
  | 0, _ => .ok []
  | room + 1, s => do
      let (r, rest) ← readSpan s
      match rest with
      | [] => pure [r]
      | _ :: rest => pure (r :: (← readSpans room rest))

/-- Which columns are shown, and how. -/
structure Columns where
  byField : Bool
  spans : List Span
  /-- The mark between fields. -/
  mark : Char
  /-- What is shown between columns. -/
  between : Option String
  /-- Whether lines without a mark are left out. -/
  drops : Bool

namespace Columns

/-- The first thing that is wrong with the options themselves. -/
def optionFault? : (lists : Nat) → List Given → Option ColumnFault
  | _, [] => none
  | lists, g :: rest =>
      if "bcf".toList.contains g.letter then
        if lists = 0 then optionFault? 1 rest else some .twoLists
      else if g.letter = 'd' && 1 < g.value.length then some .longMark
      else optionFault? lists rest

/-- What is asked for by options. -/
def ofArguments (a : Arguments) : Except ColumnFault Columns :=
  match optionFault? 0 a.options, a.lastOf? "bcf" with
  | some e, _ => .error e
  | none, none => .error .noList
  | none, some letter =>
      let byField := letter = 'f'
      if !byField && a.has 'd' then .error .markWithoutFields
      else if !byField && a.has 's' then .error .dropsWithoutFields
      else
        let list := (a.value? letter).getD ""
        (readSpans (list.length + 1) list.toList).map fun spans =>
          let sorted := spans.mergeSort fun x y => decide (x.first ≤ y.first)
          let spans := Span.joined sorted
          { byField, spans := if a.has '\x01' then Span.complement 1 spans else spans
            mark := match a.value? 'd' with
              | none => '\t'
              | some mark => mark.toList.head?.getD '\x00'
            between := a.value? '\x02', drops := a.has 's' }

/-- The columns of a line. -/
def line (c : Columns) (mark : Char) (line : String) : String :=
  let between := c.between.map fun text => if text.isEmpty then "\x00" else text
  if c.byField then
    let fields := line.splitOn (.singleton c.mark)
    if fields.length ≤ 1 then (if c.drops then "" else line.push mark)
    else
      ((between.getD (.singleton c.mark)).intercalate
        (c.spans.flatMap fun r => r.slice fields)).push mark
  else
    let parts := (c.spans.map fun r => String.ofList (r.slice line.toList)).filter (!·.isEmpty)
    ((between.getD "").intercalate parts).push mark

end Columns

/-- Shows parts of lines. -/
def cut : Program :=
  withOptions "cut"
    [⟨'b', ["bytes"], .value⟩, ⟨'c', ["characters"], .value⟩, ⟨'d', ["delimiter"], .value⟩,
     ⟨'f', ["fields"], .value⟩, ⟨'n', [], .nothing⟩, ⟨'s', ["only-delimited"], .nothing⟩,
     ⟨'z', ["zero-terminated"], .nothing⟩, ⟨'\x01', ["complement"], .nothing⟩,
     ⟨'\x02', ["output-delimiter"], .value⟩] 1 fun a s =>
    match Columns.ofArguments a with
    | .error e => s.start.misused 1 "cut" (e.message (a.lastOf? "bcf" = some 'f'))
    | .ok c =>
        let mark := endMark (a.has 'z')
        eachOperand "cut" s (fun text =>
          String.join ((piecesOf mark text).map fun piece => c.line mark (withoutMark mark piece)))
          a.operands s.start

end DartTriggers.Toolbox
