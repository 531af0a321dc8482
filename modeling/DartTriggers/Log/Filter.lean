import DartTriggers.Log.Event
import DartTriggers.Text.Alphanumeric
/-!
Filters: which events are shown. A filter is a list of directives such as `info` or
`trigger_codegen::output=debug`, divided by commas. Of the directives that concern an event, the
most specific one decides by its threshold. An event that no directive concerns is not shown.
-/

namespace DartTriggers.Log

/-- The level of a name, in any case. -/
def Level.ofName? (name : String) : Option Level :=
  [("error", Level.error), ("warn", .warn), ("info", .info), ("debug", .debug),
    ("trace", .trace)].lookup (name.map Char.toLower)

/-- The least important level that is shown; nothing is shown without one. -/
abbrev Threshold := Option Level

namespace Threshold

/-- The thresholds by number, from nothing to everything. -/
def all : List Threshold :=
  [none, some .error, some .warn, some .info, some .debug, some .trace]

/-- The threshold of a number or a name. -/
def ofText? (text : String) : Option Threshold :=
  let digits := if "+".isPrefixOf text then (text.drop 1).toString else text
  if digits.toList.all Char.isDigit && !digits.isEmpty then
    digits.toNat?.bind fun n => all[n]?
  else if text.map Char.toLower = "off" then some none
  else (Level.ofName? text).map some

def shows (t : Threshold) (level : Level) : Bool :=
  match t with
  | none => false
  | some least => level.rank ≤ least.rank

end Threshold

/-- A condition on a value by its name: that there is one, or that it matches an expression. -/
structure FieldCondition where
  name : String
  value : Option String
deriving DecidableEq, Repr

/-- A directive: the events that it concerns, and the threshold for them. Its parts are written
`target[span\x7bfield=value,…\x7d]=threshold`. -/
structure Directive where
  target : Option String := none
  /-- The activity in which the events have to happen. -/
  span : Option String := none
  fields : List FieldCondition := []
  threshold : Threshold := some .trace
deriving DecidableEq, Repr

namespace Directive

/-- Which part of a directive is being read, and where it starts. -/
inductive Reading where
  | thresholdOrTarget
  | span (start : Nat)
  | field (start : Nat)
  | afterField
  | afterSpan
  | threshold (start : Nat)
deriving DecidableEq, Repr

/-- A directive of which some characters have been read. -/
structure Progress where
  reading : Reading
  made : Directive := {}

/-- The part of a text between two positions in it. -/
def slice (text : Bytes) (start stop : Nat) : Option String :=
  Bytes.text? ((text.take stop).drop start)

/-- Whether an expression for a value can be one: each bracket is closed, each repetition has
something to repeat, and no backslash stands at its end. -/
def isExpression (canRepeat : Bool) (depth : Nat) : List Char → Bool
  | [] => depth = 0
  | '\\' :: _ :: rest => isExpression true depth rest
  | c :: rest =>
      if c = '\\' || c = '\x7b' then false
      else if c = '(' then isExpression false (depth + 1) rest
      else if c = ')' then decide (0 < depth) && isExpression true (depth - 1) rest
      else if c = '|' then isExpression false depth rest
      else if c = '*' || c = '+' || c = '?' then canRepeat && isExpression true depth rest
      else if c = '[' then rest.contains ']' && isExpression true depth rest
      else isExpression true depth rest

/-- A condition from its text. -/
def condition? (text : String) : Option FieldCondition :=
  match text.splitOn "=" with
  | [] | [""] => none
  | [name] => some ⟨name, none⟩
  | name :: value :: _ =>
      if isExpression false 0 value.toList then some ⟨name, some value⟩ else none

/-- Reads the byte at a position. The positions are those in the text without the blanks around
it, but what they enclose is taken from the text with them: a blank before a directive is a part
of its target. -/
def Progress.next (text : Bytes) (p : Progress) (here : Nat) (b : UInt8) : Option Progress :=
  let c := Char.ofNat b.toNat
  let slice (start : Nat) : Option String := slice text start here
  match p.reading with
  | .thresholdOrTarget =>
      if c = '=' then
        (slice 0).map fun target => ⟨.threshold (here + 1), { p.made with target }⟩
      else if c = '[' then
        (slice 0).map fun target => ⟨.span (here + 1), { p.made with target }⟩
      else some p
  | .span start =>
      if c = ']' then
        (slice start).map fun span => ⟨.afterSpan, { p.made with span }⟩
      else if c = '\x7b' then
        (slice start).map fun span =>
          ⟨.field (here + 1), { p.made with span := if span.isEmpty then none else some span }⟩
      else some p
  | .field start =>
      if c = '\x7d' then
        ((slice start).bind condition?).map fun f =>
          ⟨.afterField, { p.made with fields := p.made.fields ++ [f] }⟩
      else some p
  | .afterField => if c = ']' then some { p with reading := .afterSpan } else none
  | .afterSpan => if c = '=' then some { p with reading := .threshold (here + 1) } else none
  | .threshold _ => some p

/-- Reads bytes from a position on. -/
def Progress.run (text : Bytes) (p : Progress) : (here : Nat) → Bytes → Option Progress
  | _, [] => some p
  | here, b :: rest => (p.next text here b).bind fun p => p.run text (here + 1) rest

/-- What has been read when the text ends. -/
def Progress.finish? (text : Bytes) (p : Progress) : Option Directive :=
  let left (start : Nat) : Option String := slice text start text.length
  match p.reading with
  | .thresholdOrTarget =>
      (left 0).map fun all =>
        match Threshold.ofText? all with
        | some threshold => { threshold }
        | none => { target := some all }
  | .threshold start =>
      (left start).bind fun written =>
        if written.isEmpty then some p.made
        else (Threshold.ofText? written).map fun threshold => { p.made with threshold }
  | .afterSpan => some p.made
  | .span _ | .field _ | .afterField => none

/-- The characters that do not count around a directive. -/
def isBlank (c : Char) : Bool :=
  Text.inRanges [(0x9, 0xd), (0x20, 0x20), (0x85, 0x85), (0xa0, 0xa0), (0x1680, 0x1680),
    (0x2000, 0x200a), (0x2028, 0x2029), (0x202f, 0x202f), (0x205f, 0x205f), (0x3000, 0x3000)]
    c.toNat

def withoutBlanks (s : List Char) : List Char :=
  ((s.dropWhile isBlank).reverse.dropWhile isBlank).reverse

/-- Reads a directive. A threshold without anything else holds for all events, and a target without
a threshold shows all of its events. Blanks alone are no directive. -/
def ofText? (text : String) : Option Directive :=
  let bytes := Bytes.ofString text
  let inner := withoutBlanks text.toList
  let read (reading : Reading) (here : Nat) (rest : List Char) : Option Directive :=
    (Progress.run bytes ⟨reading, {}⟩ here (Bytes.ofString (.ofList rest))).bind (·.finish? bytes)
  match inner with
  | [] => none
  | c :: rest =>
      if c = '[' then read (.span 1) 1 rest
      else if c = '-' || c = ':' || c = '_' || Text.isAlphanumeric c then
        read .thresholdOrTarget 0 inner
      else none

/-- Whether a directive concerns events wherever they happen, whatever their values are. -/
def isGeneral (d : Directive) : Bool :=
  d.span.isNone && d.fields.all (·.value.isNone)

/-- Whether a directive concerns an event: the event comes from its target, or from below it, and
has the values that it names. -/
def concerns (d : Directive) (e : Event) : Bool :=
  d.isGeneral && (d.target.all fun target => target.isPrefixOf e.target) &&
    d.fields.all fun f => f.name = "message" || e.fields.any fun (name, _) => name = f.name

/-- How specific a directive is: a target counts before none, a longer one before a shorter one,
then the number of values. -/
def weight (d : Directive) : Nat × Nat :=
  ((d.target.map fun target => target.utf8ByteSize + 1).getD 0, d.fields.length)

/-- Whether a directive decides where another one that stands before it does so too. -/
def decidesOver (d other : Directive) : Bool :=
  let (a, m) := d.weight
  let (b, n) := other.weight
  if a = b then
    if m = n then
      (compare (other.fields.map (·.name)) (d.fields.map (·.name))).isLE
    else decide (n < m)
  else decide (b < a)

end Directive

/-- Directives, first things first. -/
abbrev Filter := List Directive

namespace Filter

/-- Shows what is at least of a level, wherever it comes from. -/
def ofLevel (level : Level) : Filter :=
  [{ threshold := some level }]

/-- The directive that decides on an event. -/
def deciding? (f : Filter) (e : Event) : Option Directive :=
  (f.filter (·.concerns e)).foldl (fun best d =>
    match best with
    | none => some d
    | some b => if d.decidesOver b then some d else best) none

def shows (f : Filter) (e : Event) : Bool :=
  match f.deciding? e with
  | none => false
  | some d => d.threshold.shows e.level

/-- Reads a filter; nothing comes of one with a malformed directive. Errors are shown by one
without directives. -/
def ofText? (text : String) : Option Filter :=
  (((text.splitOn ",").filter (!·.isEmpty)).mapM Directive.ofText?).map fun directives =>
    if directives.isEmpty then ofLevel .error else directives

/-- The filter of a setting; without one that can be read, warnings are shown. -/
def ofSetting (setting : Option String) : Filter :=
  (setting.bind ofText?).getD (ofLevel .warn)

end Filter

end DartTriggers.Log
