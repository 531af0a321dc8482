import DartTriggers.Toolbox.Input
import DartTriggers.Toolbox.Pattern
import DartTriggers.Toolbox.Printf
/-!
Replacing, dropping and squeezing characters. The characters are listed in arrays, which are written
with ranges, named classes and repetitions.
-/

namespace DartTriggers.Toolbox.CharMap

/-- A character of a written array; an escaped one stands for nothing but itself. -/
structure Glyph where
  char : Char
  isEscaped : Bool
deriving DecidableEq, Repr

/-- What is said of an array that can be read all the same. -/
inductive Warning where
  | ambiguousOctal (digits : String) (first second : Char)
  | openBackslash
deriving DecidableEq, Repr

def Warning.message : Warning → String
  | .ambiguousOctal digits first second =>
      "warning: the ambiguous octal escape \\" ++ digits ++ " is being\n\tinterpreted as the " ++
        "2-byte sequence \\" ++ .ofList (octalDigits first) ++ ", " ++ .singleton second
  | .openBackslash => "warning: an unescaped backslash at end of string is not portable"

/-- Replaces the escapes of a written array. -/
def glyphs : (room : Nat) → List Char → List Glyph × List Warning
  | 0, _ => ([], [])
  | room + 1, s =>
      let add (g : Glyph) (warnings : List Warning) (rest : List Char) :
          List Glyph × List Warning :=
        let (more, others) := glyphs room rest
        (g :: more, warnings ++ others)
      match s with
      | [] => ([], [])
      | ['\\'] => ([⟨'\\', false⟩], [.openBackslash])
      | '\\' :: c :: rest =>
          match Printf.simpleEscapes.lookup c with
          | some meant => add ⟨meant, true⟩ [] rest
          | none =>
              if Printf.isOctal c then
                let (n, left) := Printf.digitsAt 8 3 (c :: rest)
                if 255 < n then
                  let (m, left) := Printf.digitsAt 8 2 (c :: rest)
                  let written := String.ofList ((c :: rest).take 3)
                  add ⟨Printf.octet m, true⟩
                    [.ambiguousOctal written (Printf.octet m) (left.head?.getD '0')] left
                else add ⟨Printf.octet n, true⟩ [] left
              else add ⟨c, true⟩ [] rest
      | c :: rest => add ⟨c, false⟩ [] rest

/-- An element of an array. -/
inductive Element where
  | char (c : Char)
  | range (a b : Char)
  | named (name : String)
  | equivalent (c : Char)
  /-- A character that is repeated, as often as is needed if nothing else is said. -/
  | repeated (c : Char) (times : Option Nat)
deriving DecidableEq, Repr

/-- What is wrong with an array, or with how two of them go together. -/
inductive Fault where
  | noName
  | noEquivalent
  | unknownName (name : String)
  | longEquivalent (text : String)
  | badTimes (text : String)
  | reversedRange (a b : Char)
  | openRepeatFirst
  | openRepeats
  | openRepeatOnly
  | equivalentSecond
  | namedSecond
  | misaligned
  | emptySecond
  | namedLast
  | complementNamed
deriving DecidableEq, Repr

/-- A character in a message. -/
def printable (c : Char) : String :=
  if isShowable c then (if c = '\\' then "\\\\" else .singleton c)
  else
    match controlLetters.lookup c with
    | some letter => .ofList ['\\', letter]
    | none => .ofList ('\\' :: octalDigits c)

def Fault.message : Fault → String
  | .noName => "missing character class name '[::]'"
  | .noEquivalent => "missing equivalence class character '[==]'"
  | .unknownName name => "invalid character class " ++ quotedWord name
  | .longEquivalent text =>
      text ++ ": equivalence class operand must be a single character"
  | .badTimes text => "invalid repeat count " ++ quotedWord text ++ " in [c*n] construct"
  | .reversedRange a b =>
      "range-endpoints of '" ++ printable a ++ "-" ++ printable b ++
        "' are in reverse collating sequence order"
  | .openRepeatFirst => "the [c*] repeat construct may not appear in string1"
  | .openRepeats => "only one [c*] repeat construct may appear in string2"
  | .openRepeatOnly =>
      "the [c*] construct may appear in string2 only when translating"
  | .equivalentSecond => "[=c=] expressions may not appear in string2 when translating"
  | .namedSecond =>
      "when translating, the only character classes that may appear in\n" ++
        "string2 are 'upper' and 'lower'"
  | .misaligned => "misaligned [:upper:] and/or [:lower:] construct"
  | .emptySecond => "when not truncating set1, string2 must be non-empty"
  | .namedLast =>
      "when translating with string1 longer than string2,\n" ++
        "the latter string must not end with a character class"
  | .complementNamed =>
      "when translating with complemented character classes,\n" ++
        "string2 must map all characters in the domain to one"

def textOf (gs : List Glyph) : String :=
  .ofList (gs.map (·.char))

def Glyph.isBare (g : Glyph) (c : Char) : Bool :=
  g.char = c && !g.isEscaped

/-- The text up to a mark with a bracket after it, and what follows. -/
def upTo (mark : Char) : List Glyph → Option (List Glyph × List Glyph)
  | g :: h :: rest =>
      if g.isBare mark && h.isBare ']' then some ([], rest)
      else (upTo mark (h :: rest)).map fun (text, left) => (g :: text, left)
  | _ => none

/-- Whether a text is a star with digits and a closing bracket after it. -/
def isStarDigits : List Glyph → Bool
  | star :: rest =>
      star.isBare '*' &&
        ((rest.dropWhile fun g => g.char.isDigit && !g.isEscaped).head?.any (·.isBare ']'))
  | [] => false

/-- A number in base ten, or in base eight if it starts with a zero. -/
def times? (digits : List Char) : Option Nat :=
  let base := if digits.head? = some '0' then 8 else 10
  let (n, rest) := Printf.digitsAt base digits.length digits
  if rest.isEmpty && n < Nat.pow 2 63 then some n else none

/-- The repetition that a text after an opening bracket is, and what follows. -/
def repetition? : List Glyph → Option (Except Fault (Element × List Glyph))
  | c :: star :: rest =>
      if !star.isBare '*' then none
      else
        let digits := rest.takeWhile fun g => !g.isEscaped && g.char ≠ ']'
        match rest.drop digits.length with
        | close :: left =>
            if !close.isBare ']' then none
            else if digits.isEmpty then some (.ok (.repeated c.char none, left))
            else
              match times? (digits.map (·.char)) with
              | none => some (.error (.badTimes (textOf digits)))
              | some 0 => some (.ok (.repeated c.char none, left))
              | some n => some (.ok (.repeated c.char (some n), left))
        | [] => none
  | _ => none

/-- The class that a text after an opening bracket is, and what follows. -/
def class? (text : List Glyph) : Option (Except Fault (Element × List Glyph)) :=
  match text with
  | mark :: rest =>
      if !mark.isBare ':' && !mark.isBare '=' then none
      else
        match upTo mark.char rest with
        | none => none
        | some ([], _) =>
            some (.error (if mark.char = ':' then .noName else .noEquivalent))
        | some (inner, left) =>
            if mark.char = ':' then
              if (CharClass.named.lookup (textOf inner)).isSome then
                some (.ok (.named (textOf inner), left))
              else if isStarDigits rest then none
              else some (.error (.unknownName (textOf inner)))
            else
              match inner with
              | [c] => some (.ok (.equivalent c.char, left))
              | _ =>
                  if isStarDigits rest then none
                  else some (.error (.longEquivalent (textOf inner)))
  | [] => none

/-- The elements of an array. -/
def elements : (room : Nat) → List Glyph → Except Fault (List Element)
  | 0, _ => .ok []
  | room + 1, gs =>
      match gs with
      | g :: h :: i :: rest =>
          let bracket? := if g.isBare '[' then
              (class? (h :: i :: rest)).or (repetition? (h :: i :: rest))
            else none
          match bracket? with
          | some (.error e) => .error e
          | some (.ok (e, left)) => (elements room left).map (e :: ·)
          | none =>
              if h.isBare '-' then
                if i.char < g.char then .error (.reversedRange g.char i.char)
                else (elements room rest).map (.range g.char i.char :: ·)
              else (elements room (h :: i :: rest)).map (.char g.char :: ·)
      | gs => .ok (gs.map fun g => .char g.char)

/-- All characters. -/
def allChars : List Char :=
  (List.range 256).map Char.ofNat

/-- The characters of an element, given how many there are of one that is repeated as often as is
needed. -/
def Element.chars (fill : Nat) : Element → List Char
  | .char c | .equivalent c => [c]
  | .range a b => (List.range' a.toNat (b.toNat + 1 - a.toNat)).map Char.ofNat
  | .named name =>
      let ranges := (CharClass.named.lookup name).getD []
      allChars.filter (CharClass.hasInRanges ⟨false, ranges, false⟩)
  | .repeated c times => List.replicate (times.getD fill) c

def charsOf (fill : Nat) (es : List Element) : List Char :=
  es.flatMap (·.chars fill)

def Element.isOpenRepeat : Element → Bool
  | .repeated _ none => true
  | _ => false

def Element.isNamed : Element → Bool
  | .named _ => true
  | _ => false

/-- Whether an element is a class of letters in one case. -/
def Element.isCase : Element → Bool
  | .named name => name = "upper" || name = "lower"
  | _ => false

/-- The places in an array at which classes of letters in one case start. -/
def casePlaces (fill : Nat) : (start : Nat) → List Element → List Nat
  | _, [] => []
  | start, e :: rest =>
      (if e.isCase then [start] else []) ++ casePlaces fill (start + (e.chars fill).length) rest

/-- What is done with characters. -/
structure Task where
  drops : Bool
  squeezes : Bool
  complements : Bool
  truncates : Bool
  first : List Element
  second : Option (List Element)

namespace Task

/-- The characters of the first array, or all others. -/
def firstChars (t : Task) : List Char :=
  let listed := charsOf 0 t.first
  if t.complements then allChars.filter fun c => !listed.contains c else listed

/-- How often the character is there in the second array that is repeated as often as is needed. -/
def fill (t : Task) (second : List Element) : Nat :=
  t.firstChars.length - (charsOf 0 second).length

/-- The second array as long as the first one, or as it is if the first one is to be cut. -/
def extended (t : Task) (second : List Element) : Except Fault (List Char) :=
  let chars := charsOf (t.fill second) second
  let missing := t.firstChars.length - chars.length
  if missing = 0 || t.truncates then .ok chars
  else
    match chars.getLast?, second.getLast? with
    | none, _ => .error .emptySecond
    | some _, some (.named _) => .error .namedLast
    | some c, _ => .ok (chars ++ List.replicate missing c)

/-- The characters that stand for those of the first array. -/
def images (t : Task) (second : List Element) : Except Fault (List Char) :=
  let fill := t.fill second
  let places := (casePlaces fill 0 second).filter (· ≤ t.firstChars.length)
  let aligned := places.all (casePlaces 0 0 t.first).contains
  if second.any fun
      | .equivalent _ => true
      | _ => false then .error .equivalentSecond
  else if second.any fun e => e.isNamed && !e.isCase then .error .namedSecond
  else if !t.complements && !aligned then .error .misaligned
  else
    match t.extended second with
    | .error e => .error e
    | .ok chars =>
        let isOne := chars.length = t.firstChars.length && chars.all fun c => chars.head? = some c
        if t.complements && t.first.any (·.isNamed) && !isOne then .error .complementNamed
        else .ok chars

/-- Leaves the first of several characters in a row that are the same, if they are in a set. -/
def squeezed (set : List Char) : List Char → List Char
  | [] => []
  | [c] => [c]
  | c :: d :: rest =>
      if c = d && set.contains c then squeezed set (d :: rest) else c :: squeezed set (d :: rest)

/-- Does a task with a text. -/
def run (t : Task) (text : List Char) : Except Fault (List Char) :=
  let first := t.firstChars
  let squeeze (set text : List Char) : List Char := if t.squeezes then squeezed set text else text
  if t.first.any (·.isOpenRepeat) then .error .openRepeatFirst
  else
    match t.second with
    | none =>
        .ok (if t.drops then text.filter fun c => !first.contains c else squeeze first text)
    | some second =>
        if 1 < (second.filter (·.isOpenRepeat)).length then .error .openRepeats
        else if t.drops then
          if second.any (·.isOpenRepeat) then .error .openRepeatOnly
          else .ok (squeeze (charsOf 0 second) (text.filter fun c => !first.contains c))
        else
          (t.images second).map fun images =>
            let pairs := (first.zip images).reverse
            squeeze images (text.map fun c => (pairs.lookup c).getD c)

end Task

/-- What is wrong with the number of operands. -/
def misuse? (drops squeezes : Bool) (operands : List String) : Option String :=
  let least := if drops = squeezes then 2 else 1
  let most := if drops && !squeezes then 1 else 2
  match operands.getLast?, operands.drop most with
  | none, _ => some "missing operand"
  | some last, [] =>
      if operands.length < least then
        some ("missing operand after " ++ quotedWord last ++
          (if squeezes then
            "\nTwo strings must be given when both deleting and squeezing repeats."
          else "\nTwo strings must be given when translating."))
      else none
  | some _, extra :: _ =>
      some ("extra operand " ++ quotedWord extra ++
        (if operands.length = 2 then
          "\nOnly one string may be given when deleting without squeezing repeats."
        else ""))

/-- Replaces, drops and squeezes characters. -/
def tr : Program :=
  withOptionsAt true "tr"
    [⟨'c', ["complement"], .nothing⟩, ⟨'C', [], .nothing⟩, ⟨'d', ["delete"], .nothing⟩,
     ⟨'s', ["squeeze-repeats"], .nothing⟩, ⟨'t', ["truncate-set1"], .nothing⟩] 1 fun a s =>
    match misuse? (a.has 'd') (a.has 's') a.operands with
    | some message => s.start.misused 1 "tr" message
    | none =>
        let read (text : String) : List Glyph × List Warning :=
          glyphs (text.length + 1) text.toList
        let arrays := a.operands.map read
        let o := (arrays.flatMap (·.2)).foldl (fun o w => o.warn ("tr: " ++ w.message ++ "\n"))
          s.start
        let result : Except Fault (List Char) := do
          let sets ← arrays.mapM fun a => elements (a.1.length + 1) a.1
          Task.run
            { drops := a.has 'd', squeezes := a.has 's', complements := a.hasAny "cC"
              truncates := a.has 't', first := sets.head?.getD [], second := sets[1]? }
            s.input.toList
        match result with
        | .error e => o.complain 1 ("tr: " ++ e.message)
        | .ok text => { o with input := "" }.say (.ofList text)

end DartTriggers.Toolbox.CharMap
