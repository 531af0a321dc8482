import DartTriggers.Toolbox.Input
/-!
Putting lines in order. Lines are compared by their keys, which are parts of them, and where all
keys agree by all of their characters.
-/

namespace DartTriggers.Toolbox

/-- A place in lines: a field and a character in it, both counted from zero. -/
structure LinePlace where
  field : Nat
  char : Nat
deriving DecidableEq, Repr

/-- A part of lines by which they are compared. -/
structure SortKey where
  start : LinePlace := ⟨0, 0⟩
  /-- Where it ends: after so many whole fields, and so many characters of the next one. -/
  stop : Option LinePlace := none
  /-- The letters of how it is compared. -/
  letters : List Char := []
  /-- Whether blanks at its start and in front of its end do not count. -/
  skipsBlanks : Bool := false
  endSkipsBlanks : Bool := false
deriving Repr

/-- What is wrong with how lines shall be compared. -/
inductive SortFault where
  | noCount (spot rest : String)
  | zeroField (key : String)
  | zeroChar (key : String)
  | stray (key : String)
  | incompatible (letters : String)
  | emptyMark
  | twoMarks
  | longMark (mark : String)
deriving DecidableEq, Repr

def SortFault.message : SortFault → String
  | .noCount spot rest =>
      "invalid number " ++ spot ++ ": invalid count at start of " ++ quotedWord rest
  | .zeroField key => "field number is zero: invalid field specification " ++ quotedWord key
  | .zeroChar key => "character offset is zero: invalid field specification " ++ quotedWord key
  | .stray key => "stray character in field spec: invalid field specification " ++ quotedWord key
  | .incompatible letters => "options '-" ++ letters ++ "' are incompatible"
  | .emptyMark => "empty tab"
  | .twoMarks => "incompatible tabs"
  | .longMark mark => "multi-character tab " ++ quotedWord mark

namespace SortKey

/-- The letters that say how a key is compared. -/
def orderLetters : List Char :=
  "bdfghiMnRrV".toList

/-- A number in a written key, and what follows. -/
def number (spot : String) (s : List Char) : Except SortFault (Nat × List Char) :=
  let digits := s.takeWhile Char.isDigit
  if digits.isEmpty then .error (.noCount spot (.ofList s))
  else .ok (valueOf digits, s.drop digits.length)

/-- The place at the start or at the end of a written key: its field, its character if there is one,
and what follows. -/
def place (key spot : String) (s : List Char) :
    Except SortFault (Nat × Option Nat × List Char) := do
  let (field, rest) ← number spot s
  if field = 0 then .error (.zeroField key)
  else
    match rest with
    | '.' :: rest =>
        let (char, rest) ← number "after '.'" rest
        pure (field, some char, rest)
    | rest => pure (field, none, rest)

/-- Reads a key such as `2`, `2,3` and `1.3,1.5nr`. -/
def ofText (key : String) : Except SortFault SortKey := do
  let (field, char, rest) ← place key "at field start" key.toList
  let letters := rest.takeWhile orderLetters.contains
  let start : SortKey :=
    { start := ⟨field - 1, char.getD 1 - 1⟩, letters := letters.filter (· ≠ 'b')
      skipsBlanks := letters.contains 'b' }
  if char = some 0 then .error (.zeroChar key)
  else
    match rest.drop letters.length with
    | [] => pure start
    | ',' :: rest =>
        let (field, char, rest) ← place key "after ','" rest
        let more := rest.takeWhile orderLetters.contains
        let stop : LinePlace := match char.getD 0 with
          | 0 => ⟨field, 0⟩
          | n => ⟨field - 1, n⟩
        if more.length < rest.length then .error (.stray key)
        else
          pure { start with
            stop := some stop
            letters := start.letters ++ more.filter (· ≠ 'b')
            endSkipsBlanks := more.contains 'b' }
    | _ => .error (.stray key)

/-- Whether nothing is said of how a key is compared. -/
def isPlain (k : SortKey) : Bool :=
  k.letters.isEmpty && !k.skipsBlanks && !k.endSkipsBlanks

/-- A key that is compared as the options say, if it does not say it itself. -/
def inherit (k : SortKey) (letters : List Char) : SortKey :=
  if k.isPlain then
    { k with
      letters := letters.filter (· ≠ 'b')
      skipsBlanks := letters.contains 'b', endSkipsBlanks := letters.contains 'b' }
  else k

/-- Checks that what is said of how a key is compared fits together. -/
def checked (k : SortKey) : Except SortFault SortKey :=
  let has (c : Char) : Bool := k.letters.contains c
  let kinds := [has 'n', has 'g', has 'h', has 'M', has 'V' || has 'R' || has 'd' || has 'i']
  let shown := "dfghiMnRV".toList.filter fun c => has c && !(c = 'i' && has 'd')
  if 1 < (kinds.filter id).length then .error (.incompatible (.ofList shown)) else .ok k

end SortKey

/-- Whether a character is a blank between fields. -/
def isFieldBlank (c : Char) : Bool :=
  c = ' ' || c = '\t' || c = '\n'

/-- What follows some fields. A mark that divides fields is left out, and after the last of them it
is left out only if `passes` says so; without a mark the blanks before a field belong to it. -/
def afterMarked (mark : Option Char) (passes : Bool) : Nat → List Char → List Char
  | 0, s => s
  | n + 1, s =>
      match mark with
      | none =>
          afterMarked mark passes n
            ((s.dropWhile isFieldBlank).dropWhile (!isFieldBlank ·))
      | some m =>
          let rest := s.dropWhile (· ≠ m)
          afterMarked mark passes n (if n = 0 && !passes then rest else rest.tail)

/-- The text of a key in a line. -/
def SortKey.text (k : SortKey) (mark : Option Char) (line : List Char) : List Char :=
  let skip (skips : Bool) (s : List Char) : List Char :=
    if skips then s.dropWhile isFieldBlank else s
  let fromStart := (skip k.skipsBlanks (afterMarked mark true k.start.field line)).drop k.start.char
  match k.stop with
  | none => fromStart
  | some stop =>
      let ending := afterMarked mark (stop.char ≠ 0) stop.field line
      let ending := if stop.char = 0 then ending
        else (skip k.endSkipsBlanks ending).drop stop.char
      fromStart.take (fromStart.length - ending.length)

/-! ### Values -/

/-- A decimal number: a whole number, and how many of its digits stand after the point. -/
structure Decimals where
  whole : Int
  places : Nat
deriving DecidableEq, Repr

def Decimals.compare (a b : Decimals) : Ordering :=
  Ord.compare (a.whole * Nat.pow 10 b.places) (b.whole * Nat.pow 10 a.places)

/-- The number at the start of a text, which is zero if there is none, and what follows. -/
def leadingNumber (s : List Char) : Decimals × List Char :=
  let s := s.dropWhile isFieldBlank
  let negative := s.head? = some '-'
  let s := if negative then s.tail else s
  let digits := s.takeWhile Char.isDigit
  let rest := s.drop digits.length
  let places := match rest with
    | '.' :: more => more.takeWhile Char.isDigit
    | _ => []
  let rest := match rest with
    | '.' :: more => more.drop places.length
    | rest => rest
  let n : Int := valueOf (digits ++ places)
  (⟨if negative then -n else n, places.length⟩, rest)

/-- The largest power of ten that is looked at. -/
def powerLimit : Nat := 5000

/-- The number that a text starts with, with a power of ten. -/
def generalNumber? (s : List Char) : Option Decimals :=
  let s := s.dropWhile isFieldBlank
  let unsigned := if s.head? = some '-' || s.head? = some '+' then s.tail else s
  let isNumber := match unsigned with
    | '.' :: c :: _ => c.isDigit
    | c :: _ => c.isDigit
    | [] => false
  if !isNumber then none
  else
    let (n, rest) := leadingNumber (if s.head? = some '+' then s.tail else s)
    match rest with
    | e :: rest =>
        let negative := rest.head? = some '-'
        let digits := (if negative || rest.head? = some '+' then rest.tail else rest).takeWhile
          Char.isDigit
        let power := min (valueOf digits) powerLimit
        if (e = 'e' || e = 'E') && !digits.isEmpty then
          some (if negative then { n with places := n.places + power }
            else { n with whole := n.whole * Nat.pow 10 power })
        else some n
    | [] => some n

/-- The number at the start of a text with the unit after it, as in `10K`. Units count first. -/
def unitNumber (s : List Char) : Int × Decimals :=
  let (n, rest) := leadingNumber s
  let letter := match rest.head? with
    | some 'k' => 'K'
    | some c => c
    | none => ' '
  let rank : Nat := (("KMGTPEZYRQ".toList.zip (List.range' 1 10)).lookup letter).getD 0
  (if n.whole = 0 then 0 else if n.whole < 0 then -(rank : Int) else rank, n)

def months : List String :=
  ["JAN", "FEB", "MAR", "APR", "MAY", "JUN", "JUL", "AUG", "SEP", "OCT", "NOV", "DEC"]

/-- The number of the month that a text starts with; it is zero if there is none. -/
def monthNumber (s : List Char) : Nat :=
  let name := String.ofList (((s.dropWhile isFieldBlank).take 3).map Char.toUpper)
  ((months.zip (List.range' 1 12)).lookup name).getD 0

/-- The characters that count. -/
def SortKey.counting (k : SortKey) (s : List Char) : List Char :=
  let s := if k.letters.contains 'd' then
      s.filter fun c => isFieldBlank c || c.isAlphanum
    else if k.letters.contains 'i' then s.filter isShowable
    else s
  if k.letters.contains 'f' then s.map Char.toUpper else s

/-- Compares the texts of a key. -/
def SortKey.compare (k : SortKey) (a b : List Char) : Ordering :=
  let has (c : Char) : Bool := k.letters.contains c
  let order := if has 'n' then (leadingNumber a).1.compare (leadingNumber b).1
    else if has 'g' then
      match generalNumber? a, generalNumber? b with
      | some m, some n => m.compare n
      | some _, none => .gt
      | none, some _ => .lt
      | none, none => .eq
    else if has 'h' then
      let (rank, m) := unitNumber a
      let (rank', n) := unitNumber b
      (Ord.compare rank rank').then (m.compare n)
    else if has 'M' then Ord.compare (monthNumber a) (monthNumber b)
    else Ord.compare (String.ofList (k.counting a)) (String.ofList (k.counting b))
  if has 'r' then order.swap else order

/-! ### The program -/

/-- How lines are compared. -/
structure LineOrder where
  keys : List SortKey
  mark : Option Char
  /-- Whether lines with the same keys count as the same. -/
  keysAlone : Bool
  reversed : Bool

namespace LineOrder

/-- Compares two lines by their keys. -/
def byKeys (o : LineOrder) (a b : String) : Ordering :=
  o.keys.foldl (fun order k =>
    order.then (k.compare (k.text o.mark a.toList) (k.text o.mark b.toList))) .eq

def compare (o : LineOrder) (a b : String) : Ordering :=
  let order := if o.keysAlone then .eq
    else if o.reversed then (Ord.compare a b).swap else Ord.compare a b
  (o.byKeys a b).then order

def le (o : LineOrder) (a b : String) : Bool :=
  o.compare a b != .gt

/-- Leaves the first of lines in a row that have the same keys. -/
def firsts (o : LineOrder) : List String → List String
  | [] => []
  | [line] => [line]
  | line :: next :: rest =>
      if o.byKeys line next = .eq then firsts o (line :: rest)
      else line :: firsts o (next :: rest)
termination_by lines => lines.length

/-- The first line that does not stand in order, and its number. -/
def disorder? (o : LineOrder) (strict : Bool) : (number : Nat) → List String → Option (Nat × String)
  | number, a :: b :: rest =>
      let order := o.compare a b
      if order = .gt || (strict && order = .eq) then some (number + 1, b)
      else disorder? o strict (number + 1) (b :: rest)
  | _, _ => none

end LineOrder

/-- The mark that divides fields, from its text. -/
def markOf (text : String) : Except SortFault Char :=
  match text.toList with
  | [] => .error .emptyMark
  | ['\\', '0'] => .ok '\x00'
  | [c] => .ok c
  | _ => .error (.longMark text)

/-- The mark that divides fields, as options tell. -/
def fieldMark (a : Arguments) : Except SortFault (Option Char) := do
  let marks ← ((a.options.filter fun g => g.letter = 't').map (·.value)).mapM markOf
  if marks.any fun mark => marks.head? ≠ some mark then throw .twoMarks
  pure marks.head?

/-- The words for how lines are compared, with their letters. -/
def sortWords : List (String × Char) :=
  [("general-numeric", 'g'), ("human-numeric", 'h'), ("month", 'M'), ("numeric", 'n'),
   ("random", 'R'), ("version", 'V')]

/-- How lines are compared, as options tell. -/
def LineOrder.ofArguments (a : Arguments) : Except SortFault LineOrder := do
  let keys ← ((a.options.filter fun g => g.letter = 'k').map (·.value)).mapM SortKey.ofText
  let mark ← fieldMark a
  let word := ((a.value? '\x02').bind fun word => sortWords.lookup word).toList
  let letters := (a.options.map (·.letter)).filter SortKey.orderLetters.contains ++ word
  let whole : List SortKey := if keys.isEmpty then [{}] else keys
  let keys ← (whole.map (·.inherit letters)).mapM SortKey.checked
  pure ⟨keys, mark, a.hasAny "su", letters.contains 'r'⟩

/-- The texts of files; none if one cannot be read. `what` is said of one that is missing. -/
def readAll (what : String) (s : Setting) (names : List String) (o : Outcome) :
    Outcome × Option (List String) :=
  let missing? := names.find? fun name =>
    name ≠ "-" && match readText s.tree (s.path name) with
      | .ok _ | .error .isDirectory => false
      | .error _ => true
  match missing? with
  | some name =>
      let reason := match readText s.tree (s.path name) with
        | .ok _ => ""
        | .error e => e.reason
      (o.complain 2 ("sort: " ++ what ++ ": " ++ shownName name ++ ": " ++ reason), none)
  | none =>
      names.foldl (fun (o, texts?) name =>
        match texts?, readOperand s name o with
        | none, _ => (o, none)
        | some texts, (o, .ok text) => (o, some (texts ++ [text]))
        | some _, (o, .error e) =>
            (o.complain 2 ("sort: read failed: " ++ shownName name ++ ": " ++ e.reason), none))
        (o, some [])

def sortChoices : List Choice :=
  [⟨'b', ["ignore-leading-blanks"], .nothing⟩, ⟨'c', [], .nothing⟩, ⟨'C', [], .nothing⟩,
   ⟨'\x01', ["check"], .maybe⟩, ⟨'d', ["dictionary-order"], .nothing⟩,
   ⟨'f', ["ignore-case"], .nothing⟩, ⟨'g', ["general-numeric-sort"], .nothing⟩,
   ⟨'h', ["human-numeric-sort"], .nothing⟩, ⟨'i', ["ignore-nonprinting"], .nothing⟩,
   ⟨'k', ["key"], .value⟩, ⟨'m', ["merge"], .nothing⟩, ⟨'M', ["month-sort"], .nothing⟩,
   ⟨'n', ["numeric-sort"], .nothing⟩, ⟨'o', ["output"], .value⟩,
   ⟨'R', ["random-sort"], .nothing⟩, ⟨'r', ["reverse"], .nothing⟩, ⟨'\x02', ["sort"], .value⟩,
   ⟨'s', ["stable"], .nothing⟩, ⟨'S', ["buffer-size"], .value⟩,
   ⟨'t', ["field-separator"], .value⟩, ⟨'T', ["temporary-directory"], .value⟩,
   ⟨'u', ["unique"], .nothing⟩, ⟨'V', ["version-sort"], .nothing⟩,
   ⟨'z', ["zero-terminated"], .nothing⟩, ⟨'\x03', ["parallel"], .value⟩]

/-- Says where lines do not stand in order. -/
def checkOrder (order : LineOrder) (strict quiet : Bool) (name : String) (lines : List String)
    (o : Outcome) : Outcome :=
  match order.disorder? strict 1 lines with
  | none => o
  | some (number, line) =>
      if quiet then o.exit 1
      else
        o.complain 1 ("sort: " ++ name ++ ":" ++ toString number ++ ": disorder: " ++ line)

/-- Puts lines in order, or says whether they are. -/
def sort : Program :=
  withOptions "sort" sortChoices 2 fun a s =>
    let complain (text : String) : Outcome := s.start.complain 2 ("sort: " ++ text)
    let quiet := a.has 'C' || (["quiet", "silent"].contains ((a.value? '\x01').getD ""))
    let checks := a.hasAny "cC\x01"
    match LineOrder.ofArguments a, a.operands.drop 1 with
    | .error e, _ => complain e.message
    | .ok order, more =>
        if a.has 'c' && a.has 'C' then complain (SortFault.incompatible "cC").message
        else if checks && !more.isEmpty then
          complain ("extra operand " ++ quotedWord (more.head?.getD "") ++ " not allowed with -" ++
            (if quiet then "C" else "c"))
        else if checks && a.has 'o' then
          complain (SortFault.incompatible (if quiet then "Co" else "co")).message
        else
          let what := if checks then "open failed" else "cannot read"
          match readAll what s (orInput a.operands) s.start with
          | (o, none) => o
          | (o, some texts) =>
              let mark := endMark (a.has 'z')
              let each := texts.map fun text => (piecesOf mark text).map (withoutMark mark)
              if checks then
                checkOrder order (a.has 'u') quiet (a.operands.head?.getD "-") each.flatten o
              else
                let sorted := if a.has 'm' then each.foldl (fun done lines =>
                    done.merge lines order.le) []
                  else each.flatten.mergeSort order.le
                let lines := if a.has 'u' then order.firsts sorted else sorted
                let shown := String.join (lines.map (·.push mark))
                match a.value? 'o' with
                | none => o.say shown
                | some name =>
                    match writeText o.tree (s.path name) shown with
                    | .ok tree => { o with tree }
                    | .error e =>
                        complain ("open failed: " ++ shownName name ++ ": " ++ e.reason)

end DartTriggers.Toolbox
