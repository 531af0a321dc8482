import DartTriggers.Toolbox.Input
/-!
Programs that show parts of texts, or texts in another order: the beginning, the end, the lines from
last to first, each line from its end to its start.
-/

namespace DartTriggers.Toolbox

/-- What is shown of a text by `head` and `tail`. -/
structure Portion where
  /-- Whether characters are counted, and not pieces. -/
  byChar : Bool
  /-- The character that ends a piece. -/
  mark : Char
  count : Nat
  /-- The sign in front of the count. -/
  sign : Option Char

/-- What is wrong with how much is wanted. -/
inductive PortionFault where
  | badCount (byChar : Bool) (text : String) (e : CountFault)
  | strayDigit (d : Char)

/-- What a program says of a fault, given what it says of digits in a wrong place. -/
def PortionFault.message (ofDigit : String) : PortionFault → String
  | .badCount byChar text e =>
      "invalid number of " ++ (if byChar then "bytes" else "lines") ++ ": " ++ quotedWord text ++
        e.suffix
  | .strayDigit d => ofDigit ++ " -- " ++ .singleton d

namespace Portion

def units (p : Portion) (text : String) : List String :=
  if p.byChar then text.toList.map String.singleton else piecesOf p.mark text

/-- The beginning of a text; with a minus sign all but its end. -/
def first (p : Portion) (text : String) : String :=
  let units := p.units text
  String.join (if p.sign = some '-' then units.take (units.length - p.count)
    else units.take p.count)

/-- The end of a text; with a plus sign all from a place on. -/
def last (p : Portion) (text : String) : String :=
  let units := p.units text
  String.join (if p.sign = some '+' then units.drop (p.count - 1)
    else units.drop (units.length - p.count))

/-- The portion that is wanted if nothing is said of it. -/
def usual (mark : Char) : Portion :=
  ⟨false, mark, 10, none⟩

/-- Takes the count of an option. A plus sign of an earlier one may stay. -/
def withCount (p : Portion) (plusStays byChar : Bool) (text : String) :
    Except PortionFault Portion :=
  let (sign, digits) := match text.toList with
    | '-' :: rest => (some '-', String.ofList rest)
    | '+' :: _ => (some '+', text)
    | _ => (none, text)
  match Toolbox.count digits with
  | .ok count =>
      .ok { p with byChar, count, sign := if plusStays && p.sign = some '+' then p.sign else sign }
  | .error e => .error (.badCount byChar digits e)

/-- Takes options in turn. -/
def ofOptions (plusStays : Bool) : Portion → List Given → Except PortionFault Portion
  | p, [] => .ok p
  | p, g :: rest =>
      if g.letter.isDigit then .error (.strayDigit g.letter)
      else if g.letter = 'c' || g.letter = 'n' then
        match p.withCount plusStays (g.letter = 'c') g.value with
        | .ok p => ofOptions plusStays p rest
        | .error e => .error e
      else ofOptions plusStays p rest

/-- Whether nothing of any text belongs to the end that is wanted. -/
def isNothing (p : Portion) : Bool :=
  p.count = 0 && p.sign != some '+'

end Portion

/-- Shows a portion of each file, with its name above if there are several. -/
def showPortions (name : String) (a : Arguments) (part : String → String)
    (reads : Bool) (s : Setting) : Outcome :=
  let names := orInput a.operands
  let titled := a.lastOf? "qv" = some 'v' || (1 < names.length && !a.has 'q')
  (names.foldl (fun (o, isFirst) operand =>
    let shown := if operand = "-" then "standard input" else operand
    let title := if titled then (if isFirst then "" else "\n") ++ "==> " ++ shown ++ " <==\n"
      else ""
    match readOperand s operand o with
    | (o, .error .isDirectory) =>
        let o := o.say title
        (if reads then
          o.complain 1 (name ++ ": error reading " ++ quotedName operand ++ ": " ++
            FileError.isDirectory.reason)
        else o, false)
    | (o, .error e) =>
        (o.complain 1 (name ++ ": cannot open " ++ quotedName operand ++ " for reading: " ++
          e.reason), isFirst)
    | (o, .ok text) => (o.say (title ++ part text), false)) (s.start, true)).1

/-- The options of programs that show portions. -/
def portionChoices : List Choice :=
  [⟨'c', ["bytes"], .value⟩, ⟨'n', ["lines"], .value⟩, ⟨'q', ["quiet", "silent"], .nothing⟩,
   ⟨'v', ["verbose"], .nothing⟩, ⟨'z', ["zero-terminated"], .nothing⟩] ++
  "0123456789".toList.map fun d => ⟨d, [], .maybe⟩

/-- A first argument such as `-5` or `-2c` as options, or the letter in it that is none. -/
def headCount : List String → Except Char (List String)
  | [] => .ok []
  | arg :: rest =>
      match arg.toList with
      | '-' :: d :: written =>
          let digits := (d :: written).takeWhile Char.isDigit
          let letters := (d :: written).drop digits.length
          if digits.isEmpty then .ok (arg :: rest)
          else
            match letters.find? fun c => !"bckmlqvz".toList.contains c with
            | some c => .error c
            | none =>
                let units := letters.filter fun c => "bkm".toList.contains c
                let byChar := letters.any fun c => "bckm".toList.contains c
                let others := letters.filter fun c => "qvz".toList.contains c
                .ok ((if byChar then "-c" else "-n") :: .ofList (digits ++ units) ::
                  others.map (fun c => .ofList ['-', c]) ++ rest)
      | _ => .ok (arg :: rest)

/-- Shows the beginnings of files. -/
def head : Program := fun args s =>
  match headCount args with
  | .error c => s.start.misused 1 "head" ("invalid trailing option -- " ++ .singleton c)
  | .ok args =>
      withOptions "head" portionChoices 1 (fun a s =>
        match Portion.ofOptions false (.usual (endMark (a.has 'z'))) a.options with
        | .error e =>
            let text := "head: " ++ e.message "invalid trailing option"
            s.start.complain 1 (match e with
              | .strayDigit _ => text ++ "\n" ++ seeHelp "head"
              | .badCount .. => text)
        | .ok p => showPortions "head" a p.first (p.count ≠ 0 || p.sign = some '-') s) args s

/-- A first argument such as `-5`, `+2` or `-3c` as options; it counts as such before a single
file at most. -/
def tailCount : List String → List String
  | [] => []
  | arg :: rest =>
      let isFile (name : String) : Bool := !(name.startsWith "-" && 1 < name.length)
      let isAlone := match rest with
        | [] => true
        | [name] => isFile name
        | ["--", _] => true
        | _ => false
      match isAlone, arg.toList with
      | true, sign :: written =>
          let digits := written.takeWhile Char.isDigit
          let letters := written.drop digits.length
          let isUnit := letters = [] || letters = ['b'] || letters = ['c'] || letters = ['l']
          let isCount := (sign = '+' || sign = '-') && isUnit && written ≠ [] &&
            !(sign = '-' && written = ['c'])
          if isCount then
            let number := if digits.isEmpty then ['1', '0'] else digits
            let unit := if letters = ['b'] then ['b'] else []
            let byChar := letters = ['b'] || letters = ['c']
            (if byChar then "-c" else "-n") :: .ofList (sign :: number ++ unit) :: rest
          else arg :: rest
      | _, _ => arg :: rest

/-- Shows the ends of files. -/
def tail : Program := fun args =>
  withOptions "tail" portionChoices 1 (fun a s =>
    match Portion.ofOptions true (.usual (endMark (a.has 'z'))) a.options with
    | .error e => s.start.complain 1 ("tail: " ++ e.message "option used in invalid context")
    | .ok p => if p.isNothing then s.start else showPortions "tail" a p.last true s)
    (tailCount args)

/-- The pieces of a reversed text, each of which starts with a reversed mark, from the last one to
the first; `piece` is what has been read of a piece. -/
def piecesBackwards (mark : List Char) (before : Bool) :
    (room : Nat) → (piece : List Char) → List Char → List (List Char)
  | 0, piece, s => [s.reverse ++ piece]
  | room + 1, piece, s =>
      match s with
      | [] => [piece]
      | c :: rest =>
          if mark.isPrefixOf (c :: rest) then
            let left := (c :: rest).drop mark.length
            if before then (mark.reverse ++ piece) :: piecesBackwards mark before room [] left
            else piece :: piecesBackwards mark before room mark.reverse left
          else piecesBackwards mark before room (c :: piece) rest

/-- The pieces of a text, the last one first. A mark ends each of them, or starts it. -/
def reversedPieces (mark : String) (before : Bool) (text : String) : String :=
  let mark := if mark.isEmpty then ['\x00'] else mark.toList
  let s := text.toList.reverse
  .ofList (piecesBackwards mark.reverse before (s.length + 1) [] s).flatten

/-- Shows the lines of files, the last one first. -/
def tac : Program :=
  withOptions "tac"
    [⟨'b', ["before"], .nothing⟩, ⟨'s', ["separator"], .value⟩] 1 fun a s =>
    forEach (fun name o =>
      match readOperand s name o with
      | (o, .ok text) => o.say (reversedPieces ((a.value? 's').getD "\n") (a.has 'b') text)
      | (o, .error .isDirectory) =>
          o.complain 1 ("tac: " ++ shownName name ++ ": read error: Invalid argument")
      | (o, .error e) =>
          o.complain 1 ("tac: failed to open " ++ quotedName name ++ " for reading: " ++ e.reason))
      (orInput a.operands) s.start

/-- Each line from its end to its start. -/
def reversedLines (text : String) : String :=
  String.join ((linesOf text).map fun line =>
    String.ofList (withoutEnd line).toList.reverse ++ (if line.endsWith "\n" then "\n" else ""))

/-- Shows each line of files from its end to its start. -/
def rev : Program :=
  withOptions "rev" [⟨'0', ["zero"], .nothing⟩] 1 fun a s =>
    if a.operands.isEmpty then { s.start with input := "" }.say (reversedLines s.input)
    else
      forEach (fun name o =>
        match readText o.tree (s.path name) with
        | .ok text => o.say (reversedLines text)
        | .error e => o.complain 1 ("rev: cannot open " ++ name ++ ": " ++ e.reason))
        a.operands s.start

/-- Shows the input and writes it to files. -/
def tee : Program :=
  withOptions "tee"
    [⟨'a', ["append"], .nothing⟩, ⟨'i', ["ignore-interrupts"], .nothing⟩,
     ⟨'p', ["output-error"], .maybe⟩] 1 fun a s =>
    let o := forEach (fun name o =>
      let old := if a.has 'a' then ((readText o.tree (s.path name)).toOption).getD "" else ""
      match writeText o.tree (s.path name) (old ++ s.input) with
      | .ok tree => { o with tree }
      | .error e => o.complain 1 ("tee: " ++ shownName name ++ ": " ++ e.reason))
      a.operands s.start
    { o with input := "" }.say s.input

end DartTriggers.Toolbox
