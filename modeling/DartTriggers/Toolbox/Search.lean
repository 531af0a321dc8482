import DartTriggers.Toolbox.Entries
import DartTriggers.Toolbox.PatternReader
/-!
Searching: the lines of files in which an expression matches are shown, or counted, or the matches
themselves are. Lines around them can be shown too.
-/

namespace DartTriggers.Toolbox

/-- What lines are looked for. -/
structure Search where
  /-- There is no expression if none has been given. -/
  pattern : Option Pattern
  inverted : Bool
  /-- Whether a match has to be a whole line, or made of whole words. -/
  wholeLine : Bool
  wholeWord : Bool

namespace Search

/-- The end of a match at the start of a text that is made of whole words. -/
def wordEnd? (p : Pattern) (before : Option Char) (s : List Char) : Option Pattern.Place :=
  if before.any Pattern.isWordChar then none
  else
    (p.ends p.refersBack (.start before s)).find? fun there =>
      !(there.rest.head?.any Pattern.isWordChar)

/-- The first match in a text that is made of whole words: what it is, and where it ends. -/
def wordMatch? (p : Pattern) : (before : Option Char) → List Char →
    Option (List Char × Pattern.Place)
  | before, [] => (wordEnd? p before []).map fun there => ([], there)
  | before, c :: rest =>
      match wordEnd? p before (c :: rest) with
      | some there => some ((c :: rest).take (rest.length + 1 - there.left), there)
      | none => wordMatch? p (some c) rest

/-- The first match in the rest of a line: what it is, and where it ends. -/
def match? (q : Search) (before : Option Char) (s : List Char) :
    Option (List Char × Pattern.Place) :=
  q.pattern.bind fun p =>
    if q.wholeLine then
      (Pattern.search? (.append (.edge .textStart) (.append p (.edge .textEnd))) before s).map
        fun found => (found.text, found.after)
    else if q.wholeWord then wordMatch? p before s
    else (p.search? before s).map fun found => (found.text, found.after)

def selects (q : Search) (line : String) : Bool :=
  (q.match? none line.toList).isSome != q.inverted

/-- The matches in the rest of a line that are not empty, and where they start. -/
def matchesFrom (q : Search) (length : Nat) :
    (room : Nat) → (before : Option Char) → List Char → List (Nat × String)
  | 0, _, _ => []
  | room + 1, before, s =>
      match q.match? before s with
      | none => []
      | some (text, there) =>
          if text.isEmpty then
            match there.rest with
            | [] => []
            | c :: rest => matchesFrom q length room (some c) rest
          else
            (length - there.left - text.length, .ofList text) ::
              matchesFrom q length room there.before there.rest

/-- The matches in a line, and where they start. -/
def matchesIn (q : Search) (line : String) : List (Nat × String) :=
  q.matchesFrom line.length (line.length + 2) none line.toList

end Search

/-- A line of a file. -/
structure FileLine where
  number : Nat
  /-- How many characters there are before it. -/
  offset : Nat
  text : String
  selected : Bool

/-- The lines of a text, with what is known of each. -/
def fileLines (q : Search) (mark : Char) (text : String) : List FileLine :=
  let pieces := piecesOf mark text
  let start : List FileLine × Nat × Nat := ([], 1, 0)
  let (lines, _) := pieces.foldl (fun (lines, number, offset) piece =>
    let text := withoutMark mark piece
    (⟨number, offset, text, q.selects text⟩ :: lines, number + 1, offset + piece.length)) start
  lines.reverse

/-- Leaves the first of the selected lines selected. -/
def onlyFirst : Nat → List FileLine → List FileLine
  | _, [] => []
  | most, line :: rest =>
      if !line.selected then line :: onlyFirst most rest
      else
        match most with
        | 0 => { line with selected := false } :: onlyFirst 0 rest
        | most + 1 => line :: onlyFirst most rest

/-- How lines are shown. -/
structure SearchDisplay where
  titled : Bool
  numbers : Bool
  offsets : Bool
  /-- Whether the matches are shown, and not their lines. -/
  matchesAlone : Bool
  /-- What stands between a title and what follows it. -/
  zeroTitles : Bool
  mark : Char
  /-- How many lines are shown before and after a selected one. -/
  before : Option Nat
  after : Option Nat
  /-- What is shown between lines that do not follow each other. -/
  gap : Option String

namespace SearchDisplay

/-- What stands in front of a line. -/
def front (d : SearchDisplay) (title : String) (line : FileLine) (offset : Nat) : String :=
  let sign := if line.selected then ":" else "-"
  (if d.titled then title ++ (if d.zeroTitles then "\x00" else sign) else "") ++
    (if d.numbers then toString line.number ++ sign else "") ++
    (if d.offsets then toString offset ++ sign else "")

/-- A line, or the matches in it. -/
def line (d : SearchDisplay) (q : Search) (title : String) (line : FileLine) : String :=
  if d.matchesAlone then
    if !line.selected || q.inverted then ""
    else
      String.join ((q.matchesIn line.text).map fun (start, text) =>
        (d.front title line (line.offset + start) ++ text).push d.mark)
  else (d.front title line line.offset ++ line.text).push d.mark

/-- The lines that are shown: the selected ones, and those around them. -/
def around (d : SearchDisplay) (lines : List FileLine) : List FileLine :=
  let before := d.before.getD 0
  let after := d.after.getD 0
  let chosen := (lines.filter (·.selected)).map (·.number)
  lines.filter fun line =>
    line.selected ||
      chosen.any fun n => line.number ≤ n + after && n ≤ line.number + before

/-- The lines of a file that are shown, with gaps between them. -/
def lines (d : SearchDisplay) (q : Search) (title : String) (isFirst : Bool)
    (lines : List FileLine) : String :=
  let gap (previous : Option Nat) (line : FileLine) : String :=
    let follows := match previous with
      | none => isFirst
      | some n => n + 1 = line.number
    if follows || (d.before.isNone && d.after.isNone) then ""
    else (d.gap.map (· ++ "\n")).getD ""
  let (shown, _) := (d.around lines).foldl (fun (shown, previous) line =>
    (shown ++ gap previous line ++ d.line q title line, some line.number)) ("", none)
  shown

end SearchDisplay

/-! ### The program -/

/-- What is wrong with how a search is asked for. -/
inductive SearchFault where
  | conflict
  | badMost
  | badContext (text : String)
  | noFile (name reason : String)
  | badPattern (e : PatternFault)
  | naked
deriving DecidableEq, Repr

def SearchFault.message : SearchFault → String
  | .conflict => "conflicting matchers specified"
  | .badMost => "invalid max count"
  | .badContext text => text ++ ": invalid context length argument"
  | .noFile name reason => name ++ ": " ++ reason
  | .badPattern e => e.message
  | .naked => "character class syntax is [[:space:]], not [:space:]"

/-- A text as an expression that matches it alone. -/
def literal (anyCase : Bool) (text : String) : Pattern :=
  text.toList.foldr (fun c p => .append (.char { CharClass.exactly c with anyCase }) p) .empty

/-- The ways in which expressions are written. -/
inductive Spelling where
  | basic
  | extended
  | fixed
deriving DecidableEq, Repr

/-- Reads an expression; what is passed over in it comes with it. -/
def readPattern (way : Spelling) (anyCase : Bool) (text : String) :
    Except SearchFault (Pattern × List String) :=
  if way = .fixed then .ok (literal anyCase text, [])
  else
    match Pattern.Reading.pattern
        { extended := way = .extended, anyCase, lenient := true } text.toList with
    | .error e => .error (.badPattern e)
    | .ok written => if written.naked then .error .naked else .ok (written.pattern, written.idle)

/-- The files to be searched: those in directories too, if they are looked into. Each comes with its
title, and with whether it has been found in a directory. -/
def searchedFiles (s : Setting) : (depth : Nat) → (inside : Bool) → String → List (String × Bool)
  | 0, _, _ => []
  | depth + 1, inside, name =>
      match s.tree.node (s.path name) with
      | .ok (.directory _) =>
          let start := if name = "." && !inside then ""
            else if name.endsWith "/" then name else name ++ "/"
          (entryNames s.tree (s.path name)).flatMap fun entry =>
            searchedFiles s depth true (start ++ entry)
      | _ => [(name, inside)]

/-- The texts of the expressions that an option gives, itself or in a file. -/
def givenTexts (s : Setting) (g : Given) : Except SearchFault (List String) :=
  if g.letter = 'e' then .ok (g.value.splitOn "\n")
  else
    match if g.value = "-" then .ok s.input else readText s.tree (s.path g.value) with
    | .ok text => .ok ((linesOf text).map withoutEnd)
    | .error e => .error (.noFile g.value e.reason)

/-- The texts of the expressions that are given by options or by the first operand, and the names of
the files. -/
def patternTexts (a : Arguments) (s : Setting) : Except SearchFault (List String × List String) :=
  let given := a.options.filter fun g => g.letter = 'e' || g.letter = 'f'
  if given.isEmpty then .ok ((a.operands.take 1).flatMap (·.splitOn "\n"), a.operands.drop 1)
  else
    (given.mapM (givenTexts s)).map fun texts => (texts.flatten, a.operands)

/-- How many lines an option asks for around the selected ones. -/
def contextCount (a : Arguments) (letter : Char) : Except SearchFault (Option Nat) :=
  match a.value? letter with
  | none => .ok none
  | some text =>
      if text.isEmpty || !text.toList.all Char.isDigit then .error (.badContext text)
      else .ok text.toNat?

/-- How many lines are shown at most. -/
def mostCount (a : Arguments) : Except SearchFault (Option Nat) :=
  match a.value? 'm' with
  | none => .ok none
  | some text =>
      match text.toInt? with
      | none => .error .badMost
      | some n => .ok (if n < 0 then none else some n.toNat)

def searchChoices : List Choice :=
  [⟨'E', ["extended-regexp"], .nothing⟩, ⟨'F', ["fixed-strings"], .nothing⟩,
   ⟨'G', ["basic-regexp"], .nothing⟩, ⟨'P', ["perl-regexp"], .nothing⟩,
   ⟨'e', ["regexp"], .value⟩, ⟨'f', ["file"], .value⟩, ⟨'i', ["ignore-case"], .nothing⟩,
   ⟨'y', [], .nothing⟩, ⟨'v', ["invert-match"], .nothing⟩, ⟨'w', ["word-regexp"], .nothing⟩,
   ⟨'x', ["line-regexp"], .nothing⟩, ⟨'c', ["count"], .nothing⟩,
   ⟨'l', ["files-with-matches"], .nothing⟩, ⟨'L', ["files-without-match"], .nothing⟩,
   ⟨'m', ["max-count"], .value⟩, ⟨'o', ["only-matching"], .nothing⟩,
   ⟨'q', ["quiet", "silent"], .nothing⟩, ⟨'s', ["no-messages"], .nothing⟩,
   ⟨'b', ["byte-offset"], .nothing⟩, ⟨'n', ["line-number"], .nothing⟩,
   ⟨'H', ["with-filename"], .nothing⟩, ⟨'h', ["no-filename"], .nothing⟩,
   ⟨'a', ["text"], .nothing⟩, ⟨'I', [], .nothing⟩, ⟨'A', ["after-context"], .value⟩,
   ⟨'B', ["before-context"], .value⟩, ⟨'C', ["context"], .value⟩, ⟨'r', ["recursive"], .nothing⟩,
   ⟨'R', ["dereference-recursive"], .nothing⟩, ⟨'d', ["directories"], .value⟩,
   ⟨'D', ["devices"], .value⟩, ⟨'z', ["null-data"], .nothing⟩, ⟨'Z', ["null"], .nothing⟩,
   ⟨'U', ["binary"], .nothing⟩, ⟨'\x01', ["label"], .value⟩,
   ⟨'\x02', ["color", "colour"], .maybe⟩, ⟨'\x03', ["line-buffered"], .nothing⟩,
   ⟨'\x04', ["group-separator"], .value⟩, ⟨'\x05', ["no-group-separator"], .nothing⟩] ++
  "0123456789".toList.map fun d => ⟨d, [], .nothing⟩

/-- A search with all that has been asked for. -/
structure SearchTask where
  search : Search
  display : SearchDisplay
  most : Option Nat
  names : List String
  /-- The operators that have been passed over. -/
  idle : List String

/-- Reads what has been asked for. -/
def SearchTask.ofArguments (way : Option Spelling) (a : Arguments) (s : Setting) :
    Except SearchFault SearchTask := do
  let asked := (a.options.filter fun g => "EFGP".toList.contains g.letter).map fun g =>
    match g.letter with
    | 'F' => Spelling.fixed
    | 'G' => Spelling.basic
    | _ => Spelling.extended
  let ways := way.toList ++ asked
  let most ← mostCount a
  let digits := (a.options.map (·.letter)).filter Char.isDigit
  let around ← contextCount a 'C'
  let around := if digits.isEmpty then around else some (valueOf digits)
  let before ← contextCount a 'B'
  let after ← contextCount a 'A'
  if ways.any fun w => ways.head? ≠ some w then throw .conflict
  let (texts, names) ← patternTexts a s
  let read ← texts.mapM (readPattern (ways.head?.getD .basic) (a.hasAny "iy"))
  let pattern := (read.map (·.1)).foldr (fun p q => some (match q with
    | some q => Pattern.either p q
    | none => p)) none
  pure
    { search :=
        { pattern, inverted := a.has 'v', wholeLine := a.has 'x', wholeWord := a.has 'w' }
      display :=
        { titled := false, numbers := a.has 'n', offsets := a.has 'b', matchesAlone := a.has 'o'
          zeroTitles := a.has 'Z', mark := endMark (a.has 'z'), before := before.or around
          after := after.or around
          gap := match a.lastOf? "\x04\x05" with
            | some '\x05' => none
            | _ => some ((a.value? '\x04').getD "--") }
      most, names, idle := read.flatMap (·.2) }

/-- What a search has come to. -/
structure SearchProgress where
  outcome : Outcome
  found : Bool := false
  failed : Bool := false
  /-- Whether lines have been shown. -/
  shown : Bool := false

/-- Searches the text of a file. -/
def SearchTask.text (t : SearchTask) (a : Arguments) (titled : Bool) (title text : String)
    (p : SearchProgress) : SearchProgress :=
  let d := { t.display with titled }
  let isBinary := !a.hasAny "az" && text.toList.contains '\x00'
  let lines := if isBinary && a.has 'I' then [] else fileLines t.search d.mark text
  let lines := match t.most with
    | some n => onlyFirst n lines
    | none => lines
  let selected := (lines.filter (·.selected)).length
  let say (text : String) : SearchProgress :=
    { p with outcome := p.outcome.say text, found := p.found || selected ≠ 0 }
  let named := title ++ (if d.zeroTitles then "\x00" else "\n")
  if a.has 'q' then say ""
  else
    match a.lastOf? "lL" with
    | some letter => say (if (selected ≠ 0) = (letter = 'l') then named else "")
    | none =>
        if a.has 'c' then
          let start := if titled then title ++ (if d.zeroTitles then "\x00" else ":") else ""
          say (start ++ toString selected ++ "\n")
        else if isBinary then
          say (if selected = 0 then "" else "grep: " ++ title ++ ": binary file matches\n")
        else
          { say (d.lines t.search title (!p.shown) lines) with
            shown := p.shown || selected ≠ 0 }

/-- Searches a file. -/
def SearchTask.file (t : SearchTask) (a : Arguments) (s : Setting) (titled : Bool) (name : String)
    (p : SearchProgress) : SearchProgress :=
  if a.has 'q' && p.found then p
  else
    let title := if name = "-" then (a.value? '\x01').getD "(standard input)" else name
    let complained (e : FileError) (o : Outcome) : SearchProgress :=
      { p with
        outcome := if a.has 's' then o else o.warn ("grep: " ++ name ++ ": " ++ e.reason ++ "\n")
        failed := true }
    match readOperand s name p.outcome with
    | (o, .ok text) => t.text a titled title text { p with outcome := o }
    | (o, .error .isDirectory) =>
        if a.value? 'd' = some "skip" then p
        else t.text a titled title "" (complained .isDirectory o)
    | (o, .error e) => complained e o

/-- What is said before a search that is asked for in a wrong way is given up. -/
def searchUsage : String :=
  "Usage: grep [OPTION]... PATTERNS [FILE]...\n" ++ seeHelp "grep"

/-- Shows the lines in which there is a match. -/
def grepAs (way : Option Spelling) : Program := fun args s =>
  match readOptions searchChoices false args with
  | .error e => s.start.complain 2 ("grep: " ++ e.message ++ "\n" ++ searchUsage)
  | .ok a =>
      if a.operands.isEmpty && !a.hasAny "ef" then s.start.complain 2 searchUsage
      else
        match SearchTask.ofArguments way a s with
        | .error e => s.start.complain 2 ("grep: " ++ e.message)
        | .ok t =>
            let start := t.idle.foldl (fun o text =>
              o.warn ("grep: warning: " ++ text ++ " at start of expression\n")) s.start
            let recurses := a.hasAny "rR" || a.value? 'd' = some "recurse"
            let names := if !t.names.isEmpty then t.names else if recurses then ["."] else ["-"]
            let files := if recurses then names.flatMap (searchedFiles s depthLimit false)
              else names.map fun name => (name, false)
            let titled (inside : Bool) : Bool :=
              match a.lastOf? "hH" with
              | some letter => letter = 'H'
              | none => 1 < names.length || inside
            let p := files.foldl (fun p (name, inside) => t.file a s (titled inside) name p)
              ({ outcome := start } : SearchProgress)
            if p.failed && !(p.found && a.has 'q') then p.outcome.exit 2
            else p.outcome.exit (if p.found then 0 else 1)

end DartTriggers.Toolbox
