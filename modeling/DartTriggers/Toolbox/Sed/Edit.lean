import DartTriggers.Toolbox.Process
import DartTriggers.Toolbox.Quote
import DartTriggers.Toolbox.Sed.Script
/-!
Carrying out scripts of the stream editor: a script is carried out on one line after another. While
this goes on there is a pattern space, which holds the line, and a hold space beside it.
-/

namespace DartTriggers.Toolbox.Sed

/-- A line, and whether its end was there. -/
structure Line where
  text : List Char
  ended : Bool

/-- The lines of a text. -/
def linesBy (mark : Char) : List Char → List Line
  | [] => []
  | c :: rest =>
      if c = mark then ⟨[], true⟩ :: linesBy mark rest
      else
        match linesBy mark rest with
        | [] => [⟨[c], false⟩]
        | first :: more =>
            if rest.isEmpty then [⟨[c], false⟩] else { first with text := c :: first.text } :: more

/-- What is found where a file should be. -/
inductive Content where
  | lines (ls : List Line)
  /-- The file is left out, with a complaint and the exit code of that. -/
  | leftOut (complaint : String) (code : Nat)
  /-- Nothing more is done. -/
  | broken (complaint : String) (code : Nat)

structure InputFile where
  name : String
  content : Content

/-- What the command line asks for. -/
structure Style where
  quiet : Bool := false
  extended : Bool := false
  /-- Whether each file has first and last lines of its own. -/
  separate : Bool := false
  /-- The suffix under which files that are edited where they are are kept. -/
  inPlace : Option String := none
  /-- What ends a line. -/
  mark : Char := '\n'
  /-- How wide the lines of a listing are; 0 is without bounds. -/
  width : Nat := 70

/-- The state of the range of an instruction. -/
inductive RangeState where
  | waiting
  /-- Inside, up to the line of a number if it is known. -/
  | inside (stop : Option Nat)
  | closed

/-- Where output goes. -/
inductive Sink where
  /-- The output, or the file that is being edited. -/
  | main
  | file (name : String)
deriving DecidableEq

/-- What waits to be shown after the line. -/
inductive Waiting where
  | text (t : String)
  | file (name : String)

/-- What there is while a script is carried out. -/
structure Machine where
  style : Style
  setting : Setting
  script : Script
  /-- Runs a command line. -/
  shell : Program
  outcome : Outcome
  /-- Output that has not been shown yet. -/
  shown : String := ""
  /-- The new text of the file that is being edited. -/
  edited : String := ""
  space : List Char := []
  /-- Whether the line had an end. -/
  ended : Bool := true
  held : List Char := []
  /-- Whether what is held had an end. -/
  heldEnded : Bool := true
  number : Nat := 0
  fileName : String := "-"
  /-- The lines of the file that are left, and the files after it. -/
  rest : List Line := []
  files : List InputFile := []
  /-- Whether a file is open. -/
  isOpen : Bool := false
  ranges : Array RangeState := #[]
  lastPattern : Option Pattern := none
  /-- Whether there has been a replacement since the line was read. -/
  replaced : Bool := false
  waiting : List Waiting := []
  /-- The files of which lines are read one at a time, with the lines that are left. -/
  readers : List (String × List Line) := []
  /-- The outputs whose last line lacks its end. -/
  owing : List Sink := []
  /-- The exit code of files that are left out. -/
  badCode : Nat := 0
  /-- The exit code, once the script has ended. -/
  quit : Option Nat := none

namespace Machine

/-- Shows all output that has been gathered. -/
def flush (m : Machine) : Machine :=
  { m with outcome := m.outcome.say m.shown, shown := "" }

/-- Ends with a complaint; the file that is being edited stays as it was. -/
def abort (m : Machine) (code : Nat) (text : String) : Machine :=
  { m with
    outcome := m.outcome.warn ("sed: " ++ text ++ "\n"), isOpen := false, quit := some code,
    badCode := code }

/-- Adds text to a file. -/
def appendToFile (m : Machine) (name text : String) : Machine :=
  let path := m.setting.path name
  match readText m.outcome.tree path with
  | .error _ => m
  | .ok old =>
      match writeText m.outcome.tree path (old ++ text) with
      | .ok tree => { m with outcome := { m.outcome with tree } }
      | .error _ => m

/-- Adds text to an output as it is. -/
def emitRaw (m : Machine) (sink : Sink) (text : String) : Machine :=
  match sink with
  | .main =>
      if m.style.inPlace.isSome then { m with edited := m.edited ++ text }
      else { m with shown := m.shown ++ text }
  | .file name =>
      if name = "/dev/stdout" then { m with shown := m.shown ++ text }
      else if name = "/dev/stderr" then { m with outcome := m.outcome.warn text }
      else m.appendToFile name text

/-- Adds text to an output, after the line end that is owed there. -/
def emit (m : Machine) (sink : Sink) (text : String) : Machine :=
  if m.owing.contains sink then
    { m with owing := m.owing.filter (· ≠ sink) }.emitRaw sink
      (String.singleton m.style.mark ++ text)
  else m.emitRaw sink text

/-- Shows a line on an output; one that had no end is owed it. -/
def emitLine (m : Machine) (sink : Sink) (text : List Char) : Machine :=
  if m.ended then m.emit sink (.ofList (text ++ [m.style.mark]))
  else
    let m := m.emit sink (.ofList text)
    { m with owing := sink :: m.owing }

/-- Shows the text of an instruction as lines. -/
def emitText (m : Machine) (text : String) : Machine :=
  if text.isEmpty then m else m.emit .main ((text.dropEnd 1).toString.push m.style.mark)

/-- Shows the content of a file, if there is one. -/
def emitFile (m : Machine) (name : String) : Machine :=
  let text := if name = "/dev/stdin" then .ok m.outcome.input
    else readText m.outcome.tree (m.setting.path name)
  m.emit .main (text.toOption.getD "")

/-- Shows text, or a file, after the line. -/
def emitWaiting (m : Machine) : Waiting → Machine
  | .text t => m.emit .main t
  | .file name => m.emitFile name

/-- Shows what has been waiting for the end of the line. -/
def emitAllWaiting (m : Machine) : Machine :=
  { m.waiting.foldl emitWaiting m with waiting := [] }

/-- Whether files are taken one by one. -/
def isSeparate (m : Machine) : Bool :=
  m.style.separate || m.style.inPlace.isSome

/-- Whether a file has a line. -/
def hasLines (f : InputFile) : Bool :=
  match f.content with
  | .lines ls => !ls.isEmpty
  | _ => false

/-- Whether there is no line after this one. -/
def isLast (m : Machine) : Bool :=
  m.rest.isEmpty && (m.isSeparate || !m.files.any hasLines)

/-- The states that ranges start in. -/
def freshRanges (script : Script) : Array RangeState :=
  script.instructions.map fun i =>
    match i.selection with
    | .range (.line 0) _ => .inside none
    | _ => .waiting

/-- Where a file is kept that is edited where it is. -/
def keptName (name suffix : String) : String :=
  if suffix.contains '*' then
    let base := (name.splitOn "/").getLast?.getD name
    let kept := base.intercalate (suffix.splitOn "*")
    if kept.contains '/' then kept
    else (name.take (name.length - base.length)).toString ++ kept
  else name ++ suffix

/-- Puts the new text of a file in its place. -/
def closeFile (m : Machine) : Machine :=
  match m.isOpen, m.style.inPlace with
  | true, some suffix =>
      let path := m.setting.path m.fileName
      let tree := m.outcome.tree
      let kept := if suffix.isEmpty then .ok tree
        else (readText tree path).bind fun old =>
          writeText tree (m.setting.path (keptName m.fileName suffix)) old
      match kept.bind fun tree => writeText tree path m.edited with
      | .ok tree =>
          { m with
            outcome := { m.outcome with tree }, edited := "", isOpen := false,
            owing := m.owing.filter (· ≠ .main) }
      | .error e =>
          ({ m with isOpen := false }).abort 4
            ("cannot rename " ++ m.fileName ++ ": " ++ e.reason)
  | _, _ => { m with isOpen := false }

/-- Forgets what has been found so far in other files. -/
def startOver (m : Machine) : Machine :=
  { m with
    number := 0, ranges := freshRanges m.script, held := [], readers := [] }

/-- Opens the next file that has a line. -/
def openNext : List InputFile → Machine → Machine
  | [], m => { m with files := [] }.closeFile
  | file :: files, m =>
      let m := m.closeFile
      if m.quit.isSome then m
      else
        match file.content with
        | .leftOut complaint code =>
            openNext files { m with
              outcome := m.outcome.warn ("sed: " ++ complaint ++ "\n"),
              badCode := max code m.badCode }
        | .broken complaint code => { m with files }.abort code complaint
        | .lines ls =>
            let m := { m with fileName := file.name, isOpen := true, rest := ls, files }
            let m := if m.isSeparate then m.startOver else m
            if ls.isEmpty then openNext files m else m

/-- Takes the next line; there is none once all files have been read. What has been waiting is
shown before. -/
def takeLine (m : Machine) : Machine × Option Line :=
  let m := m.emitAllWaiting
  let m := if m.rest.isEmpty then openNext m.files m else m
  match m.rest with
  | [] => (m, none)
  | line :: rest =>
      ({ m with rest, number := m.number + 1, ended := line.ended, replaced := false }, some line)

/-- Whether there is a match; without an expression the last one is used again. -/
def search (m : Machine) (p : Option Pattern) : Machine × Bool :=
  match p.or m.lastPattern with
  | none => (m.abort 1 "-e expression #1, char 0: no previous regular expression", false)
  | some p => ({ m with lastPattern := some p }, p.occursIn m.space)

/-- Whether an address selects the line. -/
def isSelected (m : Machine) : Address → Machine × Bool
  | .line n => (m, m.number = n)
  | .every first step => (m, decide (first ≤ m.number) && (m.number - first) % step = 0)
  | .last => (m, m.isLast)
  | .matching p => m.search p

/-- The line at which a range ends that starts at a line. -/
def stopLine? (start : Nat) : RangeEnd → Option Nat
  | .address (.line n) => some n
  | .address _ => none
  | .after count => some (start + count)
  | .multipleOf n => some (if n = 0 then start else (start / n + 1) * n)

def setRange (m : Machine) (index : Nat) (r : RangeState) : Machine :=
  { m with ranges := m.ranges.setIfInBounds index r }

/-- Whether the line starts the range of an instruction. A range from a line number on starts at the
first line that it sees from there, and only once. -/
def isStart (m : Machine) (index : Nat) (start : Address) : Machine × Bool :=
  match start, m.ranges[index]? with
  | .line _, some .closed => (m, false)
  | .line n, _ => (m, decide (n ≤ m.number))
  | a, _ => m.isSelected a

/-- Whether the range of an instruction goes on at the line. A range that ends at a line of a given
number does not match what comes after that line. -/
def goesOn (m : Machine) (index : Nat) (stop : RangeEnd) (last : Option Nat) : Machine × Bool :=
  match last, stop with
  | some last, stop =>
      let isGiven := match stop with
        | .address _ => true
        | _ => false
      (if last ≤ m.number then m.setRange index .closed else m,
        !isGiven || decide (m.number ≤ last))
  | none, .address a =>
      let (m, stops) := m.isSelected a
      (if stops then m.setRange index .closed else m, true)
  | none, _ => (m, true)

/-- Starts the range of an instruction at the line; it may end there too. -/
def enterRange (m : Machine) (index : Nat) (start : Address) (stop : RangeEnd) :
    Machine × Bool :=
  match stopLine? m.number stop, stop with
  | some last, _ =>
      if last ≤ m.number then
        let isFirst := match start with
          | .line n => decide (n = m.number ∨ m.number ≤ last)
          | _ => true
        (m.setRange index .closed, isFirst)
      else (m.setRange index (.inside (some last)), true)
  | none, .address (.matching _) => (m.setRange index (.inside none), true)
  | none, .address a =>
      let (m, stops) := m.isSelected a
      (m.setRange index (if stops then .closed else .inside none), true)
  | none, _ => (m, true)

/-- Whether an instruction is for the line. -/
def applies (m : Machine) (index : Nat) : Selection → Machine × Bool
  | .all => (m, true)
  | .each a => m.isSelected a
  | .range start stop =>
      match m.ranges[index]? with
      | some (.inside last) => m.goesOn index stop last
      | _ =>
          let (m, starts) := m.isStart index start
          if starts then m.enterRange index start stop else (m, false)

/-- A letter changed as a case wants it; an octet that is no character has no case. -/
def cased (case : Case) (c : Char) : Char :=
  match case with
  | .same => c
  | .lower => if c.toNat < 128 then c.toLower else '\xff'
  | .upper => if c.toNat < 128 then c.toUpper else '\xff'

/-- Text changed as a case wants it, its first letter maybe otherwise. -/
def casedText (case : Case) (first : Option Case) : List Char → List Char
  | [] => []
  | c :: rest => cased (first.getD case) c :: rest.map (cased case)

/-- The text of a replacement for a match. A wish for the first letter that finds none is kept for
the next part, unless that has a wish of its own. -/
def filled (found : Pattern.Found) : (wish : Option Case) → List Part → List Char
  | _, [] => []
  | wish, part :: rest =>
      let first := part.first.or wish
      let text := casedText part.case first part.text
      let left := if part.text.isEmpty then first else none
      match part.group with
      | none => text ++ filled found none rest
      | some index =>
          let matched := if index = 0 then found.text
            else (found.after.groups.lookup index).getD []
          let kept := if matched.isEmpty && part.first.isSome then left else none
          text ++ casedText part.case left matched ++ filled found kept rest

/-- Replaces matches from some number on, or that one alone; tells whether there was one. An empty
match right after another match does not count. -/
def replaceFrom (p : Pattern) (replacement : List Part) (all : Bool) :
    (room nth : Nat) → (before : Option Char) → (afterMatch : Bool) → List Char →
      List Char × Bool
  | 0, _, _, _, s => (s, false)
  | room + 1, nth, before, afterMatch, s =>
      match p.search? before s with
      | none => (s, false)
      | some found =>
          let rest := found.after.rest
          let moveOn (nth : Nat) : List Char × Bool :=
            if found.text.isEmpty then
              match rest with
              | [] => ([], false)
              | c :: rest =>
                  let (text, any) := replaceFrom p replacement all room nth (some c) false rest
                  (c :: text, any)
            else replaceFrom p replacement all room nth found.after.before true rest
          if found.text.isEmpty && found.before.isEmpty && afterMatch then moveOn nth
          else if 1 < nth then
            let (text, any) := moveOn (nth - 1)
            (found.before ++ found.text ++ text, any)
          else if all then
            (found.before ++ filled found none replacement ++ (moveOn nth).1, true)
          else (found.before ++ filled found none replacement ++ rest, true)

/-- Runs a command line; gives its output. -/
def runCommand (m : Machine) (text : String) : Machine × String :=
  let m := m.flush
  let ran := m.shell ["-c", text] { m.setting with tree := m.outcome.tree, outputFile := none }
  ({ m with outcome := { (m.outcome.warn ran.err) with tree := ran.tree } }, ran.out)

/-- Takes the output of a command for the line. -/
def runLine (m : Machine) (text : List Char) : Machine :=
  let (m, out) := m.runCommand (.ofList text)
  let out := out.toList
  { m with space := if out.getLast? = some m.style.mark then out.dropLast else out }

/-- Replaces matches in the line. -/
def substitute (m : Machine) (s : Substitution) : Machine :=
  match s.pattern.or m.lastPattern with
  | none => m.abort 1 "-e expression #1, char 0: no previous regular expression"
  | some p =>
      let m := { m with lastPattern := some p }
      let (text, any) := replaceFrom p s.replacement s.all (m.space.length + 2) s.nth none false
        m.space
      if !any then m
      else
        let m := { m with space := text, replaced := true }
        let m := if s.runs then m.runLine text else m
        let m := if s.shows then m.emitLine .main m.space else m
        match s.file with
        | none => m
        | some name => m.emitLine (.file name) m.space

/-- A character as a listing shows it. -/
def shownChar (c : Char) : List Char :=
  match (('\\', '\\') :: controlLetters).lookup c with
  | some letter => ['\\', letter]
  | none => if isShowable c then [c] else '\\' :: octalDigits c

/-- A line as a listing shows it, broken where it gets too wide. -/
def listing (mark : Char) (width : Nat) : (column : Nat) → List Char → List Char
  | _, [] => ['$']
  | column, c :: rest =>
      let text := shownChar c
      if 0 < width && width - 1 < column + text.length then
        '\\' :: mark :: text ++ listing mark width text.length rest
      else text ++ listing mark width (column + text.length) rest

/-- The text up to the first line end. -/
def firstLine (mark : Char) (s : List Char) : List Char :=
  s.takeWhile (· ≠ mark)

/-- Shows the first line of the pattern space on an output. -/
def emitFirst (m : Machine) (sink : Sink) : Machine :=
  let first := firstLine m.style.mark m.space
  if first.length = m.space.length then m.emitLine sink first
  else m.emit sink (.ofList (first ++ [m.style.mark]))

end Machine

/-- What follows an instruction. -/
inductive Next where
  | goOn
  | goTo (index : Nat)
  /-- The script has come to its end for the line. -/
  | endLine
  /-- So it has, and the line is not shown. -/
  | dropLine
  /-- The script starts again without a new line. -/
  | again

namespace Machine

/-- Reads the next line into the pattern space, or adds it there. -/
def advance (m : Machine) (use : Machine → Line → Machine) : Machine × Next :=
  if m.isLast then (m, .endLine)
  else
    match m.takeLine with
    | (m, none) => (m, .endLine)
    | (m, some line) => (use m line, .goOn)

/-- Lets the next line of a file wait to be shown. -/
def readLineOf (m : Machine) (name : String) : Machine :=
  let known := m.readers.lookup name
  let lines := match known with
    | some lines => lines
    | none =>
        match readText m.outcome.tree (m.setting.path name) with
        | .ok text => linesBy m.style.mark text.toList
        | .error _ => []
  let others := m.readers.filter fun r => r.1 ≠ name
  match lines with
  | [] => { m with readers := (name, []) :: others }
  | line :: rest =>
      let text := String.ofList (if line.ended then line.text ++ [m.style.mark] else line.text)
      { m with readers := (name, rest) :: others, waiting := m.waiting ++ [.text text] }

/-- Carries out an action; `index` is where its instruction stands. -/
def perform (m : Machine) (index : Nat) : Action → Machine × Next
  | .nothing => (m, .goOn)
  | .block _ => (m, .goOn)
  | .append t => ({ m with waiting := m.waiting ++ [.text t] }, .goOn)
  | .insert t => (m.emitText t, .goOn)
  | .change t =>
      match m.ranges[index]? with
      | some (.inside _) => (m, .dropLine)
      | _ => (m.emitText t, .dropLine)
  | .delete => (m, .dropLine)
  | .deleteFirst =>
      let first := firstLine m.style.mark m.space
      if first.length = m.space.length then (m, .dropLine)
      else ({ m with space := m.space.drop (first.length + 1) }, .again)
  | .show => (m.emitLine .main m.space, .goOn)
  | .showFirst => (m.emitFirst .main, .goOn)
  | .hold => ({ m with held := m.space, heldEnded := m.ended }, .goOn)
  | .holdMore =>
      ({ m with held := m.held ++ m.style.mark :: m.space, heldEnded := m.ended }, .goOn)
  | .get => ({ m with space := m.held, ended := m.heldEnded }, .goOn)
  | .getMore =>
      ({ m with space := m.space ++ m.style.mark :: m.held, ended := m.heldEnded }, .goOn)
  | .exchange =>
      ({ m with space := m.held, ended := m.heldEnded, held := m.space, heldEnded := m.ended },
        .goOn)
  | .next =>
      if m.isLast then (m, .endLine)
      else
        let m := if m.style.quiet then m else m.emitLine .main m.space
        m.advance fun m line => { m with space := line.text }
  | .nextMore =>
      m.advance fun m line => { m with space := m.space ++ m.style.mark :: line.text }
  | .number => (m.emitText (toString m.number ++ "\n"), .goOn)
  | .fileName => (m.emitText (m.fileName ++ "\n"), .goOn)
  | .clear => ({ m with space := [] }, .goOn)
  | .quit code =>
      let m := if m.style.quiet then m else m.emitLine .main m.space
      ({ (m.emit .main "").emitAllWaiting with quit := some code }, .dropLine)
  | .quitSilently code => ({ m with quit := some code }, .dropLine)
  | .jump label => (m, .goTo (m.script.find label))
  | .jumpIf label =>
      if m.replaced then ({ m with replaced := false }, .goTo (m.script.find label))
      else (m, .goOn)
  | .jumpUnless label =>
      if m.replaced then ({ m with replaced := false }, .goOn)
      else (m, .goTo (m.script.find label))
  | .readFile name => ({ m with waiting := m.waiting ++ [.file name] }, .goOn)
  | .insertFile name => (m.emitFile name, .goOn)
  | .readLine name => (m.readLineOf name, .goOn)
  | .writeFile name => (m.emitLine (.file name) m.space, .goOn)
  | .writeFirst name => (m.emitFirst (.file name), .goOn)
  | .list width =>
      (m.emitText (.ofList (listing m.style.mark (width.getD m.style.width) 0 m.space ++ ['\n'])),
        .goOn)
  | .substitute s => (m.substitute s, .goOn)
  | .mapChars pairs =>
      ({ m with space := m.space.map fun c => (pairs.lookup c).getD c }, .goOn)
  | .run command =>
      if command.isEmpty then (m.runLine m.space, .goOn)
      else
        let (m, out) := m.runCommand command
        (m.emit .main out, .goOn)

/-- Goes through the script from an instruction on, for no more instructions than there is room. -/
def walk : (room : Nat) → (index : Nat) → Machine → Machine × Next
  | 0, _, m => (m.abort 4 "too many instructions", .dropLine)
  | room + 1, index, m =>
      match m.script.instructions[index]? with
      | none => (m, .endLine)
      | some i =>
          let (m, selected) := m.applies index i.selection
          if m.quit.isSome then (m, .dropLine)
          else if selected = i.negated then
            match i.action with
            | .block stop => walk room (stop + 1) m
            | _ => walk room (index + 1) m
          else
            match m.perform index i.action with
            | (m, .goOn) =>
                if m.quit.isSome then (m, .dropLine) else walk room (index + 1) m
            | (m, .goTo target) => walk room target m
            | result => result

/-- How many instructions are carried out for one line at most. -/
def instructionLimit : Nat := 1000000

/-- Carries out the script on the lines that are left. -/
def cycles : (room : Nat) → (fresh : Bool) → Machine → Machine
  | 0, _, m => m
  | room + 1, fresh, m =>
      let (m, isThere) :=
        if fresh then
          match m.takeLine with
          | (m, none) => (m, false)
          | (m, some line) => ({ m with space := line.text }, true)
        else (m, true)
      if !isThere || m.quit.isSome then m
      else
        match walk instructionLimit 0 m with
        | (m, .again) => cycles room false m
        | (m, next) =>
            if m.quit.isSome then m
            else
              match next with
              | .dropLine => cycles room true m
              | _ => cycles room true (if m.style.quiet then m else m.emitLine .main m.space)

/-- How many lines there are, and how many characters in them. -/
def inputSize (files : List InputFile) : Nat :=
  files.foldl (fun n f =>
    match f.content with
    | .lines ls => n + ls.foldl (fun n l => n + l.text.length + 1) 0
    | _ => n) 0

/-- Carries out the script on all files. -/
def runAll (m : Machine) : Outcome :=
  let m := cycles (10 * inputSize m.files + 10 * instructionLimit) true m
  let m := m.closeFile.flush
  m.outcome.exit (if m.badCode = 0 then m.quit.getD 0 else m.badCode)

end Machine

end DartTriggers.Toolbox.Sed
