import DartTriggers.Toolbox.PatternReader
import DartTriggers.Toolbox.Sed.Script
/-!
Reading scripts of the stream editor. A script comes in pieces, from arguments and from files; each
is read to its end before the next. Text that an instruction adds may go on in the next piece.
-/

namespace DartTriggers.Toolbox.Sed

/-- What is wrong with a script. -/
inductive Fault where
  | pattern (e : PatternFault)
  | openAddress
  | openSubstitution
  | openMapping
  | unknownSetting
  | manyShows
  | manyAlls
  | manyNumbers
  | zeroNumber
  | unequalLengths
  | settingsOfNothing
  | noSuchGroup (index : Nat)
  | strayComma
  | manyNegations
  | lineZero
  | relativeStart
  | noInstruction
  | unknownInstruction (c : Char)
  | moreAfterInstruction
  | noText
  | strayClose
  | addressOfClose
  | addressOfLabel
  | addressOfComment
  | twoAddresses
  | emptyLabel
  | noFileName
  | newerVersion
  | escapedEscape
deriving DecidableEq, Repr

def Fault.message : Fault → String
  | .pattern e => e.message
  | .openAddress => "unterminated address regex"
  | .openSubstitution => "unterminated \x60s' command"
  | .openMapping => "unterminated \x60y' command"
  | .unknownSetting => "unknown option to \x60s'"
  | .manyShows => "multiple \x60p' options to \x60s' command"
  | .manyAlls => "multiple \x60g' options to \x60s' command"
  | .manyNumbers => "multiple number options to \x60s' command"
  | .zeroNumber => "number option to \x60s' command may not be zero"
  | .unequalLengths => "strings for \x60y' command are different lengths"
  | .settingsOfNothing => "cannot specify modifiers on empty regexp"
  | .noSuchGroup index => "invalid reference \\" ++ toString index ++ " on \x60s' command's RHS"
  | .strayComma => "unexpected \x60,'"
  | .manyNegations => "multiple \x60!'s"
  | .lineZero => "invalid usage of line address 0"
  | .relativeStart => "invalid usage of +N or ~N as first address"
  | .noInstruction => "missing command"
  | .unknownInstruction c => "unknown command: \x60" ++ .singleton c ++ "'"
  | .moreAfterInstruction => "extra characters after command"
  | .noText => "expected \\ after \x60a', \x60c' or \x60i'"
  | .strayClose => "unexpected \x60\x7d'"
  | .addressOfClose => "\x60\x7d' doesn't want any addresses"
  | .addressOfLabel => ": doesn't want any addresses"
  | .addressOfComment => "comments don't accept any addresses"
  | .twoAddresses => "command only uses one address"
  | .emptyLabel => "\":\" lacks a label"
  | .noFileName => "missing filename in r/R/w/W commands"
  | .newerVersion => "expected newer version of sed"
  | .escapedEscape => "recursive escaping after \\c not allowed"

/-- A spot in a script: the number of the piece, how much of the piece comes before it, and its
line in the piece. -/
structure Spot where
  piece : Nat
  position : Nat
  line : Nat
deriving DecidableEq, Repr

/-- Why a script cannot be carried out. -/
inductive Complaint where
  | malformed (fault : Fault) (spot : Spot)
  /-- A named class stands without the brackets around it. -/
  | nakedClass
  | noLabel (name : String)
  | openBlock (spot : Spot)
deriving DecidableEq, Repr

/-- Text that may go on in the next piece. -/
structure Pending where
  /-- The instruction that the text belongs to. -/
  owner : Nat
  /-- The text as it is written. -/
  raw : List Char

/-- What has been read so far. -/
structure Draft where
  /-- How expressions are read. -/
  extended : Bool
  /-- What is left of the piece. -/
  rest : List Char := []
  /-- The piece. -/
  whole : List Char := []
  /-- The number of the piece. -/
  piece : Nat := 0
  script : Script := {}
  /-- The blocks that are open, the innermost first. -/
  blocks : List (Nat × Spot) := []
  /-- The labels that are jumped to, the last one first. -/
  jumps : List String := []
  pending : Option Pending := none
  /-- The files that are to be written to, in the order in which they are named. -/
  outputs : List String := []

/-- How much of the piece has been read. -/
def Draft.position (d : Draft) : Nat :=
  d.whole.length - d.rest.length

def Draft.spot (d : Draft) : Spot :=
  ⟨d.piece, d.position, (d.whole.take d.position).count '\n' + 1⟩

/-- Reading goes on from a draft to a draft; a complaint ends it and leaves the draft. -/
abbrev Reader := ExceptT Complaint (StateM Draft)

namespace Reader

def fail {α : Type} (fault : Fault) : Reader α := do
  throw (.malformed fault (← get).spot)

/-- The next character, if there is one. -/
def char? : Reader (Option Char) := do
  let d ← get
  match d.rest with
  | [] => pure none
  | c :: rest =>
      set { d with rest }
      pure (some c)

/-- Gives a character back. -/
def back (c : Option Char) : Reader Unit :=
  modify fun d => { d with rest := c.toList ++ d.rest }

/-- Takes the characters of a kind. -/
def takeWhile (p : Char → Bool) : Reader (List Char) := do
  let d ← get
  set { d with rest := d.rest.dropWhile p }
  pure (d.rest.takeWhile p)

end Reader

def isBlank (c : Char) : Bool :=
  c = ' ' || c = '\t'

def isSpace (c : Char) : Bool :=
  c = ' ' || ('\t' ≤ c && c ≤ '\r')

namespace Reader

/-- The next character that is no blank. -/
def visible? : Reader (Option Char) := do
  let _ ← takeWhile isBlank
  char?

/-- The value of the digits that come next, none being zero. -/
def number : Reader Nat := do
  let digits ← takeWhile Char.isDigit
  pure (digits.foldl (fun n c => n * 10 + (c.toNat - 48)) 0)

/-- Sees that nothing but the end of an instruction follows. -/
def endInstruction : Reader Unit := do
  let c ← visible?
  if c = some '\x7d' ∨ c = some '#' then back c
  else if c = none ∨ c = some '\n' ∨ c = some ';' then pure ()
  else fail .moreAfterInstruction

/-- The name of a label. -/
def label : Reader String := do
  let _ ← takeWhile isBlank
  let name ← takeWhile fun c => !isSpace c && c != ';' && c != '\x7d'
  pure (.ofList name)

/-- The name of a file, up to the end of the line. -/
def fileName : Reader String := do
  let _ ← takeWhile isBlank
  let name ← takeWhile (· != '\n')
  if name.isEmpty then fail .noFileName
  let _ ← char?
  pure (.ofList name)

/-- The name of a file that is to be written to. -/
def outputName : Reader String := do
  let name ← fileName
  modify fun d => { d with outputs := if d.outputs.contains name then d.outputs
    else d.outputs ++ [name] }
  pure name

end Reader

/-- A bracket expression after its opening bracket, up to the closing one, and what is left from
there on. `nesting` says what part of a named class has been seen: nothing (0), its bracket (1), its
mark (2), its closing mark (3). -/
def bracketText : (nesting : Nat) → (mark : Char) → List Char → List Char × List Char
  | _, _, [] => ([], [])
  | nesting, mark, c :: rest =>
      let more (nesting : Nat) (mark : Char) : List Char × List Char :=
        let (text, left) := bracketText nesting mark rest
        (c :: text, left)
      let outward := nesting / 2 * 2
      if c = '\n' then ([], c :: rest)
      else if c = '.' || c = ':' || c = '=' then
        if nesting = 1 then more 2 c
        else if nesting = 2 && c = mark then more 3 mark
        else more outward mark
      else if c = '[' then more (if nesting = 0 then 1 else nesting) mark
      else if c = ']' then
        if nesting = 0 || nesting = 1 then ([], c :: rest)
        else if nesting = 3 then more 0 mark
        else more outward mark
      else more outward mark

/-- A bracket expression after its opening bracket, where a caret and a closing bracket may stand
before all else. -/
def bracketStart (s : List Char) : List Char × List Char :=
  let (caret, s) := match s with
    | '^' :: rest => (['^'], rest)
    | s => ([], s)
  let (close, s) := match s with
    | ']' :: rest => ([']'], rest)
    | s => ([], s)
  let (text, left) := bracketText 0 ':' s
  (caret ++ close ++ text, left)

/-- The text up to a mark, what follows, and whether the mark was there. In an expression a bracket
hides the mark. -/
def delimited (mark : Char) (isPattern : Bool) :
    (room : Nat) → List Char → List Char × List Char × Bool
  | 0, s => ([], s, false)
  | room + 1, s =>
      let after (text : List Char) (rest : List Char) : List Char × List Char × Bool :=
        let (more, left, closed) := delimited mark isPattern room rest
        (text ++ more, left, closed)
      match s with
      | [] => ([], [], false)
      | c :: rest =>
          if c = '\n' then ([], s, false)
          else if c = mark then ([], rest, true)
          else if c = '\\' then
            match rest with
            | [] => ([], [], false)
            | d :: rest =>
                if d = 'n' && isPattern then after ['\n'] rest
                else if d = '\n' || (d = mark && (isPattern || d != '&')) then after [d] rest
                else after ['\\', d] rest
          else if c = '[' && isPattern then
            match bracketStart rest with
            | (text, ']' :: rest) => after ('[' :: text ++ [']']) rest
            | (text, left) => (text, left, false)
          else after [c] rest

/-- Takes the text up to a mark. -/
def Reader.upTo (mark : Option Char) (isPattern : Bool) (missing : Fault) :
    Reader (List Char) := do
  let d ← get
  match mark with
  | none => fail missing
  | some mark =>
      let (text, rest, closed) := delimited mark isPattern (d.rest.length + 1) d.rest
      set { d with rest }
      if closed then pure text else fail missing

/-- What the escape of a character by its number stands for, and what follows; without digits
it is the letter. -/
def numbered (letter : Char) (base most : Nat) (s : List Char) : Char × List Char :=
  let value? (c : Char) : Option Nat :=
    let n := if c.isDigit then c.toNat - 48
      else if 'a' ≤ c ∧ c ≤ 'f' then c.toNat - 87
      else if 'A' ≤ c ∧ c ≤ 'F' then c.toNat - 55
      else base
    if n < base then some n else none
  let digits := (s.take most).takeWhile fun c => (value? c).isSome
  if digits.isEmpty then (letter, s)
  else
    let n := digits.foldl (fun n c => n * base + (value? c).getD 0) 0
    (Char.ofNat (n % 256), s.drop digits.length)

/-- The controls that have a letter of their own. -/
def controls : List (Char × Char) :=
  [('a', '\x07'), ('f', '\x0c'), ('n', '\n'), ('r', '\r'), ('t', '\t'), ('v', '\x0b')]

/-- A letter with the control key held. -/
def controlOf (c : Char) : Char :=
  Char.ofNat (c.toUpper.toNat ^^^ 64)

/-- Puts characters in the place of their escapes; other escapes stay. `keeps` are the
characters that stay escaped if they come from a number. -/
def unescape (keeps : List Char) : (room : Nat) → List Char → List Char
  | 0, s => s
  | room + 1, s =>
      let fromNumber (letter : Char) (base most : Nat) (rest : List Char) : List Char :=
        let (c, left) := numbered letter base most rest
        (if keeps.contains c then ['\\', c] else [c]) ++ unescape keeps room left
      match s with
      | [] => []
      | '\\' :: c :: rest =>
          match controls.lookup c with
          | some control => control :: unescape keeps room rest
          | none =>
              if c = 'd' then fromNumber c 10 3 rest
              else if c = 'o' then fromNumber c 8 3 rest
              else if c = 'x' then fromNumber c 16 2 rest
              else if c = 'c' then
                match rest with
                | [] => ['\\']
                | key :: rest => controlOf key :: unescape keeps room rest
              else '\\' :: c :: unescape keeps room rest
      | c :: rest => c :: unescape keeps room rest

def unescaped (keeps : List Char) (s : List Char) : List Char :=
  unescape keeps (s.length + 1) s

/-- Reads the text of an expression; the empty one stands for the expression that was used last. -/
def Reader.pattern (text : List Char) (anyCase byLine : Bool) (groups : Nat) :
    Reader (Option Pattern) := do
  if text.isEmpty then
    if anyCase || byLine then fail .settingsOfNothing
    pure none
  else
    let reading : Pattern.Reading := { extended := (← get).extended, anyCase, byLine }
    match reading.pattern (unescaped [] text) with
    | .error e => fail (.pattern e)
    | .ok w =>
        if w.groups < groups then fail (.noSuchGroup groups)
        if w.naked then throw .nakedClass
        pure (some w.pattern)

/-- Reads the settings after the expression of an address. -/
def Reader.addressSettings (text : List Char) :
    (room : Nat) → (anyCase byLine : Bool) → Reader Address
  | 0, _, _ => pure (.matching none)
  | room + 1, anyCase, byLine => do
      let c ← visible?
      if c = some 'I' then addressSettings text room true byLine
      else if c = some 'M' then addressSettings text room anyCase true
      else
        back c
        pure (.matching (← pattern text anyCase byLine 0))

/-- An address, or what can only stand after a comma. -/
inductive Position where
  | address (a : Address)
  | after (count : Nat)
  | multipleOf (n : Nat)

/-- Reads an address that starts with a character, if one does. -/
def Reader.position? (c : Option Char) : Reader (Option Position) := do
  match c with
  | none => pure none
  | some c =>
      if c = '/' ∨ c = '\\' then
        let mark ← if c = '/' then pure (some c) else char?
        let text ← upTo mark true .openAddress
        let size := (← get).rest.length
        pure (some (.address (← addressSettings text (size + 1) false false)))
      else if c.isDigit then
        back c
        let n ← number
        let next ← visible?
        if next = some '~' then
          let _ ← takeWhile isBlank
          let step ← number
          pure (some (.address (if step = 0 then .line n else .every n step)))
        else
          back next
          pure (some (.address (.line n)))
      else if c = '+' ∨ c = '~' then
        let _ ← takeWhile isBlank
        let n ← number
        pure (some (if c = '+' then .after n else .multipleOf n))
      else if c = '$' then pure (some (.address .last))
      else pure none

/-- Reads the lines that an instruction is for, and the character after them. -/
def Reader.selection (c : Option Char) : Reader (Selection × Option Char) := do
  match ← position? c with
  | none => pure (.all, c)
  | some (.after _) | some (.multipleOf _) => fail .relativeStart
  | some (.address start) =>
      let next ← visible?
      let stop ← if next = some ',' then
          match ← position? (← visible?) with
          | none => fail .strayComma
          | some stop => pure (some stop)
        else pure none
      let next ← if stop.isSome then visible? else pure next
      let startsAtZero := match start with
        | .line 0 => true
        | _ => false
      match stop with
      | none =>
          if startsAtZero && next != some 'r' then fail .lineZero else pure (.each start, next)
      | some stop =>
          let stopMatches := match stop with
            | .address (.matching _) => true
            | _ => false
          if startsAtZero && !stopMatches then fail .lineZero
          let stop := match stop with
            | .address a => RangeEnd.address a
            | .after n => .after n
            | .multipleOf n => .multipleOf n
          pure (.range start stop, next)

/-- The text that an instruction adds, as it is written, up to the end of its last line; whether it
goes on in the next piece; and what follows. -/
def rawText : List Char → List Char × Bool × List Char
  | [] => (['\n'], false, [])
  | '\\' :: [] => (['\n'], true, [])
  | '\\' :: c :: rest =>
      let (text, goesOn, left) := rawText rest
      ('\\' :: c :: text, goesOn, left)
  | c :: rest =>
      if c = '\n' then (['\n'], false, rest)
      else
        let (text, goesOn, left) := rawText rest
        (c :: text, goesOn, left)

/-- Leaves out the backslashes that are left. -/
def withoutBackslashes : List Char → List Char
  | [] => []
  | '\\' :: c :: rest => c :: withoutBackslashes rest
  | c :: rest => c :: withoutBackslashes rest

/-- The text that written text stands for. -/
def addedText (raw : List Char) : String :=
  .ofList (withoutBackslashes (unescaped ['\\'] raw))

/-- An action with another text. -/
def Action.withText (a : Action) (text : String) : Action :=
  match a with
  | .append _ => .append text
  | .insert _ => .insert text
  | .change _ => .change text
  | .run _ => .run (text.dropEnd 1).toString
  | a => a

namespace Reader

/-- Changes an instruction that has been read. -/
def update (index : Nat) (f : Action → Action) : Reader Unit :=
  modify fun d =>
    { d with script := { d.script with
        instructions := d.script.instructions.modify index fun i =>
          { i with action := f i.action } } }

/-- Reads text for an instruction, after what of it has been read. -/
def text (owner : Nat) (before : List Char) : Reader Unit := do
  let d ← get
  let (more, goesOn, rest) := rawText d.rest
  let raw := before ++ more
  if goesOn then
    set { d with rest, pending := some ⟨owner, raw⟩ }
    update owner (·.withText (.ofList raw))
  else
    set { d with rest, pending := none }
    update owner (·.withText (addedText raw))

/-- Reads the text after the letter of an instruction. -/
def newText (owner : Nat) : Reader Unit := do
  match ← visible? with
  | none => fail .noText
  | some '\\' =>
      match ← char? with
      | none => modify fun d => { d with pending := some ⟨owner, []⟩ }
      | some '\n' => text owner []
      | c =>
          back c
          text owner []
  | c =>
      back c
      text owner []

/-- The text of a command to run; none stands for the line. -/
def commandText (owner : Nat) : Reader Unit := do
  let c ← visible?
  if c = none ∨ c = some '\n' then pure ()
  else
    back c
    text owner []

end Reader

/-- How letters are changed from some point of a replacement on. -/
structure Casing where
  lasting : Case := .same
  first : Option Case := none

/-- The parts of a replacement. `text` is what has been read of the part, last character first. -/
def partsOf (casing : Casing) (text : List Char) : List Char → List Part
  | [] => if text.isEmpty then [] else [⟨text.reverse, casing.lasting, casing.first, none⟩]
  | '\\' :: c :: rest =>
      let part (group : Option Nat) : Part := ⟨text.reverse, casing.lasting, casing.first, group⟩
      let settled : Casing := ⟨casing.lasting, none⟩
      if c.isDigit then part (some (c.toNat - 48)) :: partsOf settled [] rest
      else if c = 'L' then part none :: partsOf ⟨.lower, none⟩ [] rest
      else if c = 'U' then part none :: partsOf ⟨.upper, none⟩ [] rest
      else if c = 'E' then part none :: partsOf ⟨.same, none⟩ [] rest
      else if c = 'l' then part none :: partsOf { settled with first := some .lower } [] rest
      else if c = 'u' then part none :: partsOf { settled with first := some .upper } [] rest
      else { part none with text := (c :: text).reverse } :: partsOf settled [] rest
  | '&' :: rest =>
      ⟨text.reverse, casing.lasting, casing.first, some 0⟩ ::
        partsOf ⟨casing.lasting, none⟩ [] rest
  | c :: rest => partsOf casing (c :: text) rest

/-- The settings of a substitution so far. -/
structure Settings where
  anyCase : Bool := false
  byLine : Bool := false
  nth : Option Nat := none
  all : Bool := false
  shows : Bool := false
  runs : Bool := false
  file : Option String := none

/-- Reads the settings of a substitution. -/
def Reader.settings : (room : Nat) → Settings → Reader Settings
  | 0, s => pure s
  | room + 1, s => do
      match ← char? with
      | none => pure s
      | some c =>
          if c = 'i' ∨ c = 'I' then settings room { s with anyCase := true }
          else if c = 'm' ∨ c = 'M' then settings room { s with byLine := true }
          else if c = 'e' then settings room { s with runs := true }
          else if c = 'p' then
            if s.shows then fail .manyShows
            settings room { s with shows := true }
          else if c = 'g' then
            if s.all then fail .manyAlls
            settings room { s with all := true }
          else if c = 'w' then pure { s with file := some (← outputName) }
          else if c.isDigit then
            if s.nth.isSome then fail .manyNumbers
            back c
            let n ← number
            if n = 0 then fail .zeroNumber
            settings room { s with nth := some n }
          else if c = '\x7d' ∨ c = '#' then
            back c
            pure s
          else if c = '\n' ∨ c = ';' then pure s
          else if isBlank c then settings room s
          else if c = '\r' then
            if (← char?) = some '\n' then pure s else fail .unknownSetting
          else fail .unknownSetting

/-- Reads a substitution after its letter. -/
def Reader.substitution : Reader Action := do
  let mark ← char?
  let text ← upTo mark true .openSubstitution
  let written ← upTo mark false .openSubstitution
  let replacement := partsOf {} [] (unescaped ['\\', '&'] written)
  let size := (← get).rest.length
  let s ← settings (size + 1) {}
  let groups := (replacement.filterMap (·.group)).foldl max 0
  let pattern ← pattern text s.anyCase s.byLine groups
  pure (.substitute
    { pattern, replacement, nth := s.nth.getD 1, all := s.all, shows := s.shows, runs := s.runs,
      file := s.file })

/-- The characters that one side of a mapping lists. -/
def listed : List Char → List Char
  | [] => []
  | '\\' :: c :: rest => (if c = 'n' then '\n' else c) :: listed rest
  | c :: rest => c :: listed rest

/-- Reads a mapping of characters after its letter. -/
def Reader.mapping : Reader Action := do
  let mark ← char?
  let sources := listed (unescaped [] (← upTo mark false .openMapping))
  let targets := listed (unescaped [] (← upTo mark false .openMapping))
  if sources.length ≠ targets.length then fail .unequalLengths
  endInstruction
  pure (.mapChars (sources.zip targets).reverse)

/-- The version of the stream editor. -/
def version : List Nat := [4, 9, 0]

/-- Whether a version is newer than this one; what is no version counts as newer. -/
def isNewer (text : String) : Bool :=
  let parts := (text.splitOn ".").map String.toNat?
  parts.any (·.isNone) || decide (version < (parts.filterMap id ++ [0, 0]).take 3)

/-- The actions that are a letter and nothing else. -/
def simpleActions : List (Char × Action) :=
  [('=', .number), ('d', .delete), ('D', .deleteFirst), ('F', .fileName), ('g', .get),
   ('G', .getMore), ('h', .hold), ('H', .holdMore), ('n', .next), ('N', .nextMore), ('p', .show),
   ('P', .showFirst), ('z', .clear), ('x', .exchange)]

namespace Reader

/-- Adds an instruction; gives its place. -/
def push (i : Instruction) : Reader Nat := do
  let d ← get
  let index := d.script.instructions.size
  set { d with script := { d.script with instructions := d.script.instructions.push i } }
  pure index

/-- Reads a number after the letter of an instruction, if there is one. -/
def argument? : Reader (Option Nat) := do
  let c ← visible?
  let n ← if c.any Char.isDigit then
      back c
      some <$> number
    else
      back c
      pure none
  endInstruction
  pure n

/-- Reads the comment after its mark. The first comment of a script can ask for quiet. -/
def comment : Reader Unit := do
  let d ← get
  let line := d.rest.takeWhile (· != '\n')
  let isFirst := decide (d.piece = 0 ∧ d.position = 1)
  let quiet := d.script.quiet || (isFirst && line.head? == some 'n')
  let d := { d with script := { d.script with quiet } }
  set { d with rest := d.rest.drop (line.length + 1) }

/-- Reads a jump to a label. -/
def jump (action : String → Action) : Reader Action := do
  let name ← label
  if !name.isEmpty then modify fun d => { d with jumps := name :: d.jumps }
  pure (action name)

/-- Whether there is an address. -/
def hasAddress (s : Selection) : Bool :=
  match s with
  | .all => false
  | _ => true

/-- Reads an instruction after its letter. -/
def instruction (selection : Selection) (negated : Bool) (c : Char) : Reader Unit := do
  let plain (action : Action) : Reader Unit := do
    let _ ← push { selection, negated, action }
  if c = '#' then
    if hasAddress selection then fail .addressOfComment
    comment
  else if c = 'v' then
    let wanted ← label
    if !wanted.isEmpty && isNewer wanted then fail .newerVersion
  else if c = '\x7b' then
    let index ← push { selection, negated, action := .block 0 }
    modify fun d => { d with blocks := (index, d.spot) :: d.blocks }
  else if c = '\x7d' then
    match (← get).blocks with
    | [] => fail .strayClose
    | (index, _) :: blocks =>
        if hasAddress selection then fail .addressOfClose
        endInstruction
        let stop ← push {}
        modify fun d => { d with blocks }
        update index fun _ => .block stop
  else if c = 'a' ∨ c = 'i' ∨ c = 'c' then
    let action : Action := if c = 'a' then .append "" else if c = 'i' then .insert ""
      else .change ""
    let index ← push { selection, negated, action }
    newText index
  else if c = 'e' then
    let index ← push { selection, negated, action := .run "" }
    commandText index
  else if c = ':' then
    if hasAddress selection then fail .addressOfLabel
    let name ← label
    if name.isEmpty then fail .emptyLabel
    let index ← push {}
    modify fun d =>
      { d with script := { d.script with labels := (name, index) :: d.script.labels } }
  else if c = 'b' then plain (← jump .jump)
  else if c = 't' then plain (← jump .jumpIf)
  else if c = 'T' then plain (← jump .jumpUnless)
  else if c = 'q' ∨ c = 'Q' then
    match selection with
    | .range .. => fail .twoAddresses
    | _ =>
        let code := (← argument?).getD 0
        plain (if c = 'q' then .quit code else .quitSilently code)
  else if c = 'l' then plain (.list (← argument?))
  else if c = 'r' then
    let name ← fileName
    match selection with
    | .each (.line 0) =>
        let _ ← push { selection := .each (.line 1), negated, action := .insertFile name }
    | _ => plain (.readFile name)
  else if c = 'R' then plain (.readLine (← fileName))
  else if c = 'w' then plain (.writeFile (← outputName))
  else if c = 'W' then plain (.writeFirst (← outputName))
  else if c = 's' then plain (← substitution)
  else if c = 'y' then plain (← mapping)
  else
    match simpleActions.lookup c with
    | none => fail (.unknownInstruction c)
    | some action =>
        endInstruction
        plain action

/-- Reads one instruction after another. -/
def instructions : (room : Nat) → Reader Unit
  | 0 => pure ()
  | room + 1 => do
      let _ ← takeWhile fun c => c = ';' || isSpace c
      match ← char? with
      | none => pure ()
      | c =>
          let (selection, next) ← selection c
          let (negated, next) ← if next = some '!' then
              let next ← visible?
              if next = some '!' then fail .manyNegations
              pure (true, next)
            else pure (false, next)
          match next with
          | none => fail .noInstruction
          | some letter =>
              instruction selection negated letter
              instructions room

/-- Reads a piece of a script. -/
def piece (number : Nat) (text : List Char) : Reader Unit := do
  modify fun d => { d with rest := text, whole := text, piece := number }
  match (← get).pending with
  | none => pure ()
  | some p => Reader.text p.owner p.raw
  instructions (text.length + 1)

/-- Sees that all blocks are closed and all labels are there. -/
def finish : Reader Unit := do
  let d ← get
  match d.blocks with
  | (_, spot) :: _ => throw (.openBlock spot)
  | [] => pure ()
  match d.jumps.find? fun name => (d.script.labels.lookup name).isNone with
  | some name => throw (.noLabel name)
  | none => pure ()

end Reader

end DartTriggers.Toolbox.Sed
