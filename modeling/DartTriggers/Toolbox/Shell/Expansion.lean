import DartTriggers.Toolbox.Entries
import DartTriggers.Toolbox.Glob
import DartTriggers.Toolbox.Shell.Arithmetic
import DartTriggers.Toolbox.Shell.State
/-!
Expansion: the texts that written words stand for. The parts of a word become characters, each with
whether it is quoted and whether words are cut at it; words are then cut, and patterns among them
replaced by the names of files.
-/

namespace DartTriggers.Toolbox.Shell

/-- What a word becomes before it is cut. -/
inductive Bit where
  /-- A character; words are cut at those that come from values and are not quoted. -/
  | char (c : Char) (isQuoted cuts : Bool)
  /-- A new word starts. -/
  | cut
  /-- There is a word, even if nothing is in it. -/
  | present

/-- Runs a script inside a word. -/
abbrev Runner := List Command → State → State

/-- Goes back from a subshell. -/
def State.after (s inner : State) : State :=
  { s with
    tree := inner.tree, streams := inner.streams, said := inner.said, code := inner.code % 256
    flow := match inner.flow with
      | .killed n => .killed n
      | _ => s.flow }

/-- The state that a subshell starts with. -/
def State.inner (s : State) : State :=
  { s with isSubshell := true, traps := [] }

/-- A text without the line ends at its end. -/
def withoutLineEnds (text : String) : String :=
  .ofList (text.toList.reverse.dropWhile (· = '\n')).reverse

/-- What a script shows. -/
def State.outputOf (run : Runner) (s : State) (script : List Command) : State × String :=
  let start := s.inner.openAt 1 (.buffer "")
  let inner := run script { start with isTested := false }
  let text := match inner.streams[s.streams.size]? with
    | some (.buffer text) => text
    | _ => ""
  ({ s.after inner with code := s.code, outputCode := inner.code },
    withoutLineEnds (.ofList (text.toList.filter (· ≠ '\x00'))))

/-- The characters of a value. -/
def bitsOf (isQuoted : Bool) (value : String) : List Bit :=
  (if isQuoted then [.present] else []) ++ value.toList.map fun c => .char c isQuoted (!isQuoted)

/-- The characters of a text of the script. -/
def writtenBits (isQuoted cuts : Bool) (text : String) : List Bit :=
  (if isQuoted then [.present] else []) ++ text.toList.map fun c => .char c isQuoted cuts

/-- The bits as text. -/
def textOfBits (bits : List Bit) : String :=
  .ofList (bits.filterMap fun
    | .char c _ _ => some c
    | .cut => some ' '
    | .present => none)

/-- The bits as a pattern. -/
def glyphsOf (bits : List Bit) : List Glyph :=
  bits.filterMap fun
    | .char c isQuoted _ => some ⟨c, isQuoted⟩
    | .cut => some ⟨' ', false⟩
    | .present => none

/-- All arguments, as words of their own or joined. -/
def argumentBits (s : State) (name : String) (isQuoted isCut : Bool) : List Bit :=
  let joint : Option Char := s.separators.head?
  if isQuoted && (name = "*" || !isCut) then
    let mark := if name = "*" then joint.toList else [' ']
    bitsOf true ((String.ofList mark).intercalate s.arguments)
  else if !isCut then
    let mark := if name = "*" then joint.toList else [' ']
    bitsOf false ((String.ofList mark).intercalate s.arguments)
  else
    ((s.arguments.map (bitsOf isQuoted)).intersperse [.cut]).flatten

/-- A text at the start of a word, which may stand for a home directory. `isAll` says whether
nothing follows it. -/
def homeBits (s : State) (inWord isAll : Bool) (text : String) : List Bit :=
  let user := text.toList.takeWhile (· ≠ '/')
  let isEnded := user.length < text.length || isAll
  match if user = ['~'] && isEnded then s.value? "HOME" else none with
  | some home => writtenBits true false home ++ writtenBits false inWord (text.drop 1).toString
  | none => writtenBits false inWord text

/-- The value of an assignment in which any piece between colons may start with a home directory. -/
def withHomes (s : State) (value : Word) : Word :=
  match s.value? "HOME" with
  | none => value
  | some home =>
      let (done, _) := value.foldl (fun (done, starts) p =>
        match p with
        | .text text =>
            let pieces := text.splitOn ":"
            let lastIsOpen (i : Nat) : Bool :=
              i + 1 = pieces.length && done.length + 1 < value.length
            let shown := pieces.zipIdx.map fun (piece, i) =>
              let user := piece.toList.takeWhile (· ≠ '/')
              let follows := user.length < piece.length || !lastIsOpen i
              if user = ['~'] && follows && (0 < i || starts) then
                [Part.quoted home, .text (piece.drop 1).toString]
              else [.text piece]
            (done ++ [(shown.intersperse [.text ":"]).flatten], false)
        | p => (done ++ [[p]], false)) ([], true)
      done.flatten

mutual

/-- The bits of a part. `isCut` says whether words are cut, `inWord` whether the part is in the word
of a parameter. -/
def Part.bits (run : Runner) (isCut inWord : Bool) : Part → State → State × List Bit
  | .text t, s => (s, writtenBits false inWord t)
  | .quoted t, s => (s, writtenBits true false t)
  | .output script isQuoted, s =>
      let (s, text) := s.outputOf run script
      (s, bitsOf isQuoted text)
  | .arithmetic expression isQuoted, s =>
      let (s, bits) := partsBits run false false false expression s
      if !s.isRunning then (s, [])
      else
        let text := textOfBits bits
        match Arithmetic.evaluate s.parameter? text with
        | .error e => (s.abort (e.message text), [])
        | .ok (n, changes) =>
            (changes.foldl (fun s (name, n) => s.setValue name (toString n)) s,
              bitsOf isQuoted (toString n))
  | .parameter name use word isQuoted, s =>
      let all := name = "@" || name = "*"
      let value := if all then some (" ".intercalate s.arguments) else s.parameter? name
      let presence : List Bit := if isQuoted && use != .value then [.present] else []
      let own : List Bit := if all then presence ++ argumentBits s name isQuoted isCut
        else bitsOf isQuoted (value.getD "")
      let unset (s : State) : State × List Bit :=
        if s.has 'u' && value.isNone && !all then (s.abort (name ++ ": parameter not set"), [])
        else (s, own)
      let isMissing (colon : Bool) : Bool := value.all fun v => colon && v.isEmpty
      match use with
      | .value => unset s
      | .length =>
          if s.has 'u' && value.isNone && !all then (s.abort (name ++ ": parameter not set"), [])
          else
            let n := if all then s.arguments.length else (value.getD "").length
            (s, bitsOf isQuoted (toString n))
      | .malformed => (s.abort "Bad substitution", [])
      | .orElse colon =>
          if isMissing colon then partsBits run isCut (!isQuoted) (!isQuoted) word s else (s, own)
      | .instead colon =>
          if isMissing colon then (s, if isQuoted then [.present] else [])
          else partsBits run isCut (!isQuoted) (!isQuoted) word s
      | .assign colon =>
          if !isMissing colon then (s, own)
          else
            let (s, bits) := partsBits run false false (!isQuoted) word s
            let text := textOfBits bits
            if !s.isRunning then (s, [])
            else if isName name then (s.setValue name text, bitsOf isQuoted text)
            else (s.abort (name ++ ": bad variable name"), [])
      | .complain colon =>
          if !isMissing colon then (s, own)
          else
            let (s, bits) := partsBits run false false (!isQuoted) word s
            let text := textOfBits bits
            let text := if word.isEmpty then
                (if colon then "parameter not set or null" else "parameter not set")
              else text
            if s.isRunning then (s.abort (name ++ ": " ++ text), []) else (s, [])
      | .dropStart longest =>
          let (s, bits) := partsBits run false false true word s
          if s.has 'u' && value.isNone then (s.abort (name ++ ": parameter not set"), [])
          else (s, bitsOf isQuoted (Glyph.dropStart longest (glyphsOf bits) (value.getD "")))
      | .dropEnd longest =>
          let (s, bits) := partsBits run false false true word s
          if s.has 'u' && value.isNone then (s.abort (name ++ ": parameter not set"), [])
          else (s, bitsOf isQuoted (Glyph.dropEnd longest (glyphsOf bits) (value.getD "")))

/-- The bits of parts, as long as nothing ends the shell. `atStart` says whether the first one may
start with a home directory. -/
def partsBits (run : Runner) (isCut inWord atStart : Bool) :
    List Part → State → State × List Bit
  | [], s => (s, [])
  | p :: rest, s =>
      let (s, first) := match atStart, p with
        | true, .text t => (s, homeBits s inWord rest.isEmpty t)
        | _, p => p.bits run isCut inWord s
      if !s.isRunning then (s, [])
      else
        let (s, more) := partsBits run isCut inWord false rest s
        (s, first ++ more)

end

/-- Words that are being cut: those that are finished, and the one at hand if there is one. -/
structure Fields where
  done : List (List Glyph) := []
  /-- The word at hand, last character first. -/
  current : Option (List Glyph) := none
  /-- Whether the last word has been ended by a blank. -/
  afterBlank : Bool := false

namespace Fields

def close (f : Fields) : Fields :=
  match f.current with
  | some gs => { done := gs.reverse :: f.done }
  | none => { f with afterBlank := false }

def add (f : Fields) (g : Glyph) : Fields :=
  { f with current := some (g :: f.current.getD []), afterBlank := false }

/-- There is a word at hand. -/
def start (f : Fields) : Fields :=
  { f with current := some (f.current.getD []), afterBlank := false }

/-- A blank ends the word at hand. -/
def blank (f : Fields) : Fields :=
  if f.current.isSome then { f.close with afterBlank := true } else f

/-- Any other separator stands between two words, and blanks before it go with it. -/
def mark (f : Fields) : Fields :=
  if f.current.isSome then f.close
  else if f.afterBlank then { f with afterBlank := false }
  else f.start.close

end Fields

/-- Cuts bits into words. -/
def cutBits (separators : List Char) : List Bit → Fields → Fields
  | [], f => f.close
  | .present :: rest, f => cutBits separators rest f.start
  | .cut :: rest, f => cutBits separators rest f.close
  | .char c isQuoted cuts :: rest, f =>
      let next := if !(cuts && separators.contains c) then f.add ⟨c, isQuoted⟩
        else if c = ' ' || c = '\t' || c = '\n' then f.blank
        else f.mark
      cutBits separators rest next

/-- The names of files that a word stands for, or the word itself. -/
def State.fileNames (s : State) (gs : List Glyph) : List String :=
  if s.has 'f' || !gs.any (·.isOperator) then [Glyph.text gs]
  else
    let entries (start : String) : List String :=
      "." :: ".." :: entryNames s.tree (if start.isEmpty then s.cwd else s.path start)
    let isThere (name : String) : Bool := s.tree.exists? (s.path name)
    match Glyph.names entries isThere "" (Glyph.components gs) with
    | [] => [Glyph.text gs]
    | names => names

/-- The texts that a word stands for. -/
def State.expand (run : Runner) (s : State) (w : Word) : State × List String :=
  let (s, bits) := partsBits run true false true w s
  if !s.isRunning then (s, [])
  else (s, (cutBits s.separators bits {}).done.reverse.flatMap s.fileNames)

/-- The texts that words stand for. -/
def State.expandAll (run : Runner) (s : State) : List Word → State × List String
  | [] => (s, [])
  | w :: rest =>
      let (s, first) := s.expand run w
      if !s.isRunning then (s, [])
      else
        let (s, more) := State.expandAll run s rest
        (s, first ++ more)

/-- The one text that a word stands for. -/
def State.expandWhole (run : Runner) (s : State) (w : Word) : State × String :=
  let (s, bits) := partsBits run false false true w s
  (s, textOfBits bits)

/-- The text that the value of an assignment stands for. -/
def State.expandValue (run : Runner) (s : State) (value : Word) : State × String :=
  let (s, bits) := partsBits run false false false (withHomes s value) s
  (s, textOfBits bits)

/-- The pattern that a word stands for. -/
def State.expandPattern (run : Runner) (s : State) (w : Word) : State × List Glyph :=
  let (s, bits) := partsBits run false false true w s
  (s, glyphsOf bits)

end DartTriggers.Toolbox.Shell
