import DartTriggers.Toolbox.Shell.Syntax
/-!
Reading scripts. A script is read one line of commands at a time, so that what comes before a fault
has been run when the fault is found. Documents that stand in a script are read at the end of the
line that asks for them.
-/

namespace DartTriggers.Toolbox.Shell

/-- The words that stand for themselves only where no command can start. -/
def keywords : List String :=
  ["!", "case", "do", "done", "elif", "else", "esac", "fi", "for", "if", "in", "then", "until",
   "while", "\x7b", "\x7d"]

/-- What a script is made of. -/
inductive Token where
  | finish
  | newline
  | semicolon
  | background
  | and
  | or
  | pipe
  | opening
  | closing
  | endCase
  /-- A change of a channel; what it is changed to follows. -/
  | redirect (channel : Nat) (kind : Redirection) (dropsTabs : Bool)
  | word (w : Word)
  | keyword (name : String)

namespace Token

/-- How a token is called in a complaint. -/
def name : Token → String
  | .finish => "end of file"
  | .newline => "newline"
  | .semicolon => "\";\""
  | .background => "\"&\""
  | .and => "\"&&\""
  | .or => "\"||\""
  | .pipe => "\"|\""
  | .opening => "\"(\""
  | .closing => "\")\""
  | .endCase => "\";;\""
  | .redirect .. => "redirection"
  | .word _ => "word"
  | .keyword name => "\"" ++ name ++ "\""

/-- Whether no command can start with a token, since it ends the commands before it. -/
def endsList : Token → Bool
  | .finish | .closing | .endCase => true
  | .keyword name =>
      ["do", "done", "elif", "else", "esac", "fi", "then", "\x7d"].contains name
  | _ => false

def isKeyword (t : Token) (name : String) : Bool :=
  match t with
  | .keyword other => other == name
  | _ => false

end Token

/-- A document that is still to be read. -/
structure PendingDocument where
  index : Nat
  /-- The line that ends it. -/
  mark : String
  dropsTabs : Bool
  /-- Whether nothing in it stands for anything else. -/
  isQuoted : Bool

/-- What the next token is looked at for. -/
structure Check where
  /-- Line ends before it are skipped. -/
  newlines : Bool := false
  keywords : Bool := false
  /-- It is the mark of a document. -/
  mark : Bool := false

/-- A script that is being read. -/
structure Source where
  rest : List Char
  line : Nat := 1
  /-- Whether the last token is read once more. -/
  pushed : Bool := false
  last : Token := .newline
  check : Check := {}
  pending : List PendingDocument := []
  documents : Array Word := #[]

instance : Inhabited Source := ⟨{ rest := [] }⟩

/-- Reading goes on from a source to a source; a complaint ends it and leaves the source. -/
abbrev Reader := ExceptT String (StateM Source)

namespace Reader

def fail {α : Type} (text : String) : Reader α :=
  throw text

/-- Complains about the last token. -/
def unexpected {α : Type} (expected : Option Token) : Reader α := do
  let last := (← get).last.name ++ " unexpected"
  match expected with
  | none => fail last
  | some t => fail (last ++ " (expecting " ++ t.name ++ ")")

/-- The next character as it is. -/
def rawChar? : Reader (Option Char) := do
  let s ← get
  match s.rest with
  | [] => pure none
  | c :: rest =>
      set { s with rest, line := if c = '\n' then s.line + 1 else s.line }
      pure (some c)

/-- Leaves out line ends with a backslash before them. -/
def joinLines : List Char → Nat × List Char
  | '\\' :: '\n' :: rest =>
      let (n, left) := joinLines rest
      (n + 1, left)
  | s => (0, s)

/-- The next character, lines that go on being joined. -/
def char? : Reader (Option Char) := do
  let s ← get
  let (n, rest) := joinLines s.rest
  set { s with rest, line := s.line + n }
  rawChar?

/-- Gives a character back. -/
def back (c : Option Char) : Reader Unit :=
  modify fun s =>
    { s with rest := c.toList ++ s.rest, line := if c = some '\n' then s.line - 1 else s.line }

/-- Takes the next character if it is the one given. -/
def accept (c : Char) : Reader Bool := do
  let next ← char?
  if next = some c then pure true
  else
    back next
    pure false

/-- Takes characters of a kind. -/
def takeWhile (p : Char → Bool) : (room : Nat) → Reader (List Char)
  | 0 => pure []
  | room + 1 => do
      match ← char? with
      | none => pure []
      | some c =>
          if p c then pure (c :: (← takeWhile p room))
          else
            back (some c)
            pure []

/-- Takes everything up to a quote, which has to be there. -/
def untilQuote : (room : Nat) → List Char → Reader (List Char)
  | 0, done => pure done.reverse
  | room + 1, done => do
      match ← rawChar? with
      | none => fail "Unterminated quoted string"
      | some c => if c = '\'' then pure done.reverse else untilQuote room (c :: done)

/-- The script between backquotes. -/
def untilBackquote (inQuotes : Bool) : (room : Nat) → List Char → Reader (List Char)
  | 0, done => pure done.reverse
  | room + 1, done => do
      match ← char? with
      | none => fail "EOF in backquote substitution"
      | some '\x60' => pure done.reverse
      | some '\\' =>
          match ← rawChar? with
          | none => fail "EOF in backquote substitution"
          | some c =>
              let meant := c = '\\' || c = '\x60' || c = '$' || (inQuotes && c = '"')
              untilBackquote inQuotes room (if meant then c :: done else c :: '\\' :: done)
      | some c => untilBackquote inQuotes room (c :: done)

end Reader

/-- Where the parts of a word stand. -/
inductive Mode where
  | plain
  /-- In the braces of a parameter. -/
  | braces (inQuotes : Bool)
  /-- Between quotes in the braces of a parameter that is quoted itself. -/
  | innerQuotes
  | double
  | arithmetic
  | document
deriving DecidableEq

/-- Whether parts of a mode count as quoted. -/
def Mode.isQuoted : Mode → Bool
  | .plain | .braces false => false
  | .braces true | .innerQuotes | .double | .arithmetic | .document => true

/-- Adds a character to parts, the last part first. -/
def addText (c : Char) : List Part → List Part
  | .text s :: rest => .text (s.push c) :: rest
  | rest => .text (.singleton c) :: rest

def addQuoted (c : Char) : List Part → List Part
  | .quoted s :: rest => .quoted (s.push c) :: rest
  | rest => .quoted (.singleton c) :: rest

def addAs (isQuoted : Bool) (c : Char) (ps : List Part) : List Part :=
  if isQuoted then addQuoted c ps else addText c ps

/-- The characters that a backslash between double quotes takes their meaning from. -/
def escapedInQuotes (mode : Mode) (c : Char) : Bool :=
  c = '\\' || c = '$' || c = '\x60' || (c = '"' && mode != .document && mode != .arithmetic) ||
    (c = '\x7d' && (mode = .braces true || mode = .innerQuotes))

/-- The characters that end a word. -/
def endsWord (c : Char) : Bool :=
  c = ' ' || c = '\t' || c = '\n' || c = '<' || c = '>' || c = ';' || c = '&' || c = '(' ||
    c = ')' || c = '|'

/-- The use that a character asks for after the name of a parameter. -/
def useOf? (colon : Bool) (c : Char) : Option Use :=
  [('-', Use.orElse colon), ('+', .instead colon), ('?', .complain colon),
   ('=', .assign colon)].lookup c

/-- The lines of a document up to its mark, and what follows. -/
def documentLines (d : PendingDocument) : (room : Nat) → (goesOn : Bool) → List Char →
    List Char × List Char
  | 0, _, s => ([], s)
  | room + 1, goesOn, s =>
      let s := if d.dropsTabs && !goesOn then s.dropWhile (· = '\t') else s
      let line := s.takeWhile (· ≠ '\n')
      let rest := s.drop line.length
      if !goesOn && String.ofList line = d.mark then ([], rest.drop 1)
      else
        match rest with
        | [] => (line, [])
        | _ :: rest =>
            let slashes := line.reverse.takeWhile (· = '\\')
            let joined := !d.isQuoted && slashes.length % 2 = 1
            let (more, left) := documentLines d room joined rest
            (line ++ '\n' :: more, left)

/-- The name and the value of an assignment, if a word is one. -/
def assignment? (w : Word) : Option (String × Word) :=
  match w with
  | .text s :: rest =>
      let name := s.toList.takeWhile (· ≠ '=')
      match s.toList.drop name.length with
      | '=' :: value =>
          if isName (.ofList name) then
            some (.ofList name, if value.isEmpty then rest else .text (.ofList value) :: rest)
          else none
      | _ => none
  | _ => none

/-- The text of a word in which there are no quotes. -/
def bareText? : Word → Option String
  | [.text s] => some s
  | _ => none

/-- A command with changes of its channels. A subshell that stands alone in braces is taken for the
subshell itself, which loses the changes of its own. -/
def withRedirects (line : Nat) (c : Command) (redirects : List Redirect) : Command :=
  match c with
  | .group [.subshell body] | .group [.redirected _ (.subshell body) _] =>
      .redirected line (.subshell body) redirects
  | c => .redirected line c redirects

/-- The builtins that functions cannot be named after. -/
def specialBuiltins : List String :=
  [".", ":", "break", "continue", "eval", "exec", "exit", "export", "local", "readonly", "return",
   "set", "shift", "times", "trap", "unset"]

mutual

/-- Reads the parts of a word. In arithmetic `depth` parentheses are open. -/
def Reader.parts (mode : Mode) : (room depth : Nat) → List Part → Reader (List Part)
  | 0, _, done => pure done.reverse
  | room + 1, depth, done => do
      let isQuoted := mode.isQuoted
      match ← char? with
      | none =>
          match mode with
          | .plain | .document => pure done.reverse
          | .double | .braces true | .innerQuotes => fail "Unterminated quoted string"
          | .braces false => fail "Missing '\x7d'"
          | .arithmetic => fail "Missing '))'"
      | some c =>
          if mode = .plain && endsWord c then
            back (some c)
            pure done.reverse
          else if c = '"' && mode = .double then pure done.reverse
          else if c = '\x7d' && (mode = .braces true || mode = .braces false) then
            pure done.reverse
          else if c = '"' && mode = .braces true then parts .innerQuotes room depth done
          else if c = '"' && mode = .innerQuotes then parts (.braces true) room depth done
          else if c = '"' && !isQuoted then
            let inner ← parts .double room 0 []
            let inner := if inner.isEmpty then [.quoted ""] else inner
            parts mode room depth (inner.reverse ++ done)
          else if c = '\'' && !isQuoted then
            let size := (← get).rest.length
            let text ← untilQuote (size + 1) []
            parts mode room depth (.quoted (.ofList text) :: done)
          else if c = '\\' then
            match ← rawChar? with
            | none => parts mode room depth (addAs isQuoted '\\' done)
            | some d =>
                if !isQuoted || escapedInQuotes mode d then
                  parts mode room depth (addQuoted d done)
                else parts mode room depth (addAs isQuoted d (addAs isQuoted '\\' done))
          else if c = '$' then
            if (← get).check.mark then parts mode room depth (addAs isQuoted c done)
            else
              match ← dollar mode room with
              | none => parts mode room depth (addAs isQuoted c done)
              | some p => parts mode room depth (p :: done)
          else if c = '\x60' && !(← get).check.mark then
            let size := (← get).rest.length
            let text ← untilBackquote (mode = .double) (size + 1) []
            let saved ← get
            set { saved with rest := text, line := 1, pushed := false, check := {} }
            let script ← list true false room []
            modify fun s =>
              { saved with documents := s.documents }
            parts mode room depth (.output script isQuoted :: done)
          else if c = '(' && mode = .arithmetic then
            parts mode room (depth + 1) (addAs isQuoted c done)
          else if c = ')' && mode = .arithmetic then
            if 0 < depth then parts mode room (depth - 1) (addAs isQuoted c done)
            else if ← accept ')' then pure done.reverse
            else parts mode room depth (addAs isQuoted c done)
          else parts mode room depth (addAs isQuoted c done)

/-- Reads what a dollar sign stands in front of, if it is anything. -/
def Reader.dollar (mode : Mode) : (room : Nat) → Reader (Option Part)
  | 0 => pure none
  | room + 1 => do
      let isQuoted := mode.isQuoted
      match ← char? with
      | none => pure none
      | some '(' =>
          if ← accept '(' then
            pure (some (.arithmetic (← parts .arithmetic room 0 []) isQuoted))
          else
            let saved ← get
            set { saved with pushed := false, check := {}, pending := [] }
            let script ← list true false room []
            match ← token room with
            | .closing =>
                modify fun s =>
                  { s with
                    pushed := saved.pushed, last := saved.last, check := saved.check
                    pending := saved.pending }
                pure (some (.output script isQuoted))
            | _ => unexpected (some .closing)
      | some '\x7b' => some <$> braced mode room
      | some c =>
          if isNameStart c then
            let size := (← get).rest.length
            let rest ← takeWhile isNameChar (size + 1)
            pure (some (.parameter (.ofList (c :: rest)) .value [] isQuoted))
          else if c.isDigit || specialParameters.contains c then
            pure (some (.parameter (.singleton c) .value [] isQuoted))
          else
            back (some c)
            pure none

/-- Reads a parameter in braces after the opening one. -/
def Reader.braced (mode : Mode) : (room : Nat) → Reader Part
  | 0 => fail "Missing '\x7d'"
  | room + 1 => do
      let isQuoted := mode.isQuoted
      let inner : Mode := .braces isQuoted
      let size := (← get).rest.length
      let name? (c : Option Char) : Reader (Option String) := do
        match c with
        | none => pure none
        | some c =>
            if isNameStart c then
              pure (some (.ofList (c :: (← takeWhile isNameChar (size + 1)))))
            else if c.isDigit then
              pure (some (.ofList (c :: (← takeWhile Char.isDigit (size + 1)))))
            else pure none
      let malformed : Reader Part := do
        let word ← parts inner room 0 []
        pure (.parameter "" .malformed word isQuoted)
      let finish (name : String) : Reader Part := do
        match ← char? with
        | none =>
            let _ ← parts inner room 0 []
            malformed
        | some '\x7d' => pure (.parameter name .value [] isQuoted)
        | some c =>
            if c = '%' ∨ c = '#' then
              let longest ← accept c
              let word ← parts (.braces false) room 0 []
              pure (.parameter name (if c = '#' then .dropStart longest else .dropEnd longest) word
                isQuoted)
            else
              let colon := c = ':'
              let mark ← if colon then char? else pure (some c)
              match mark.bind (useOf? colon) with
              | some use =>
                  pure (.parameter name use (← parts inner room 0 []) isQuoted)
              | none =>
                  if mark = some '\x7d' then pure (.parameter "" .malformed [] isQuoted)
                  else malformed
      let first ← char?
      match ← name? first with
      | some name => finish name
      | none =>
          match first with
          | some '\x7d' => pure (.parameter "" .malformed [] isQuoted)
          | some '#' =>
              let second ← char?
              match ← name? second with
              | some name =>
                  if ← accept '\x7d' then pure (.parameter name .length [] isQuoted)
                  else malformed
              | none =>
                  let third ← char?
                  if second ≠ some '\x7d' ∧ third = some '\x7d' then
                    if second.any specialParameters.contains then
                      pure (.parameter (.ofList second.toList) .length [] isQuoted)
                    else pure (.parameter "" .malformed [] isQuoted)
                  else
                    back third
                    back second
                    finish "#"
          | some c => if specialParameters.contains c then finish (.singleton c) else malformed
          | none => malformed

/-- Reads the documents that are waiting. -/
def Reader.documents : (room : Nat) → Reader Unit
  | 0 => pure ()
  | room + 1 => do
      let s ← get
      match s.pending with
      | [] => pure ()
      | d :: pending =>
          let (text, rest) := documentLines d (s.rest.length + 1) false s.rest
          let word ← if d.isQuoted then pure [Part.quoted (.ofList text)]
            else
              set { s with rest := text, pending := [], check := {} }
              parts .document room 0 []
          let taken := s.rest.take (s.rest.length - rest.length)
          let isOpen := text.getLast?.any (· ≠ '\n') || taken.isEmpty
          let endsText := taken.getLast?.any (· ≠ '\n') && !isOpen
          let line := s.line + taken.count '\n' + (if endsText then 1 else 0)
          modify fun after =>
            { s with
              rest, line, pending
              documents := after.documents.setIfInBounds d.index word }
          documents room

/-- Reads a token. -/
def Reader.rawToken : (room : Nat) → Reader Token
  | 0 => pure .finish
  | room + 1 => do
      let s ← get
      if s.pushed then
        set { s with pushed := false }
        pure s.last
      else
        let keep (t : Token) : Reader Token := do
          modify fun s => { s with last := t }
          pure t
        match ← char? with
        | none => keep .finish
        | some c =>
            if c = ' ' ∨ c = '\t' then rawToken room
            else if c = '#' then
              modify fun s => { s with rest := s.rest.dropWhile (· ≠ '\n') }
              rawToken room
            else if c = '\n' then keep .newline
            else if c = '&' then keep (if ← accept '&' then .and else .background)
            else if c = '|' then keep (if ← accept '|' then .or else .pipe)
            else if c = ';' then keep (if ← accept ';' then .endCase else .semicolon)
            else if c = '(' then keep .opening
            else if c = ')' then keep .closing
            else
              let number := if c.isDigit then some (c.toNat - 48) else none
              let arrow ← if number.isSome then char? else pure (some c)
              if arrow = some '<' then
                let (kind, dropsTabs) ←
                  if ← accept '<' then pure (Redirection.document 0, ← accept '-')
                  else if ← accept '&' then pure (.duplicate, false)
                  else if ← accept '>' then pure (.readWrite, false)
                  else pure (.read, false)
                keep (.redirect (number.getD 0) kind dropsTabs)
              else if arrow = some '>' then
                let kind ← if ← accept '>' then pure Redirection.append
                  else if ← accept '|' then pure .replace
                  else if ← accept '&' then pure .duplicate
                  else pure .write
                keep (.redirect (number.getD 1) kind false)
              else
                if number.isSome then back arrow
                back (some c)
                keep (.word (← parts .plain room 0 []))

/-- Reads a token as the check asks for. -/
def Reader.token : (room : Nat) → Reader Token
  | 0 => pure .finish
  | room + 1 => do
      let check := (← get).check
      let t ← rawToken room
      match check.newlines, t with
      | true, .newline =>
          documents room
          modify fun s => { s with check }
          token room
      | _, t =>
          modify fun s => { s with check := {} }
          match t with
          | .word w =>
              match if check.keywords then bareText? w else none with
              | some text =>
                  if keywords.contains text then
                    modify fun s => { s with last := .keyword text }
                    pure (.keyword text)
                  else pure t
              | none => pure t
          | t => pure t

/-- Reads the token that has to come next. -/
def Reader.expect (t : Token) : (room : Nat) → Reader Unit
  | 0 => pure ()
  | room + 1 => do
      if (← token room).name ≠ t.name then unexpected (some t)

/-- Reads commands up to what ends them; at the top this is the end of a line. `open` says whether
there may be none. -/
def Reader.list (mayBeEmpty isTop : Bool) : (room : Nat) → List Command → Reader (List Command)
  | 0, done => pure done.reverse
  | room + 1, done => do
      modify fun s => { s with check := { newlines := !isTop, keywords := true } }
      let t ← token room
      match t with
      | .newline =>
          documents room
          pure done.reverse
      | .finish =>
          documents room
          modify fun s => { s with pushed := true, last := .finish }
          pure done.reverse
      | t =>
          modify fun s => { s with pushed := true }
          if !isTop && (mayBeEmpty || !done.isEmpty) && t.endsList then pure done.reverse
          else
            let c ← andOr room none
            match ← token room with
            | .background => list mayBeEmpty isTop room (.background c :: done)
            | .semicolon => list mayBeEmpty isTop room (c :: done)
            | .newline | .finish =>
                modify fun s => { s with pushed := true }
                list mayBeEmpty isTop room (c :: done)
            | _ =>
                if isTop then unexpected none
                else
                  modify fun s => { s with pushed := true }
                  pure (c :: done).reverse

/-- Reads pipelines joined by `&&` and `||`, after those that come before. -/
def Reader.andOr : (room : Nat) → Option (Bool × Command) → Reader Command
  | 0, before => pure ((before.map (·.2)).getD default)
  | room + 1, before => do
      let c ← pipeline room
      let c := match before with
        | none => c
        | some (true, first) => .both first c
        | some (false, first) => .either first c
      let goOn (isAnd : Bool) : Reader Command := do
        modify fun s => { s with check := { newlines := true, keywords := true } }
        andOr room (some (isAnd, c))
      match ← token room with
      | .and => goOn true
      | .or => goOn false
      | _ =>
          modify fun s => { s with pushed := true }
          pure c

/-- Reads commands joined by bars. -/
def Reader.pipeline : (room : Nat) → Reader Command
  | 0 => pure default
  | room + 1 => do
      let t ← token room
      let negated := t.isKeyword "!"
      modify fun s =>
        if negated then { s with check := { keywords := true } } else { s with pushed := true }
      let first ← command room
      let c ← match ← token room with
        | .pipe => pipelineAfter room [first]
        | _ =>
            modify fun s => { s with pushed := true }
            pure first
      pure (if negated then .negated c else c)

/-- Reads the commands after a bar. -/
def Reader.pipelineAfter : (room : Nat) → List Command → Reader Command
  | 0, done => pure (.pipeline done.reverse)
  | room + 1, done => do
      modify fun s => { s with check := { newlines := true, keywords := true } }
      let c ← command room
      match ← token room with
      | .pipe => pipelineAfter room (c :: done)
      | _ =>
          modify fun s => { s with pushed := true }
          pure (.pipeline (c :: done).reverse)

/-- Reads what follows the test of a branch. -/
def Reader.branches : (room : Nat) → (test : List Command) → Reader Command
  | 0, test => pure (.branch test [] [])
  | room + 1, test => do
      expect (.keyword "then") room
      let body ← list false false room []
      match ← token room with
      | .keyword "elif" =>
          let next ← list false false room []
          pure (.branch test body [← branches room next])
      | .keyword "else" => pure (.branch test body (← list false false room []))
      | _ =>
          modify fun s => { s with pushed := true }
          pure (.branch test body [])

/-- Reads the words up to the end of a line. -/
def Reader.words : (room : Nat) → List Word → Reader (List Word)
  | 0, done => pure done.reverse
  | room + 1, done => do
      match ← token room with
      | .word w => words room (w :: done)
      | .newline | .semicolon => pure done.reverse
      | _ => unexpected none

/-- Reads the patterns of a case, the first of which has been read. -/
def Reader.patterns : (room : Nat) → List Word → Token → Reader (List Word)
  | 0, done, _ => pure done.reverse
  | room + 1, done, t => do
      let w : Word := match t with
        | .word w => w
        | .keyword name => [.text name]
        | _ => []
      match ← token room with
      | .pipe => patterns room (w :: done) (← token room)
      | .closing => pure (w :: done).reverse
      | _ => unexpected (some .closing)

/-- Reads the cases of a choice. -/
def Reader.cases : (room : Nat) → List (List Word × List Command) →
    Reader (List (List Word × List Command))
  | 0, done => pure done.reverse
  | room + 1, done => do
      modify fun s => { s with check := { newlines := true, keywords := true } }
      let t ← token room
      if t.isKeyword "esac" then pure done.reverse
      else
        let t ← match t with
          | .opening => token room
          | t => pure t
        let ps ← patterns room [] t
        let body ← list true false room []
        modify fun s => { s with check := { newlines := true, keywords := true } }
        let done := (ps, body) :: done
        match ← token room with
        | .endCase => cases room done
        | .keyword "esac" => pure done.reverse
        | _ => unexpected (some .endCase)

/-- Reads the changes of channels after a command. -/
def Reader.redirects : (room : Nat) → List Redirect → Reader (List Redirect)
  | 0, done => pure done.reverse
  | room + 1, done => do
      match ← token room with
      | .redirect channel kind dropsTabs =>
          let r ← target room channel kind dropsTabs
          redirects room (r :: done)
      | _ =>
          modify fun s => { s with pushed := true }
          pure done.reverse

/-- Reads what a channel is changed to. -/
def Reader.target : (room : Nat) → Nat → Redirection → Bool → Reader Redirect
  | 0, channel, kind, _ => pure (.mk channel kind [])
  | room + 1, channel, kind, dropsTabs => do
      let isDocument := match kind with
        | .document _ => true
        | _ => false
      modify fun s => { s with check := { mark := isDocument } }
      match ← token room with
      | .word w =>
          if isDocument then
            let s ← get
            let index := s.documents.size
            let d : PendingDocument :=
              { index, mark := (plainText? w).getD "", dropsTabs, isQuoted := w.any (·.isQuoted) }
            set { s with documents := s.documents.push [], pending := s.pending ++ [d] }
            pure (.mk channel (.document index) [])
          else pure (.mk channel kind w)
      | _ => unexpected none

/-- Reads a command. -/
def Reader.command : (room : Nat) → Reader Command
  | 0 => pure default
  | room + 1 => do
      let line := (← get).line
      let t ← token room
      let compound ← match t with
        | .keyword "if" =>
            let test ← list false false room []
            let c ← branches room test
            expect (.keyword "fi") room
            pure c
        | .keyword "while" | .keyword "until" =>
            let test ← list false false room []
            expect (.keyword "do") room
            let body ← list false false room []
            expect (.keyword "done") room
            pure (.loop (t.isKeyword "until") test body)
        | .keyword "for" =>
            match ← token room with
            | .word [.text name] =>
                if !isName name then fail "Bad for loop variable"
                modify fun s => { s with check := { newlines := true, keywords := true } }
                let t ← token room
                let ws ← if t.isKeyword "in" then words room []
                  else
                    match t with
                    | .semicolon => pure ()
                    | _ => modify fun s => { s with pushed := true }
                    pure [[.parameter "@" .value [] true]]
                modify fun s => { s with check := { newlines := true, keywords := true } }
                expect (.keyword "do") room
                let body ← list false false room []
                expect (.keyword "done") room
                pure (.each line name ws body)
            | _ => fail "Bad for loop variable"
        | .keyword "case" =>
            match ← token room with
            | .word w =>
                modify fun s => { s with check := { newlines := true, keywords := true } }
                expect (.keyword "in") room
                pure (.choose line w (← cases room []))
            | _ => unexpected (some (.word []))
        | .opening =>
            let body ← list false false room []
            expect .closing room
            pure (.subshell body)
        | .keyword "\x7b" =>
            let body ← list false false room []
            expect (.keyword "\x7d") room
            pure (.group body)
        | .word _ | .redirect .. =>
            modify fun s => { s with pushed := true }
            simple room line (.simple line [] [] [])
        | _ => unexpected none
      match compound with
      | .simple .. | .define .. => pure compound
      | c =>
          modify fun s => { s with check := { keywords := true } }
          match ← redirects room [] with
          | [] => pure c
          | rs => pure (withRedirects line c rs)

/-- Reads the rest of a simple command. -/
def Reader.simple : (room line : Nat) → Command → Reader Command
  | 0, _, c => pure c
  | room + 1, line, c => do
      match c with
      | .simple _ settings words redirects =>
          match ← token room with
          | .word w =>
              match if words.isEmpty then assignment? w else none with
              | some setting =>
                  simple room line (.simple line (settings ++ [setting]) words redirects)
              | none => simple room line (.simple line settings (words ++ [w]) redirects)
          | .redirect channel kind dropsTabs =>
              let r ← target room channel kind dropsTabs
              simple room line (.simple line settings words (redirects ++ [r]))
          | .opening =>
              match words, settings, redirects with
              | [w], [], [] =>
                  expect .closing room
                  match bareText? w with
                  | none => fail "Bad function name"
                  | some name =>
                      if !isName name || specialBuiltins.contains name then
                        fail "Bad function name"
                      modify fun s => { s with check := { newlines := true, keywords := true } }
                      pure (.define name (← command room))
              | _, _, _ =>
                  modify fun s => { s with pushed := true }
                  pure c
          | _ =>
              modify fun s => { s with pushed := true }
              pure c
      | c => pure c

end

/-- Reads the next line of commands; there is none at the end of a script. -/
def Reader.next : Reader (Option (List Command)) := do
  let s ← get
  set { s with pushed := false, check := {}, pending := [] }
  let commands ← list false true (8 * s.rest.length + 200) []
  let s ← get
  let atEnd := match s.last with
    | .finish => true
    | _ => false
  pure (if commands.isEmpty && atEnd then none else some commands)

end DartTriggers.Toolbox.Shell
