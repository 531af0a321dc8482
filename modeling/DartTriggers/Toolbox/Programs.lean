import DartTriggers.Toolbox.CharMap
import DartTriggers.Toolbox.Columns
import DartTriggers.Toolbox.CountedCondition
import DartTriggers.Toolbox.Creation
import DartTriggers.Toolbox.Display
import DartTriggers.Toolbox.Listing
import DartTriggers.Toolbox.Mode
import DartTriggers.Toolbox.Portion
import DartTriggers.Toolbox.Removal
import DartTriggers.Toolbox.Search
import DartTriggers.Toolbox.Sequence
import DartTriggers.Toolbox.Sorting
import DartTriggers.Toolbox.Tally
import DartTriggers.Toolbox.Transfer
/-!
The programs by their names, except for those that run others.
-/

namespace DartTriggers.Toolbox

/-- Octal and other escapes of `echo`. -/
def echoText : (room : Nat) → List Char → List Char × Bool
  | 0, s => (s, true)
  | room + 1, s =>
      let after (text rest : List Char) : List Char × Bool :=
        let (more, goesOn) := echoText room rest
        (text ++ more, goesOn)
      match s with
      | [] => ([], true)
      | '\\' :: 'c' :: _ => ([], false)
      | '\\' :: '0' :: rest =>
          let (n, left) := Printf.digitsAt 8 3 rest
          after [Printf.octet n] left
      | '\\' :: c :: rest =>
          if c = '"' ∨ c = 'u' ∨ c = 'U' then after ['\\', c] rest
          else
            match Printf.escape? .program (c :: rest) with
            | some (text, left) => after text left
            | none => after ['\\', c] rest
      | c :: rest => after [c] rest

/-- The options at the start of the arguments of `echo`, and the words after them. -/
def echoOptions : List String → List Char × List String
  | [] => ([], [])
  | arg :: rest =>
      match arg.toList with
      | '-' :: c :: letters =>
          if (c :: letters).all fun c => c = 'n' || c = 'e' || c = 'E' then
            let (more, words) := echoOptions rest
            (c :: letters ++ more, words)
          else ([], arg :: rest)
      | _ => ([], arg :: rest)

/-- Shows its arguments on a line. -/
def echo : Program := fun args s =>
  let (letters, words) := echoOptions args
  let text := " ".intercalate words
  let escapes := (letters.filter (· != 'n')).getLast? = some 'e'
  let (shown, goesOn) := if escapes then
      let (shown, goesOn) := echoText (text.length + 1) text.toList
      (String.ofList shown, goesOn)
    else (text, true)
  s.start.say (if letters.contains 'n' || !goesOn then shown else shown ++ "\n")

/-- Shows its arguments as a format tells. -/
def printf : Program := fun args s =>
  match if args.head? = some "--" then args.drop 1 else args with
  | [] => s.start.complain 1 ("printf: missing operand\n" ++ seeHelp "printf")
  | format :: args =>
      let f := Printf.format .program format args
      let o := f.warnings.foldl (fun o text => o.warn ("printf: " ++ text ++ "\n")) s.start
      (o.say f.out).exit f.code

/-- What conditions are about when a program looks at them. -/
def worldOf (s : Setting) (programs : List String) : Condition.World :=
  ⟨s.tree, s.path, programs⟩

/-- Ends well if a condition holds. -/
def testAs (name : String) (programs : List String) : Program := fun words s =>
  match CountedCondition.holds (worldOf s programs) words with
  | .ok true => s.start
  | .ok false => s.start.exit 1
  | .error e => s.start.complain 2 (name ++ ": " ++ e.message)

/-- Like `test`, with a bracket after the condition. -/
def bracketTest (programs : List String) : Program := fun args s =>
  if args.getLast? = some "]" then testAs "[" programs args.dropLast s
  else s.start.complain 2 "[: missing ']'"

/-- A name without a suffix, unless that is all of it. -/
def withoutSuffix (name suffix : String) : String :=
  if suffix ≠ "" ∧ name ≠ suffix ∧ name.endsWith suffix then
    (name.dropEnd suffix.length).toString
  else name

/-- Shows the last parts of names. -/
def basename : Program :=
  withOptions "basename"
    [⟨'a', ["multiple"], .nothing⟩, ⟨'s', ["suffix"], .value⟩, ⟨'z', ["zero"], .nothing⟩] 1
    fun a s =>
      let mark := if a.has 'z' then "\x00" else "\n"
      match a.operands with
      | [] => s.start.complain 1 ("basename: missing operand\n" ++ seeHelp "basename")
      | names =>
          if a.hasAny "as" then
            s.start.say (String.join (names.map fun name =>
              withoutSuffix (baseName name) ((a.value? 's').getD "") ++ mark))
          else
            match names with
            | [name] => s.start.say (baseName name ++ mark)
            | [name, suffix] => s.start.say (withoutSuffix (baseName name) suffix ++ mark)
            | _ =>
                s.start.complain 1 ("basename: extra operand " ++
                  quotedWord ((names.drop 2).head?.getD "") ++ "\n" ++ seeHelp "basename")

/-- A name without its last part. -/
def directoryName (name : String) : String :=
  let dropSlashes (s : List Char) : List Char := s.dropWhile (· = '/')
  let s := dropSlashes name.toList.reverse
  let above := s.dropWhile (· ≠ '/')
  match dropSlashes above with
  | [] => if s.isEmpty then (if name.isEmpty then "." else "/")
      else if above.isEmpty then "." else "/"
  | rest => .ofList rest.reverse

/-- Shows names without their last parts. -/
def dirname : Program :=
  withOptions "dirname" [⟨'z', ["zero"], .nothing⟩] 1 fun a s =>
    match a.operands with
    | [] => s.start.complain 1 ("dirname: missing operand\n" ++ seeHelp "dirname")
    | names =>
        let mark := if a.has 'z' then "\x00" else "\n"
        s.start.say (String.join (names.map fun name => directoryName name ++ mark))

/-- Shows the working directory. -/
def workingDirectory : Program :=
  withOptions "pwd" [⟨'L', ["logical"], .nothing⟩, ⟨'P', ["physical"], .nothing⟩] 1 fun a s =>
    let o := if a.operands.isEmpty then s.start
      else s.start.warn "pwd: ignoring non-option arguments\n"
    o.say (Bytes.toOctets s.cwd.bytes ++ "\n")

/-- Whether a text is a time: a number with a unit after it, if there is one. -/
def isTime (text : String) : Bool :=
  let (n, rest, isMissing) := Printf.decimal text
  !isMissing && !n.negative && (rest.isEmpty || ["s", "m", "h", "d"].contains (String.ofList rest))

/-- Waits, which takes no time here. -/
def sleep : Program :=
  withOptions "sleep" [] 1 fun a s =>
    let faults := a.operands.filter (!isTime ·)
    match a.operands, faults with
    | [], _ => s.start.misused 1 "sleep" "missing operand"
    | _, [] => s.start
    | _, faults =>
        (faults.foldl (fun o text =>
          o.warn ("sleep: invalid time interval " ++ quotedWord text ++ "\n")) s.start).complain 1
          (seeHelp "sleep")

/-- The programs that run no other ones, by their names. -/
def plainPrograms (names : List String) : List (String × Program) :=
  [("true", fun _ s => s.start), ("false", fun _ s => s.start.exit 1), ("sleep", sleep),
   ("cat", cat), ("echo", echo), ("printf", printf), ("rm", rm), ("rmdir", rmdir),
   ("touch", touch), ("mkdir", mkdir), ("cp", cp), ("mv", mv), ("chmod", Mode.chmod), ("ls", ls),
   ("test", testAs "test" names), ("[", bracketTest names), ("head", head), ("tail", tail),
   ("tac", tac), ("rev", rev), ("wc", wc), ("sort", sort), ("uniq", uniq), ("cut", cut),
   ("tr", CharMap.tr), ("grep", grepAs none), ("egrep", grepAs (some .extended)),
   ("fgrep", grepAs (some .fixed)), ("tee", tee), ("basename", basename), ("dirname", dirname),
   ("pwd", workingDirectory), ("seq", Sequence.seq)]

end DartTriggers.Toolbox
