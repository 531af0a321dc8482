import DartTriggers.Text.Octets
/-!
Scripts of the shell. A script is a list of commands; words are made of parts, some of which stand
for something else and are replaced when a command is run.
-/

namespace DartTriggers.Toolbox.Shell

/-- How the value of a parameter is used. -/
inductive Use where
  | value
  | length
  /-- A use that cannot be understood. -/
  | malformed
  /-- A word if there is no value, or, with a colon, if it is empty. -/
  | orElse (colon : Bool)
  /-- The same, and the parameter is given that value. -/
  | assign (colon : Bool)
  /-- The word is a complaint if there is no value. -/
  | complain (colon : Bool)
  /-- A word if there is a value. -/
  | instead (colon : Bool)
  /-- The value without what the word matches at its start. -/
  | dropStart (longest : Bool)
  /-- The value without what the word matches at its end. -/
  | dropEnd (longest : Bool)
deriving DecidableEq, Repr

/-- What is done to a channel of a command. -/
inductive Redirection where
  | read
  | write
  /-- Writes even if files are to be kept. -/
  | replace
  | append
  | readWrite
  /-- The channel becomes the same as another one, or is closed. -/
  | duplicate
  /-- The input is a document that stands in the script. -/
  | document (index : Nat)
deriving DecidableEq, Repr

mutual

/-- A part of a word. -/
inductive Part where
  | text (s : String)
  | quoted (s : String)
  | parameter (name : String) (use : Use) (word : List Part) (isQuoted : Bool)
  /-- What a script shows. -/
  | output (script : List Command) (isQuoted : Bool)
  | arithmetic (expression : List Part) (isQuoted : Bool)

/-- A change of a channel. -/
inductive Redirect where
  | mk (channel : Nat) (kind : Redirection) (target : List Part)

/-- A command of a script. -/
inductive Command where
  | simple (line : Nat) (settings : List (String × List Part)) (words : List (List Part))
      (redirects : List Redirect)
  /-- Commands that run on the output of each other. -/
  | pipeline (commands : List Command)
  | negated (c : Command)
  | both (a b : Command)
  | either (a b : Command)
  | background (c : Command)
  | group (body : List Command)
  | subshell (body : List Command)
  | redirected (line : Nat) (c : Command) (redirects : List Redirect)
  | branch (test body otherwise : List Command)
  /-- Repeats a body as long as a test succeeds, or fails. -/
  | loop (fails : Bool) (test body : List Command)
  | each (line : Nat) (name : String) (words : List (List Part)) (body : List Command)
  | choose (line : Nat) (subject : List Part)
      (cases : List (List (List Part) × List Command))
  | define (name : String) (body : Command)

end

abbrev Word := List Part

instance : Inhabited Command := ⟨.group []⟩

instance : Inhabited Part := ⟨.text ""⟩

/-- Whether a part is between quotes. -/
def Part.isQuoted : Part → Bool
  | .text _ => false
  | .quoted _ => true
  | .parameter _ _ _ isQuoted | .output _ isQuoted | .arithmetic _ isQuoted => isQuoted

/-- The text of a word in which nothing stands for anything else. -/
def plainText? : Word → Option String
  | [] => some ""
  | .text s :: rest | .quoted s :: rest => (plainText? rest).map (s ++ ·)
  | _ :: _ => none

def isNameStart (c : Char) : Bool :=
  c.isAlpha || c = '_'

def isNameChar (c : Char) : Bool :=
  c.isAlphanum || c = '_'

/-- Whether a text can be the name of a variable. -/
def isName (s : String) : Bool :=
  match s.toList with
  | [] => false
  | c :: rest => isNameStart c && rest.all isNameChar

/-- The parameters that are not named by letters or digits. -/
def specialParameters : List Char :=
  ['@', '*', '#', '?', '-', '$', '!']

end DartTriggers.Toolbox.Shell
