import DartTriggers.Toolbox.Process
/-!
The options of a program. An option is a letter after a dash or a word after two dashes; options and
operands may stand in any order, and two dashes alone end the options. Letters can be joined, and a
word can be cut short as long as it is clear which one is meant.
-/

namespace DartTriggers.Toolbox

/-- Whether an option has a value. -/
inductive Takes where
  | nothing
  | value
  /-- A value that stands in the same argument, if there is one. -/
  | maybe
deriving DecidableEq, Repr

/-- An option: its letter, the words that it can be written as, and its value. Options without
a letter of their own have one that cannot be written. -/
structure Choice where
  letter : Char
  words : List String := []
  takes : Takes := .nothing

/-- An option that has been given. -/
structure Given where
  letter : Char
  value : String := ""
deriving DecidableEq, Repr

/-- What is wrong with the options. -/
inductive OptionFault where
  | unknownLetter (c : Char)
  | unknownWord (word : String)
  | ambiguousWord (word : String) (possible : List String)
  | noValue (c : Char)
  | noWordValue (word : String)
  | strayValue (word : String)
deriving DecidableEq, Repr

def OptionFault.message : OptionFault → String
  | .unknownLetter c => "invalid option -- '" ++ .singleton c ++ "'"
  | .unknownWord word => "unrecognized option '--" ++ word ++ "'"
  | .ambiguousWord word possible =>
      "option '--" ++ word ++ "' is ambiguous; possibilities:" ++
        String.join (possible.map fun p => " '--" ++ p ++ "'")
  | .noValue c => "option requires an argument -- '" ++ .singleton c ++ "'"
  | .noWordValue word => "option '--" ++ word ++ "' requires an argument"
  | .strayValue word => "option '--" ++ word ++ "' doesn't allow an argument"

/-- The options and operands that have been found, in order. -/
structure Arguments where
  options : List Given := []
  operands : List String := []

namespace Arguments

def has (a : Arguments) (c : Char) : Bool :=
  a.options.any fun g => g.letter == c

/-- Whether any of some options is given. -/
def hasAny (a : Arguments) (cs : String) : Bool :=
  a.options.any fun g => cs.toList.contains g.letter

/-- The value of the last of an option. -/
def value? (a : Arguments) (c : Char) : Option String :=
  ((a.options.filter fun g => g.letter == c).getLast?).map (·.value)

/-- The last one given of some options. -/
def lastOf? (a : Arguments) (cs : String) : Option Char :=
  ((a.options.filter fun g => cs.toList.contains g.letter).getLast?).map (·.letter)

def addOption (g : Given) (a : Arguments) : Arguments :=
  { a with options := g :: a.options }

def addOperand (arg : String) (a : Arguments) : Arguments :=
  { a with operands := arg :: a.operands }

end Arguments

/-- Finds the option of a word, which may be cut short. -/
def findWord (known : List Choice) (word : String) : Except OptionFault (Choice × String) :=
  let all := known.flatMap fun o => o.words.map fun w => (o, w)
  match all.find? fun (_, w) => w == word with
  | some found => .ok found
  | none =>
      match all.filter fun (_, w) => word.isPrefixOf w with
      | [] => .error (.unknownWord word)
      | [found] => .ok found
      | found :: more =>
          if more.all fun (o, _) => o.letter == found.1.letter then .ok found
          else .error (.ambiguousWord word ((found :: more).map (·.2)))

/-- The options of joined letters; gives the last one if its value is to come. -/
def joined (known : List Choice) : List Char → Except OptionFault (List Given × Option Choice)
  | [] => .ok ([], none)
  | c :: rest =>
      match known.find? fun o => o.letter == c with
      | none => .error (.unknownLetter c)
      | some o =>
          match o.takes, rest with
          | .value, [] => .ok ([], some o)
          | .value, value | .maybe, value => .ok ([⟨c, .ofList value⟩], none)
          | .nothing, rest =>
              (joined known rest).map fun (more, last) => (⟨c, ""⟩ :: more, last)

/-- An argument that starts with two dashes, without them. -/
def wordOf (arg : List Char) : String × Option String :=
  let word := arg.takeWhile (· != '=')
  (.ofList word, match arg.drop word.length with
    | [] => none
    | _ :: value => some (.ofList value))

/-- Reads the options among some arguments. If the options come first, all that follows the first
operand is an operand too. -/
def readOptions (known : List Choice) (optionsFirst : Bool) :
    List String → Except OptionFault Arguments
  | [] => .ok {}
  | arg :: rest =>
      match arg.toList with
      | '-' :: '-' :: [] => .ok { operands := rest }
      | '-' :: '-' :: written =>
          let (word, value) := wordOf written
          match findWord known word with
          | .error e => .error e
          | .ok (o, full) =>
              match o.takes, value, rest with
              | .nothing, some _, _ => .error (.strayValue full)
              | .value, none, [] => .error (.noWordValue full)
              | .value, none, value :: rest =>
                  (readOptions known optionsFirst rest).map (·.addOption ⟨o.letter, value⟩)
              | _, value, rest =>
                  (readOptions known optionsFirst rest).map
                    (·.addOption ⟨o.letter, value.getD ""⟩)
      | '-' :: c :: letters =>
          match joined known (c :: letters) with
          | .error e => .error e
          | .ok (given, none) =>
              (readOptions known optionsFirst rest).map fun a =>
                { a with options := given ++ a.options }
          | .ok (given, some o) =>
              match rest with
              | [] => .error (.noValue o.letter)
              | value :: rest =>
                  (readOptions known optionsFirst rest).map fun a =>
                    { a with options := given ++ ⟨o.letter, value⟩ :: a.options }
      | _ =>
          if optionsFirst then .ok { operands := arg :: rest }
          else (readOptions known optionsFirst rest).map (·.addOperand arg)

/-- What a program says about how it is called. -/
def seeHelp (name : String) : String :=
  "Try '" ++ name ++ " --help' for more information."

/-- A program that is called with options, which have to stand first if `optionsFirst` says so. -/
def withOptionsAt (optionsFirst : Bool) (name : String) (known : List Choice) (code : Nat)
    (run : Arguments → Setting → Outcome) : Program := fun args s =>
  match readOptions known optionsFirst args with
  | .ok a => run a s
  | .error e => s.start.complain code (name ++ ": " ++ e.message ++ "\n" ++ seeHelp name)

/-- A program that is called with options. -/
def withOptions : (name : String) → (known : List Choice) → (code : Nat) →
    (Arguments → Setting → Outcome) → Program :=
  withOptionsAt false

/-- What a program says that is called in a wrong way. -/
def Outcome.misused (o : Outcome) (code : Nat) (name message : String) : Outcome :=
  o.complain code (name ++ ": " ++ message ++ "\n" ++ seeHelp name)

end DartTriggers.Toolbox
