/-!
Arguments of a command: options with and without a value, written long (`--out-dir gen`,
`--out-dir=gen`) or short (`-o gen`, `-ogen`, `-o=gen`), short ones also several in a row, and at
most one operand. Two dashes end the options. Every option is given at most once.
-/

namespace DartTriggers.CommandLine

/-- An option of a command. -/
structure OptionForm where
  /-- The long name, without dashes. -/
  name : String
  short? : Option Char
  takesValue : Bool
deriving DecidableEq, Repr

/-- What a command can be given. -/
structure Grammar where
  options : List OptionForm
  takesOperand : Bool
deriving DecidableEq, Repr

/-- What a command is given. -/
structure Given where
  /-- The names of the options and their values; a value is empty where none is taken. -/
  options : List (String × String) := []
  operand : Option String := none
deriving DecidableEq, Repr

namespace Given

def value? (g : Given) (name : String) : Option String :=
  g.options.lookup name

def has (g : Given) (name : String) : Bool :=
  (g.value? name).isSome

/-- Adds an option, unless it is there already. -/
def add? (g : Given) (form : OptionForm) (value : String) : Option Given :=
  if g.has form.name then none else some { g with options := (form.name, value) :: g.options }

end Given

namespace Grammar

def long? (g : Grammar) (name : String) : Option OptionForm :=
  g.options.find? fun form => form.name = name

def short? (g : Grammar) (c : Char) : Option OptionForm :=
  g.options.find? fun form => form.short? = some c

/-- Adds the operand, if one is taken and none is there yet. -/
def addOperand? (g : Grammar) (given : Given) (text : String) : Option Given :=
  if g.takesOperand ∧ given.operand = none then some { given with operand := some text } else none

/-- What an argument comes to: what has been given, and the option that still needs a value. -/
abbrev Taken := Option (Given × Option OptionForm)

/-- Takes an option with a long name and what is attached to it by an equals sign. -/
def takeLong (g : Grammar) (given : Given) (name : String) (attached : Option String) : Taken :=
  match g.long? name with
  | none => none
  | some form =>
      match form.takesValue, attached with
      | true, none => some (given, some form)
      | true, some value => (given.add? form value).map (·, none)
      | false, none => (given.add? form "").map (·, none)
      | false, some _ => none

/-- Takes options with short names. What follows one that takes a value is the value. -/
def takeShort (g : Grammar) : Given → List Char → Taken
  | given, [] => some (given, none)
  | given, c :: rest =>
      match g.short? c with
      | none => none
      | some form =>
          if form.takesValue then
            match rest with
            | [] => some (given, some form)
            | '=' :: value => (given.add? form (.ofList value)).map (·, none)
            | value => (given.add? form (.ofList value)).map (·, none)
          else
            match given.add? form "" with
            | none => none
            | some given => takeShort g given rest

/-- Takes an argument that starts with a dash and is more than one or two dashes. -/
def takeOptions (g : Grammar) (given : Given) : List Char → Taken
  | '-' :: '-' :: rest =>
      let name := rest.takeWhile (· ≠ '=')
      let attached := match rest.drop name.length with
        | [] => none
        | _ :: value => some (String.ofList value)
      g.takeLong given (.ofList name) attached
  | _ :: rest => g.takeShort given rest
  | [] => none

/-- Whether an argument is read as options: a dash alone is not. -/
def isOptions (arg : String) : Bool :=
  match arg.toList with
  | '-' :: _ :: _ => true
  | _ => false

/-- Takes the arguments after two dashes. -/
def takeOperands (g : Grammar) (given : Given) (args : List String) : Option Given :=
  args.foldlM g.addOperand? given

/-- Takes arguments; the value of a pending option comes first. -/
def take (g : Grammar) : Given → (pending : Option OptionForm) → List String → Option Given
  | given, none, [] => some given
  | _, some _, [] => none
  | given, some form, arg :: rest =>
      if isOptions arg then none
      else
        match given.add? form arg with
        | none => none
        | some given => g.take given none rest
  | given, none, arg :: rest =>
      if arg = "--" then g.takeOperands given rest
      else if isOptions arg then
        match g.takeOptions given arg.toList with
        | none => none
        | some (given, pending) => g.take given pending rest
      else
        match g.addOperand? given arg with
        | none => none
        | some given => g.take given none rest

/-- What is given by some arguments; nothing if they do not fit. -/
def read? (g : Grammar) (args : List String) : Option Given :=
  g.take {} none args

end Grammar

end DartTriggers.CommandLine
