import DartTriggers.Toolbox.Printf
/-!
Arithmetic on whole numbers of sixty-four bits. Variables hold the texts of numbers; an expression
can give them new values.
-/

namespace DartTriggers.Toolbox.Shell.Arithmetic

/-- What is wrong with an expression. -/
inductive Fault where
  | expected (what : String)
  | divisionByZero
  /-- A variable does not hold a number. -/
  | noNumber (text : String)
deriving DecidableEq, Repr

def Fault.message (expression : String) : Fault → String
  | .expected what => "arithmetic expression: expecting " ++ what ++ ": \"" ++ expression ++ "\""
  | .divisionByZero => "arithmetic expression: division by zero: \"" ++ expression ++ "\""
  | .noNumber text => "Illegal number: " ++ text

inductive Token where
  | finish
  | number (n : Int)
  | name (s : String)
  | operator (s : String)
deriving DecidableEq, Repr

/-- A whole number of sixty-four bits. -/
def wrap (n : Int) : Int :=
  n.bmod 18446744073709551616

/-- The operators, the longer ones first. -/
def operators : List String :=
  ["<<=", ">>=", "==", "!=", ">=", "<=", ">>", "<<", "||", "&&", "|=", "&=", "^=", "*=", "/=", "%=",
   "+=", "-=", "=", ">", "<", "|", "&", "!", "*", "/", "%", "+", "-", "^", "(", ")", "~", "?", ":"]

/-- The first token of a text, and what follows. -/
def token (s : List Char) : Token × List Char :=
  match s.dropWhile fun c => c = ' ' || c = '\t' || c = '\n' with
  | [] => (.finish, [])
  | c :: rest =>
      if c.isDigit then
        let n := Printf.numeral (.ofList (c :: rest))
        (.number (max Printf.smallest (min Printf.largest n.value)), n.left)
      else if c.isAlpha || c = '_' then
        let name := (c :: rest).takeWhile fun c => c.isAlphanum || c = '_'
        (.name (.ofList name), (c :: rest).drop name.length)
      else
        match operators.find? fun op => op.toList.isPrefixOf (c :: rest) with
        | some op => (.operator op, (c :: rest).drop op.length)
        | none => (.operator (.singleton c), rest)

/-- An expression that is being evaluated. -/
structure State where
  /-- The token that is looked at, and what follows it. -/
  token : Token
  rest : List Char
  /-- The values of variables. -/
  lookup : String → Option String
  /-- The new values, the last one first. -/
  changes : List (String × Int) := []

abbrev Evaluation := StateT State (Except Fault)

/-- Goes on to the next token. -/
def advance : Evaluation Unit :=
  modify fun s =>
    let (token, rest) := Arithmetic.token s.rest
    { s with token, rest }

def fail {α : Type} (fault : Fault) : Evaluation α := fun _ =>
  .error fault

/-- The value of a variable. -/
def valueOf (name : String) : Evaluation Int := do
  let s ← get
  match s.changes.lookup name with
  | some n => pure n
  | none =>
      let text := (s.lookup name).getD ""
      let n := Printf.numeral text
      let isBlank (c : Char) : Bool := c = ' ' || ('\t' ≤ c && c ≤ '\r')
      if text.toList.all isBlank then pure 0
      else if n.isMissing || !n.left.all isBlank then fail (.noNumber text)
      else pure (max Printf.smallest (min Printf.largest n.value))

/-- How tight operators bind. -/
def precedence? (op : String) : Option Nat :=
  [("*", 10), ("/", 10), ("%", 10), ("+", 9), ("-", 9), ("<<", 8), (">>", 8), ("<", 7), ("<=", 7),
   (">", 7), (">=", 7), ("==", 6), ("!=", 6), ("&", 5), ("^", 4), ("|", 3)].lookup op

def truth (b : Bool) : Int :=
  if b then 1 else 0

/-- A number as sixty-four bits. -/
def bits (n : Int) : Nat :=
  (n % 18446744073709551616).toNat

/-- The value of an operator. -/
def apply (op : String) (a b : Int) : Evaluation Int := do
  if op = "*" then pure (wrap (a * b))
  else if op = "/" ∨ op = "%" then
    if b = 0 then fail .divisionByZero
    pure (wrap (if op = "/" then a.tdiv b else a.tmod b))
  else if op = "+" then pure (wrap (a + b))
  else if op = "-" then pure (wrap (a - b))
  else if op = "<<" then pure (wrap (a * (Nat.pow 2 (bits b % 64) : Nat)))
  else if op = ">>" then pure (a / (Nat.pow 2 (bits b % 64) : Nat))
  else if op = "<" then pure (truth (decide (a < b)))
  else if op = "<=" then pure (truth (decide (a ≤ b)))
  else if op = ">" then pure (truth (decide (b < a)))
  else if op = ">=" then pure (truth (decide (b ≤ a)))
  else if op = "==" then pure (truth (a == b))
  else if op = "!=" then pure (truth (a != b))
  else if op = "&" then pure (wrap (bits a &&& bits b : Nat))
  else if op = "^" then pure (wrap (bits a ^^^ bits b : Nat))
  else pure (wrap (bits a ||| bits b : Nat))

mutual

/-- A number, a variable, or something in parentheses. -/
def primary (dry : Bool) : (room : Nat) → Evaluation Int
  | 0 => fail (.expected "primary")
  | room + 1 => do
      match (← get).token with
      | .operator "(" =>
          advance
          let n ← assignment dry room
          if (← get).token ≠ .operator ")" then fail (.expected "')'")
          advance
          pure n
      | .number n =>
          advance
          pure n
      | .name name =>
          advance
          if dry then pure 0 else valueOf name
      | .operator "+" =>
          advance
          primary dry room
      | .operator "-" =>
          advance
          pure (wrap (-(← primary dry room)))
      | .operator "!" =>
          advance
          pure (truth ((← primary dry room) == 0))
      | .operator "~" =>
          advance
          pure (-(← primary dry room) - 1)
      | _ => fail (.expected "primary")

/-- Operators that bind at least as tight as a bound, after a first value. -/
def binary (dry : Bool) : (room bound : Nat) → Int → Evaluation Int
  | 0, _, a => pure a
  | room + 1, bound, a => do
      match (← get).token with
      | .operator op =>
          match precedence? op with
          | none => pure a
          | some p =>
              if p < bound then pure a
              else
                advance
                let b ← primary dry room
                let b ← binary dry room (p + 1) b
                let n ← if dry then pure b else apply op a b
                binary dry room bound n
      | _ => pure a

def conjunction (dry : Bool) : (room : Nat) → Evaluation Int
  | 0 => pure 0
  | room + 1 => do
      let a ← binary dry room 0 (← primary dry room)
      if (← get).token = .operator "&&" then
        advance
        let b ← conjunction (dry || a == 0) room
        pure (truth (a != 0 && b != 0))
      else pure a

def disjunction (dry : Bool) : (room : Nat) → Evaluation Int
  | 0 => pure 0
  | room + 1 => do
      let a ← conjunction dry room
      if (← get).token = .operator "||" then
        advance
        let b ← disjunction (dry || a != 0) room
        pure (truth (a != 0 || b != 0))
      else pure a

def conditional (dry : Bool) : (room : Nat) → Evaluation Int
  | 0 => pure 0
  | room + 1 => do
      let a ← disjunction dry room
      if (← get).token = .operator "?" then
        advance
        let b ← assignment (dry || a == 0) room
        if (← get).token ≠ .operator ":" then fail (.expected "':'")
        advance
        let c ← conditional (dry || a != 0) room
        pure (if a = 0 then c else b)
      else pure a

def assignment (dry : Bool) : (room : Nat) → Evaluation Int
  | 0 => pure 0
  | room + 1 => do
      let s ← get
      match s.token, Arithmetic.token s.rest with
      | .name name, (.operator op, rest) =>
          let plain := (op.dropEnd 1).toString
          if op = "=" ∨ (op.endsWith "=" ∧ (precedence? op).isNone ∧
              (precedence? plain).isSome ∧ operators.contains op) then
            let (token, rest) := Arithmetic.token rest
            set { s with token, rest }
            let n ← assignment dry room
            if dry then pure n
            else
              let n ← if op = "=" then pure n else apply plain (← valueOf name) n
              modify fun s => { s with changes := (name, n) :: s.changes }
              pure n
          else conditional dry room
      | _, _ => conditional dry room

end

/-- The value of an expression, and the new values of variables in order. -/
def evaluate (lookup : String → Option String) (text : String) :
    Except Fault (Int × List (String × Int)) :=
  let (token, rest) := token text.toList
  match (assignment false (12 * text.length + 24)).run { token, rest, lookup } with
  | .error e => .error e
  | .ok (n, s) =>
      if s.token = .finish then .ok (n, s.changes.reverse) else .error (.expected "EOF")

end DartTriggers.Toolbox.Shell.Arithmetic
