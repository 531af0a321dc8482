import DartTriggers.Toolbox.Host
import DartTriggers.Toolbox.Printf
/-!
Conditions on files, texts and numbers, written as lists of words. `!` negates, `-a` binds tighter
than `-o`, and parentheses group. Whether a word is an operator hangs on what follows it.
-/

namespace DartTriggers.Toolbox.Condition

/-- What is wrong with a condition. -/
inductive Fault where
  | noArgument (operator : String)
  | openGroup
  | unexpected (word : String)
  | noNumber (word : String)
deriving DecidableEq, Repr

def Fault.message : Fault → String
  | .noArgument operator => operator ++ ": argument expected"
  | .openGroup => "closing paren expected"
  | .unexpected word =>
      if word.isEmpty then "unexpected operator" else word ++ ": unexpected operator"
  | .noNumber word => "Illegal number: " ++ word

/-- What conditions are about. -/
structure World where
  tree : FileTree
  path : String → Path
  programs : List String

def unaryOperators : List String :=
  ["-b", "-c", "-d", "-e", "-f", "-G", "-g", "-h", "-k", "-L", "-n", "-O", "-p", "-r", "-S", "-s",
   "-t", "-u", "-w", "-x", "-z"]

def comparisons : List String :=
  ["-eq", "-ne", "-ge", "-gt", "-le", "-lt"]

def binaryOperators : List String :=
  ["=", "!=", "<", ">", "-nt", "-ot", "-ef"] ++ comparisons

/-- The symbol that a word is, given the words after it. -/
inductive Symbol where
  | finish
  | operand
  | not
  | and
  | or
  | opening
  | closing
  | unary (operator : String)
  | binary (operator : String)
deriving DecidableEq

def symbol : List String → Symbol
  | [] => .finish
  | word :: rest =>
      let isOperand := match rest with
        | [] => true
        | [_] => false
        | next :: _ => binaryOperators.contains next
      if unaryOperators.contains word then (if isOperand then .operand else .unary word)
      else if binaryOperators.contains word then .binary word
      else if word = "!" then (if isOperand then .operand else .not)
      else if word = "-a" then .and
      else if word = "-o" then .or
      else if word = "(" then (if rest.isEmpty then .operand else .opening)
      else if word = ")" then .closing
      else .operand

/-- A whole number in base ten, which blanks may stand around. -/
def number (word : String) : Except Fault Int :=
  let isBlank (c : Char) : Bool := c = ' ' || ('\t' ≤ c && c ≤ '\r')
  let s := word.toList.dropWhile isBlank
  let (negative, s) := match s with
    | '-' :: rest => (true, rest)
    | '+' :: rest => (false, rest)
    | s => (false, s)
  let digits := s.takeWhile Char.isDigit
  if digits.isEmpty || !(s.drop digits.length).all isBlank then .error (.noNumber word)
  else
    let n : Nat := digits.foldl (fun n c => 10 * n + (c.toNat - 48)) 0
    .ok (if negative then -(n : Int) else n)

/-- Whether something holds of the file of a word. -/
def World.holdsOfFile (w : World) (operator name : String) : Bool :=
  let p := w.path name
  match w.tree.node p with
  | .ok (.file content) =>
      ["-e", "-f", "-r", "-w", "-O", "-G"].contains operator ||
        (operator == "-s" && content.size != 0)
  | .ok (.directory _) => ["-e", "-d", "-r", "-w", "-x", "-s", "-O", "-G"].contains operator
  | .error _ =>
      match if name.isEmpty then none else Host.kind? w.programs p with
      | none => false
      | some .directory => ["-e", "-d", "-r", "-w", "-x", "-s", "-O", "-G"].contains operator
      | some .device => ["-e", "-c", "-r", "-w", "-O", "-G"].contains operator
      | some .plainFile => ["-e", "-f", "-r", "-w", "-s", "-O", "-G"].contains operator
      | some (.program _) => ["-e", "-f", "-r", "-w", "-x", "-s", "-O", "-G"].contains operator

def World.unary (w : World) (operator word : String) : Except Fault Bool :=
  if operator = "-n" then .ok (!word.isEmpty)
  else if operator = "-z" then .ok word.isEmpty
  else if operator = "-t" then (number word).map fun _ => false
  else .ok (w.holdsOfFile operator word)

def World.binary (w : World) (a operator b : String) : Except Fault Bool :=
  if operator = "=" ∨ operator = "==" then .ok (a == b)
  else if operator = "!=" then .ok (a != b)
  else if operator = "<" then .ok (decide (a < b))
  else if operator = ">" then .ok (decide (b < a))
  else if operator = "-ef" then .ok (w.tree.exists? (w.path a) && w.path a == w.path b)
  else if operator = "-nt" ∨ operator = "-ot" then .ok false
  else do
    let m ← number a
    let n ← number b
    let values := [m == n, m != n, decide (n ≤ m), decide (n < m), decide (m ≤ n), decide (m < n)]
    pure (((comparisons.zip values).lookup operator).getD false)

/-- A value, and the words from the last one that has been used. -/
abbrev Result := Except Fault (Bool × List String)

mutual

/-- The value of a choice, given that of what comes before it. -/
def World.either (w : World) : (room : Nat) → Bool → List String → Result
  | 0, value, words => .ok (value, words)
  | room + 1, value, words =>
      match w.both room true words with
      | .error e => .error e
      | .ok (more, rest) =>
          if symbol (rest.drop 1) = .or then w.either room (value || more) (rest.drop 2)
          else .ok (value || more, rest)

/-- The value of several conditions of which all have to hold. -/
def World.both (w : World) : (room : Nat) → Bool → List String → Result
  | 0, value, words => .ok (value, words)
  | room + 1, value, words =>
      match w.negation room words with
      | .error e => .error e
      | .ok (more, rest) =>
          if symbol (rest.drop 1) = .and then w.both room (value && more) (rest.drop 2)
          else .ok (value && more, rest)

def World.negation (w : World) : (room : Nat) → List String → Result
  | 0, words => .ok (false, words)
  | room + 1, words =>
      if symbol words = .not then
        let rest := if words.length = 1 then words else words.drop 1
        (w.negation room rest).map fun (value, rest) => (!value, rest)
      else w.primary room words

def World.primary (w : World) : (room : Nat) → List String → Result
  | 0, words => .ok (false, words)
  | room + 1, words =>
      match symbol words, words with
      | .finish, _ | _, [] => .ok (false, words)
      | .opening, _ :: rest =>
          if symbol rest = .closing then .ok (false, rest)
          else
            match w.either room false rest with
            | .error e => .error e
            | .ok (value, rest) =>
                if symbol (rest.drop 1) = .closing then .ok (value, rest.drop 1)
                else .error .openGroup
      | .unary operator, _ :: rest =>
          match rest with
          | [] => .error (.noArgument operator)
          | word :: _ => (w.unary operator word).map fun value => (value, rest)
      | _, word :: rest =>
          match symbol rest with
          | .binary operator =>
              match rest.drop 1 with
              | [] => .error (.noArgument operator)
              | other :: more =>
                  (w.binary word operator other).map fun value => (value, other :: more)
          | _ => .ok (!word.isEmpty, words)

end

/-- The value of a whole condition. -/
def World.whole (w : World) (words : List String) : Except Fault Bool :=
  match w.either (4 * words.length + 8) false words with
  | .error e => .error e
  | .ok (value, last :: _ :: _) => if words.isEmpty then .ok value else .error (.unexpected last)
  | .ok (value, _) => .ok value

/-- Whether a condition of three words holds, which is looked at as a whole. -/
def World.ofThree (w : World) (a operator b : String) : Except Fault Bool :=
  if binaryOperators.contains operator then w.binary a operator b
  else if a = "(" && b = ")" then w.whole [operator]
  else if a = "!" then (w.whole [operator, b]).map (!·)
  else w.whole [a, operator, b]

/-- Whether a condition holds. -/
def World.holds (w : World) : List String → Except Fault Bool
  | [] => .ok false
  | [a, operator, b] => w.ofThree a operator b
  | ["(", a, b, ")"] => w.whole [a, b]
  | ["!", a, b, c] => (w.ofThree a b c).map (!·)
  | words => w.whole words

end DartTriggers.Toolbox.Condition
