import DartTriggers.Toolbox.Condition
/-!
Conditions whose reading hangs on how many words there are. Up to four words are looked at as a
whole; of more words each term takes as many as its first ones ask for.
-/

namespace DartTriggers.Toolbox.CountedCondition

open Condition (World)

/-- What is wrong with a condition. -/
inductive Fault where
  | missingAfter (word : String)
  | noUnary (word : String)
  | noBinary (word : String)
  | noNumber (word : String)
  | noClose
  | noCloseBut (word : String)
  | extra (word : String)
deriving DecidableEq, Repr

def Fault.message : Fault → String
  | .missingAfter word => "missing argument after " ++ quotedWord word
  | .noUnary word => quotedWord word ++ ": unary operator expected"
  | .noBinary word => quotedWord word ++ ": binary operator expected"
  | .noNumber word => "invalid integer " ++ quotedWord word
  | .noClose => "')' expected"
  | .noCloseBut word => "')' expected, found " ++ quotedWord word
  | .extra word => "extra argument " ++ quotedWord word

def binaryOperators : List String :=
  ["=", "==", "!=", "-nt", "-ot", "-ef"] ++ Condition.comparisons

/-- Whether a word is a dash with a letter. -/
def looksUnary (word : String) : Bool :=
  word.startsWith "-" && word.length = 2

/-- A value, and the words that are left. -/
abbrev Result := Except Fault (Bool × List String)

/-- The value of an operator with a word. -/
def unary (w : World) (operator word : String) : Except Fault Bool :=
  if operator = "-N" then .ok (w.tree.exists? (w.path word))
  else if !Condition.unaryOperators.contains operator then .error (.noUnary operator)
  else
    match w.unary operator word with
    | .ok value => .ok value
    | .error _ => .error (.noNumber word)

/-- The value of an operator between words. -/
def binary (w : World) (a operator b : String) : Except Fault Bool :=
  match w.binary a operator b with
  | .ok value => .ok value
  | .error (.noNumber word) => .error (.noNumber word)
  | .error _ => .error (.noBinary operator)

/-- The value of an operator between words, each of which may be given by the length of another. -/
def dyadic? (w : World) (words : List String) : Option Result :=
  let length (word : String) : String := toString word.length
  match words with
  | "-l" :: a :: operator :: "-l" :: b :: rest =>
      if binaryOperators.contains operator then
        some ((binary w (length a) operator (length b)).map fun value => (value, rest))
      else none
  | "-l" :: a :: operator :: b :: rest =>
      if binaryOperators.contains operator then
        some ((binary w (length a) operator b).map fun value => (value, rest))
      else none
  | a :: operator :: "-l" :: b :: rest =>
      if binaryOperators.contains operator then
        some ((binary w a operator (length b)).map fun value => (value, rest))
      else none
  | a :: operator :: b :: rest =>
      if binaryOperators.contains operator then
        some ((binary w a operator b).map fun value => (value, rest))
      else none
  | _ => none

/-- The value of two words. -/
def ofTwo (w : World) (words : List String) : Result :=
  match words with
  | a :: b :: rest =>
      if a = "!" then .ok (b.isEmpty, rest)
      else if looksUnary a then (unary w a b).map fun value => (value, rest)
      else .error (.missingAfter b)
  | words => .ok (false, words)

/-- How many words there are up to a closing bracket; all of them if there are too many. -/
def countToClose (words : List String) : Nat :=
  let n := 1 + ((words.drop 1).takeWhile (· ≠ ")")).length
  if n < 4 then n else words.length

mutual

/-- The value of some words, of which there are as many as is said. -/
def ofSome (w : World) : (room n : Nat) → List String → Result
  | 0, _, words => .ok (false, words)
  | room + 1, n, words =>
      match n, words with
      | 1, a :: rest => .ok (!a.isEmpty, rest)
      | 2, words => ofTwo w words
      | 3, a :: operator :: b :: rest =>
          if binaryOperators.contains operator then
            (binary w a operator b).map fun value => (value, rest)
          else if a = "!" then
            (ofTwo w (operator :: b :: rest)).map fun (value, rest) => (!value, rest)
          else if a = "(" && b = ")" then .ok (!operator.isEmpty, rest)
          else if ["-a", "-o"].contains operator then either w room words
          else .error (.noBinary operator)
      | 4, a :: b :: c :: d :: rest =>
          if a = "!" then (ofSome w room 3 (b :: c :: d :: rest)).map fun (value, rest) =>
            (!value, rest)
          else if a = "(" && d = ")" then
            (ofTwo w (b :: c :: d :: rest)).map fun (value, _) => (value, rest)
          else either w room words
      | _, words => either w room words

/-- The value of terms of which one has to hold. -/
def either (w : World) : (room : Nat) → List String → Result
  | 0, words => .ok (false, words)
  | room + 1, words =>
      match both w room words with
      | .ok (value, "-o" :: rest) =>
          (either w room rest).map fun (more, rest) => (value || more, rest)
      | result => result

/-- The value of terms of which all have to hold. -/
def both (w : World) : (room : Nat) → List String → Result
  | 0, words => .ok (false, words)
  | room + 1, words =>
      match term w room words with
      | .ok (value, "-a" :: rest) =>
          (both w room rest).map fun (more, rest) => (value && more, rest)
      | result => result

/-- The value of a term. -/
def term (w : World) : (room : Nat) → List String → Result
  | 0, words => .ok (false, words)
  | room + 1, words =>
      match words with
      | [] => .error (.missingAfter "")
      | "!" :: rest => (term w room rest).map fun (value, rest) => (!value, rest)
      | "(" :: rest =>
          if rest.isEmpty then .error (.missingAfter "")
          else
            match ofSome w room (countToClose rest) rest with
            | .error e => .error e
            | .ok (value, ")" :: rest) => .ok (value, rest)
            | .ok (_, []) => .error .noClose
            | .ok (_, word :: _) => .error (.noCloseBut word)
      | a :: rest =>
          match dyadic? w words with
          | some result => result
          | none =>
              if looksUnary a then
                match rest with
                | [] => if Condition.unaryOperators.contains a then .error (.missingAfter "")
                    else .error (.noUnary a)
                | b :: rest => (unary w a b).map fun value => (value, rest)
              else .ok (!a.isEmpty, rest)

end

/-- Whether a condition holds. -/
def holds (w : World) (words : List String) : Except Fault Bool :=
  if words.isEmpty then .ok false
  else
    match ofSome w (4 * words.length + 8) words.length words with
    | .ok (value, []) => .ok value
    | .ok (_, word :: _) => .error (.extra word)
    | .error (.missingAfter "") => .error (.missingAfter (words.getLast?.getD ""))
    | .error e => .error e

end DartTriggers.Toolbox.CountedCondition
