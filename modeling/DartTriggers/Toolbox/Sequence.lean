import DartTriggers.Toolbox.Input
import DartTriggers.Toolbox.Printf
/-!
Numbers in order, from one to another by equal steps.
-/

namespace DartTriggers.Toolbox.Sequence

/-- A number with its decimal places. -/
structure Operand where
  /-- The number without its point. -/
  digits : Int
  places : Nat
  /-- How many columns it takes as it is written. -/
  width : Nat

/-- Reads a number. -/
def operand? (text : String) : Option Operand :=
  let written := text.toList.dropWhile fun c => c = ' ' || c = '+'
  let (negative, s) := match written with
    | '-' :: rest => (true, rest)
    | s => (false, s)
  let whole := s.takeWhile Char.isDigit
  let rest := s.drop whole.length
  let part := rest.drop 1
  let isRead := rest.isEmpty || (rest.head? = some '.' && part.all Char.isDigit)
  if !isRead || (whole.isEmpty && part.isEmpty) then none
  else
    let n : Int := valueOf (whole ++ part)
    let width := if whole.isEmpty then written.length + 1
      else if part.isEmpty then written.length - rest.length
      else written.length
    some ⟨if negative then -n else n, part.length, width⟩

/-- A number with as many places as are asked for. -/
def Operand.scaled (n : Operand) (places : Nat) : Int :=
  n.digits * Nat.pow 10 (places - n.places)

/-- The text of a number with decimal places. -/
def shown (places : Nat) (n : Int) : String :=
  (if n < 0 then "-" else "") ++ .ofList (Printf.withPoint false places n.natAbs)

/-- How many columns a number takes with as many places as are asked for. -/
def Operand.columns (n : Operand) (places : Nat) : Nat :=
  if places = 0 then n.width - (if n.places = 0 then 0 else n.places + 1)
  else if n.places = 0 then n.width + places + 1
  else n.width + places - n.places

/-- A text with zeros in front of its digits. -/
def zeroFilled (width : Nat) (text : String) : String :=
  let zeros := String.ofList (List.replicate (width - text.length) '0')
  if text.startsWith "-" then "-" ++ zeros ++ (text.drop 1).toString else zeros ++ text

/-- What is wrong with a format. -/
def formatFault? (text : String) : Option String :=
  let name := quotedWord text
  let directives := (text.replace "%%" "").splitOn "%"
  match directives with
  | [_] => some ("format " ++ name ++ " has no % directive")
  | [_, place] =>
      let letters := place.toList.dropWhile fun c => c.isDigit || "-+#0 '.".toList.contains c
      match letters with
      | [] => some ("format " ++ name ++ " ends in %")
      | c :: _ =>
          if "efgEFG".toList.contains c then none
          else some ("format " ++ name ++ " has unknown %" ++ .singleton c ++ " directive")
  | _ => some ("format " ++ name ++ " has too many % directives")

/-- Numbers, and how they are shown. -/
structure Task where
  first : Operand
  step : Operand
  last : Operand
  format : Option String
  separator : String
  sameWidth : Bool

/-- The texts of all numbers. -/
def Task.texts (t : Task) : List String :=
  let places := max t.first.places t.step.places
  let all := max places t.last.places
  let first := t.first.scaled all
  let step := t.step.scaled all
  let last := t.last.scaled all
  let count := if (0 < step ∧ first ≤ last) ∨ (step < 0 ∧ last ≤ first) then
      (last - first).natAbs / step.natAbs + 1
    else 0
  let numbers := (List.range count).map fun (i : Nat) =>
    shown places ((first + step * (i : Int)) / Nat.pow 10 (all - places))
  match t.format with
  | some format => numbers.map fun n => (Printf.format .program format [n]).out
  | none =>
      if !t.sameWidth then numbers
      else
        numbers.map (zeroFilled (max (t.first.columns places) (t.last.columns places)))

/-- Shows numbers in order. -/
def seq : Program := fun args s =>
  let isNumber (arg : String) : Bool := match arg.toList with
    | '-' :: c :: _ => c.isDigit || c = '.'
    | _ => false
  let before := args.takeWhile (!isNumber ·)
  let numbers := args.drop before.length
  withOptionsAt true "seq"
    [⟨'f', ["format"], .value⟩, ⟨'s', ["separator"], .value⟩,
     ⟨'w', ["equal-width"], .nothing⟩] 1 (fun a s =>
    let misused (text : String) : Outcome := s.start.misused 1 "seq" text
    let words := a.operands ++ numbers
    match words.find? fun word => (operand? word).isNone, words.filterMap operand? with
    | _, [] => if words.isEmpty then misused "missing operand"
        else misused ("invalid floating point argument: " ++ quotedWord (words.head?.getD ""))
    | some word, _ => misused ("invalid floating point argument: " ++ quotedWord word)
    | none, first :: rest =>
        let one : Operand := ⟨1, 0, 1⟩
        let make (first step last : Operand) : Task :=
          { first, step, last, format := a.value? 'f', separator := (a.value? 's').getD "\n"
            sameWidth := a.has 'w' }
        let task := match rest with
          | [] => some (make one one first)
          | [last] => some (make first one last)
          | [step, last] => some (make first step last)
          | _ => none
        match task, (a.value? 'f').bind formatFault? with
        | none, _ => misused ("extra operand " ++ quotedWord (words[3]?.getD ""))
        | some _, some fault => s.start.complain 1 ("seq: " ++ fault)
        | some t, none =>
            if t.step.digits = 0 then
              misused ("invalid Zero increment value: " ++ quotedWord (words[1]?.getD ""))
            else if a.has 'w' && a.has 'f' then
              misused "format string may not be specified when printing equal width strings"
            else
              let texts := t.texts
              s.start.say (if texts.isEmpty then "" else t.separator.intercalate texts ++ "\n"))
    before s

end DartTriggers.Toolbox.Sequence
