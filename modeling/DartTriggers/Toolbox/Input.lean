import DartTriggers.Toolbox.Options
import DartTriggers.Toolbox.Quote
/-!
What programs on texts read: the files that their operands name, or the input where none is named.
Counts in their options have units.
-/

namespace DartTriggers.Toolbox

/-- The text of a file, or of the input. -/
def readOperand (s : Setting) (name : String) (o : Outcome) :
    Outcome × Except FileError String :=
  if name = "-" then ({ o with input := "" }, .ok o.input)
  else (o, readText o.tree (s.path name))

/-- The operands of a program, or the one that stands for the input. -/
def orInput (operands : List String) : List String :=
  if operands.isEmpty then ["-"] else operands

/-- Shows something of each text in turn, with complaints about those that cannot be read. -/
def eachOperand (program : String) (s : Setting) (shown : String → String)
    (operands : List String) (o : Outcome) : Outcome :=
  forEach (fun name o =>
    match readOperand s name o with
    | (o, .ok text) => o.say (shown text)
    | (o, .error e) => o.complain 1 (program ++ ": " ++ shownName name ++ ": " ++ e.reason))
    (orInput operands) o

/-- Why a text is no count. -/
inductive CountFault where
  | invalid
  | tooLarge
deriving DecidableEq, Repr

/-- What is said after the text of a count. -/
def CountFault.suffix : CountFault → String
  | .invalid => ""
  | .tooLarge => ": Value too large for defined data type"

/-- The largest count. -/
def largestCount : Nat := Nat.pow 2 64 - 1

/-- The value of digits. -/
def valueOf (digits : List Char) : Nat :=
  digits.foldl (fun n c => 10 * n + (c.toNat - 48)) 0

/-- The factor of a unit such as `k`, `kB` or `KiB`. -/
def unitFactor? (unit : List Char) : Option Nat :=
  match unit with
  | [] => some 1
  | ['b'] => some 512
  | c :: rest =>
      let letter := if c = 'm' then 'M' else if c = 'k' then 'K' else c
      let base := match rest with
        | [] | ['i', 'B'] => some 1024
        | ['B'] => some 1000
        | _ => none
      match ("KMGTPEZYRQ".toList.zip (List.range' 1 10)).lookup letter, base with
      | some power, some base => some (Nat.pow base power)
      | _, _ => none

/-- Reads a count such as `10`, `2k` and `1M`. A unit without a number is one of it. -/
def count (text : String) : Except CountFault Nat :=
  let s := text.toList.dropWhile (· = ' ')
  let s := if s.head? = some '+' then s.tail else s
  let digits := s.takeWhile Char.isDigit
  match unitFactor? (s.drop digits.length) with
  | none => .error .invalid
  | some factor =>
      if s.isEmpty then .error .invalid
      else
        let n := (if digits.isEmpty then 1 else valueOf digits) * factor
        if largestCount < n then .error .tooLarge else .ok n

end DartTriggers.Toolbox
