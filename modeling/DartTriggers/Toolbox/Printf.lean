import DartTriggers.Toolbox.Quote
/-!
Texts from formats: a format is text with places for arguments. The shell fills formats in one
dialect, the program for it in another; they differ in escapes and in what they complain about.
-/

namespace DartTriggers.Toolbox.Printf

/-- Who fills a format. -/
inductive Dialect where
  | shell
  | program
deriving DecidableEq

def isOctal (c : Char) : Bool :=
  '0' ≤ c && c ≤ '7'

/-- The value of a digit in bases up to sixteen. -/
def digitValue? (base : Nat) (c : Char) : Option Nat :=
  let n := if c.isDigit then c.toNat - 48
    else if 'a' ≤ c ∧ c ≤ 'f' then c.toNat - 87
    else if 'A' ≤ c ∧ c ≤ 'F' then c.toNat - 55
    else base
  if n < base then some n else none

/-- The value of the digits at the start of a text, and what follows. -/
def digitsAt (base : Nat) (most : Nat) (s : List Char) : Nat × List Char :=
  let digits := (s.take most).takeWhile fun c => (digitValue? base c).isSome
  (digits.foldl (fun n c => n * base + (digitValue? base c).getD 0) 0, s.drop digits.length)

def octet (n : Nat) : Char :=
  Char.ofNat (n % 256)

/-- The escapes of all dialects. -/
def simpleEscapes : List (Char × Char) :=
  [('\\', '\\'), ('a', '\x07'), ('b', '\x08'), ('f', '\x0c'), ('n', '\n'), ('r', '\r'),
   ('t', '\t'), ('v', '\x0b')]

/-- What an escape after its backslash stands for, and what follows; nothing if it is none. -/
def escape? (d : Dialect) : List Char → Option (List Char × List Char)
  | [] => none
  | c :: rest =>
      match simpleEscapes.lookup c with
      | some meant => some ([meant], rest)
      | none =>
          if isOctal c then
            let (n, left) := digitsAt 8 3 (c :: rest)
            some ([octet n], left)
          else if d = .shell then none
          else if c = 'e' then some (['\x1b'], rest)
          else if c = '"' then some (['"'], rest)
          else if c = 'x' then
            let (n, left) := digitsAt 16 2 rest
            if left.length = rest.length then none else some ([octet n], left)
          else if c = 'u' ∨ c = 'U' then
            let places := if c = 'u' then 4 else 8
            let (n, left) := digitsAt 16 places rest
            if left.length + places ≠ rest.length then none
            else if n < 128 then some ([Char.ofNat n], left)
            else
              let isShort := n < 65536
              let digits := (Nat.toDigits 16 n).map Char.toUpper
              let fill := List.replicate ((if isShort then 4 else 8) - digits.length) '0'
              some ('\\' :: (if isShort then 'u' else 'U') :: fill ++ digits, left)
          else none

/-- What is wrong with an escape after its backslash that the program gives up at. -/
def escapeFault? (s : List Char) : Option String :=
  match s with
  | [] => none
  | c :: rest =>
      let digits := ((rest.takeWhile fun d => (digitValue? 16 d).isSome)).length
      let least := if c = 'x' then 1 else if c = 'u' then 4 else if c = 'U' then 8 else 0
      if digits < least then some "missing hexadecimal number in escape"
      else if c ≠ 'u' ∧ c ≠ 'U' then none
      else
        let (n, _) := digitsAt 16 least rest
        let isBasic := n = 36 || n = 64 || n = 96
        if (n < 160 && !isBasic) || (55296 ≤ n && n ≤ 57343) then
          some ("invalid universal character name \\" ++ .ofList (c :: rest.take least))
        else none

/-- Text with its escapes replaced, and whether it goes on after that. In text that is not a
format, octal numbers may have a zero in front of their three digits. -/
def unescape (d : Dialect) : (room : Nat) → List Char → List Char × Bool
  | 0, s => (s, true)
  | room + 1, s =>
      let after (text : List Char) (rest : List Char) : List Char × Bool :=
        let (more, goesOn) := unescape d room rest
        (text ++ more, goesOn)
      match s with
      | [] => ([], true)
      | '\\' :: 'c' :: _ => ([], false)
      | '\\' :: '0' :: rest =>
          let (n, left) := digitsAt 8 3 rest
          after [octet n] left
      | '\\' :: rest =>
          match escape? d rest with
          | some (text, left) => after text left
          | none => after ['\\'] rest
      | c :: rest => after [c] rest

def unescaped (d : Dialect) (text : String) : String × Bool :=
  let (s, goesOn) := unescape d (text.length + 1) text.toList
  (.ofList s, goesOn)

/-- A number in the text of a place. -/
inductive Amount where
  | fixed (n : Nat)
  /-- The next argument. -/
  | argument

/-- A place for an argument. -/
structure Place where
  /-- The place as it is written. -/
  written : List Char
  flags : List Char
  width : Option Amount
  precision : Option Amount
  letter : Option Char

/-- A number or a star. -/
def amount? (s : List Char) : Option Amount × List Char :=
  match s with
  | '*' :: rest => (some .argument, rest)
  | s =>
      let (n, left) := digitsAt 10 s.length s
      (if left.length = s.length then none else some (.fixed n), left)

/-- The characters between a percent sign and a width. -/
def flagsOf : Dialect → List Char
  | .shell => ['#', '-', '+', ' ', '0']
  | .program => ['#', '-', '+', ' ', '0', '\'', 'I']

/-- The sizes of numbers, which are written and make no difference. -/
def sizesOf : Dialect → List Char
  | .shell => []
  | .program => ['h', 'l', 'L', 'j', 'z', 't']

/-- Reads a place after its percent sign. -/
def placeAt (d : Dialect) (s : List Char) : Place × List Char :=
  let flags := s.takeWhile (flagsOf d).contains
  let rest := s.drop flags.length
  let (width, rest) := amount? rest
  let (precision, rest) := match rest with
    | '.' :: rest =>
        let (n, left) := amount? rest
        (some (n.getD (.fixed 0)), left)
    | rest => (none, rest)
  let rest := rest.dropWhile (sizesOf d).contains
  let written (left : List Char) : List Char := '%' :: s.take (s.length - left.length)
  match rest with
  | [] => (⟨written [], flags, width, precision, none⟩, [])
  | c :: left => (⟨written left, flags, width, precision, some c⟩, left)

/-- The values of a number that is written. -/
structure Numeral where
  value : Int
  /-- What is left of the text after the number. -/
  left : List Char
  /-- Whether there was no number at all. -/
  isMissing : Bool

/-- Reads a whole number in base ten, eight or sixteen. -/
def numeral (text : String) : Numeral :=
  let s := text.toList.dropWhile fun c => c = ' ' || ('\t' ≤ c && c ≤ '\r')
  let (negative, s') := match s with
    | '-' :: rest => (true, rest)
    | '+' :: rest => (false, rest)
    | s => (false, s)
  let (base, digits) := match s' with
    | '0' :: x :: rest =>
        if (x = 'x' ∨ x = 'X') ∧ (rest.head?.any fun c => (digitValue? 16 c).isSome) then (16, rest)
        else (8, s')
    | '0' :: _ => (8, s')
    | _ => (10, s')
  let (n, left) := digitsAt base digits.length digits
  let isMissing := left.length = digits.length
  ⟨if negative then -(n : Int) else n, if isMissing then text.toList else left, isMissing⟩

/-- What has been done with a format so far. -/
structure Filling where
  out : String := ""
  /-- Complaints, in order. -/
  warnings : List String := []
  code : Nat := 0
  args : List String
  /-- Whether a place has taken an argument. -/
  used : Bool := false
  /-- Whether nothing more is shown. -/
  stopped : Bool := false

namespace Filling

def add (f : Filling) (text : List Char) : Filling :=
  { f with out := f.out ++ .ofList text }

def warn (f : Filling) (code : Nat) (text : String) : Filling :=
  { f with warnings := f.warnings ++ [text], code }

/-- Shows nothing more. To the program this counts as a good end. -/
def stop (f : Filling) (d : Dialect) : Filling :=
  { f with stopped := true, code := if d = .program then 0 else f.code }

/-- Takes the next argument, if there is one. -/
def next (f : Filling) : Filling × Option String :=
  match f.args with
  | [] => ({ f with used := true }, none)
  | arg :: rest => ({ f with args := rest, used := true }, some arg)

end Filling

/-- The bounds of whole numbers. -/
def largest : Int := 9223372036854775807

def smallest : Int := -9223372036854775808

/-- What is said about the text of a number. -/
def numberComplaint? (d : Dialect) (text : String) (isMissing isPartial : Bool) : Option String :=
  let name := match d with
    | .shell => text
    | .program => quotedWord text
  if isMissing then
    if text.isEmpty then none
    else some (name ++ (match d with
      | .shell => ": expected numeric value"
      | .program => ": expected a numeric value"))
  else if isPartial then
    some (name ++ (match d with
      | .shell => ": not completely converted"
      | .program => ": value not completely converted"))
  else none

/-- Reads a text as a whole number, with complaints about what is none. -/
def readNumber (d : Dialect) (signed : Bool) (f : Filling) (text : String) : Filling × Int :=
  let n := numeral text
  let top := if signed then largest else 18446744073709551615
  let value := max smallest (min top n.value)
  match numberComplaint? d text n.isMissing (!n.left.isEmpty) with
  | some complaint => (f.warn 1 complaint, if n.isMissing then 0 else value)
  | none =>
      if n.isMissing || value = n.value then (f, value)
      else
        let name := match d with
          | .shell => text
          | .program => quotedWord text
        (f.warn 1 (name ++ ": Numerical result out of range"), value)

/-- The code of the character after a quote, if a text starts with one. -/
def quotedCode? (d : Dialect) (f : Filling) (text : String) : Option (Filling × Nat) :=
  match text.toList with
  | q :: rest =>
      if q ≠ '\'' ∧ q ≠ '"' then none
      else
        match d, rest with
        | .shell, rest => some (f, (rest.head?.map Char.toNat).getD 0)
        | .program, [] => none
        | .program, [c] => some (f, c.toNat)
        | .program, c :: more =>
            some (f.warn f.code ("warning: " ++ .ofList more ++
              ": character(s) following character constant have been ignored"), c.toNat)
  | [] => none

/-- The next argument as a whole number. -/
def nextNumber (d : Dialect) (signed : Bool) (f : Filling) : Filling × Int :=
  match f.next with
  | (f, none) => (f, 0)
  | (f, some text) =>
      match quotedCode? d f text with
      | some (f, code) => (f, code)
      | none => readNumber d signed f text

/-- Text filled up to a width. -/
def padded (left : Bool) (width : Nat) (text : List Char) : List Char :=
  let fill := List.replicate (width - text.length) ' '
  if left then text ++ fill else fill ++ text

/-- A number filled up to a width, with zeros between its sign and its digits if wanted. -/
def paddedNumber (left zeros : Bool) (width : Nat) (sign digits : List Char) : List Char :=
  if zeros && !left then
    sign ++ List.replicate (width - sign.length - digits.length) '0' ++ digits
  else padded left width (sign ++ digits)

def digitsIn (base : Nat) (n : Nat) : List Char :=
  Nat.toDigits base n

/-- A whole number as a place shows it. -/
def showNumber (flags : List Char) (width : Nat) (precision : Option Nat) (letter : Char)
    (value : Int) : List Char :=
  let signed := letter = 'd' || letter = 'i'
  let n := if signed then value.natAbs else (value % 18446744073709551616).toNat
  let base := if letter = 'o' then 8 else if letter = 'x' || letter = 'X' then 16 else 10
  let digits := if precision = some 0 && n = 0 then [] else digitsIn base n
  let digits := if letter = 'X' then digits.map Char.toUpper else digits
  let digits := List.replicate (precision.getD 0 - digits.length) '0' ++ digits
  let alternative := flags.contains '#'
  let digits := if alternative && letter = 'o' && digits.head? != some '0' then '0' :: digits
    else digits
  let sign := if signed then
      if value < 0 then ['-'] else if flags.contains '+' then ['+']
      else if flags.contains ' ' then [' '] else []
    else if alternative && n != 0 && (letter = 'x' || letter = 'X') then ['0', letter]
    else []
  paddedNumber (flags.contains '-') (flags.contains '0' && precision.isNone) width sign digits

/-- A decimal number: whether it is negative, its digits and the power of ten they are taken by. -/
structure DecimalNumber where
  negative : Bool
  digits : Nat
  exponent : Int

/-- The largest power of ten that is looked at. -/
def powerLimit : Nat := 5000

/-- Reads a decimal number; gives what is left of the text. -/
def decimal (text : String) : DecimalNumber × List Char × Bool :=
  let s := text.toList.dropWhile fun c => c = ' ' || ('\t' ≤ c && c ≤ '\r')
  let (negative, s) := match s with
    | '-' :: rest => (true, rest)
    | '+' :: rest => (false, rest)
    | s => (false, s)
  let hex := match s with
    | '0' :: x :: rest =>
        if x = 'x' ∨ x = 'X' then rest.takeWhile fun c => (digitValue? 16 c).isSome else []
    | _ => []
  let whole := s.takeWhile Char.isDigit
  let rest := s.drop whole.length
  let (part, rest) := match rest with
    | '.' :: more => (more.takeWhile Char.isDigit, more.dropWhile Char.isDigit)
    | rest => ([], rest)
  if whole.isEmpty && part.isEmpty then (⟨false, 0, 0⟩, text.toList, true)
  else if !hex.isEmpty then
    (⟨negative, (digitsAt 16 hex.length hex).1, 0⟩, s.drop (hex.length + 2), false)
  else
    let (power, rest) := match rest with
      | e :: more =>
          if e = 'e' ∨ e = 'E' then
            let (negative, more') := match more with
              | '-' :: more => (true, more)
              | '+' :: more => (false, more)
              | more => (false, more)
            let (n, left) := digitsAt 10 more'.length more'
            if left.length = more'.length then (0, rest)
            else
              let n := min n powerLimit
              ((if negative then -(n : Int) else n), left)
          else ((0 : Int), rest)
      | [] => (0, [])
    let n := (digitsAt 10 (whole.length + part.length) (whole ++ part)).1
    (⟨negative, n, power - part.length⟩, rest, false)

/-- A quotient rounded to the nearest whole number, to the even one of two. -/
def roundedQuotient (n d : Nat) : Nat :=
  let q := n / d
  let r := 2 * (n % d)
  if d < r || (r = d && q % 2 = 1) then q + 1 else q

/-- How many binary digits of a number are kept. -/
def Dialect.bits : Dialect → Nat
  | .shell => 53
  | .program => 64

/-- The power of two below which no digits of a number are kept. -/
def Dialect.lowest : Dialect → Int
  | .shell => -1074
  | .program => -16445

/-- The nearest number with so many binary digits, which is a decimal number again. -/
def Dialect.nearest (d : Dialect) (n : DecimalNumber) : DecimalNumber :=
  if n.digits = 0 then n
  else
    let top := if 0 ≤ n.exponent then n.digits * Nat.pow 10 n.exponent.toNat else n.digits
    let bottom := if 0 ≤ n.exponent then 1 else Nat.pow 10 n.exponent.natAbs
    let shifted (power : Int) : Nat × Nat :=
      if 0 ≤ power then (top, bottom * Nat.pow 2 power.toNat)
      else (top * Nat.pow 2 power.natAbs, bottom)
    let power : Int := top.log2 - bottom.log2 - d.bits + 1
    let (a, b) := shifted power
    let power := max d.lowest (if a / b < Nat.pow 2 (d.bits - 1) then power - 1 else power)
    let (a, b) := shifted power
    let q := roundedQuotient a b
    if 0 ≤ power then { n with digits := q * Nat.pow 2 power.toNat, exponent := 0 }
    else { n with digits := q * Nat.pow 5 power.natAbs, exponent := power }

/-- A number times a power of ten, rounded. -/
def scaled (digits : Nat) (power : Int) : Nat :=
  if 0 ≤ power then digits * Nat.pow 10 power.toNat
  else roundedQuotient digits (Nat.pow 10 power.natAbs)

/-- Digits with a point before the last ones. -/
def withPoint (alternative : Bool) (places : Nat) (n : Nat) : List Char :=
  let digits := digitsIn 10 n
  let digits := List.replicate (places + 1 - digits.length) '0' ++ digits
  let whole := digits.take (digits.length - places)
  if places = 0 then (if alternative then whole ++ ['.'] else whole)
  else whole ++ '.' :: digits.drop (digits.length - places)

/-- A number with a power of ten: the digits, rounded, and the power. -/
def scientific (n : DecimalNumber) (places : Nat) : Nat × Int :=
  if n.digits = 0 then (0, 0)
  else
    let power : Int := (digitsIn 10 n.digits).length - 1 + n.exponent
    let q := scaled n.digits (n.exponent - power + places)
    if q = Nat.pow 10 (places + 1) then (q / 10, power + 1) else (q, power)

def powerText (letter : Char) (power : Int) : List Char :=
  let digits := digitsIn 10 power.natAbs
  let sign := if power < 0 then '-' else '+'
  letter :: sign :: (if digits.length < 2 then '0' :: digits else digits)

/-- Leaves out zeros at the end of a fraction. -/
def trimmed (s : List Char) : List Char :=
  if s.contains '.' then
    let rest := (s.reverse.dropWhile (· = '0'))
    (if rest.head? = some '.' then rest.drop 1 else rest).reverse
  else s

/-- A decimal number as a place shows it. -/
def showDecimal (flags : List Char) (width : Nat) (precision : Option Nat) (letter : Char)
    (n : DecimalNumber) : List Char :=
  let alternative := flags.contains '#'
  let kind := letter.toLower
  let mark := if letter.isUpper then 'E' else 'e'
  let places := precision.getD 6
  let exact (places : Nat) : List Char :=
    let (q, power) := scientific n places
    withPoint alternative places q ++ powerText mark power
  let digits := if kind = 'e' then exact places
    else if kind = 'f' then withPoint alternative places (scaled n.digits (n.exponent + places))
    else
      let places := max 1 places
      let power := (scientific n (places - 1)).2
      if power < -4 || (places : Int) ≤ power then
        let (q, power) := scientific n (places - 1)
        let shown := withPoint alternative (places - 1) q
        (if alternative then shown else trimmed shown) ++ powerText mark power
      else
        let after := ((places : Int) - 1 - power).toNat
        let shown := withPoint alternative after (scaled n.digits (n.exponent + after))
        if alternative then shown else trimmed shown
  let sign := if n.negative then ['-'] else if flags.contains '+' then ['+']
    else if flags.contains ' ' then [' '] else []
  paddedNumber (flags.contains '-') (flags.contains '0') width sign digits

/-- The value of an amount. -/
def amount (d : Dialect) (f : Filling) : Option Amount → Filling × Option Int
  | none => (f, none)
  | some (.fixed n) => (f, some n)
  | some .argument =>
      let (f, n) := nextNumber d true f
      (f, some n)

/-- The most columns that a place is given. -/
def widthLimit : Nat := 100000

/-- Fills a place. -/
def fillPlace (d : Dialect) (p : Place) (f : Filling) : Filling :=
  let (f, width) := amount d f p.width
  let (f, precision) := amount d f p.precision
  let flags := if width.any (· < 0) then '-' :: p.flags else p.flags
  let width := min (width.getD 0).natAbs widthLimit
  let precision := match precision with
    | some n => if n < 0 then none else some (min n.toNat widthLimit)
    | none => none
  let left := flags.contains '-'
  let isBare := p.written.length = 2
  let cutText (text : String) : List Char :=
    padded left width (match precision with
      | some n => text.toList.take n
      | none => text.toList)
  let invalid : Filling := match d with
    | .shell =>
        { f.warn 2 (match p.letter with
            | none => "missing format character"
            | some _ => .ofList p.written ++ ": invalid directive") with stopped := true }
    | .program =>
        { f.warn 1 (.ofList p.written ++ ": invalid conversion specification") with
          stopped := true }
  match p.letter with
  | none => invalid
  | some letter =>
      if letter = 's' then
        let (f, text) := f.next
        f.add (cutText (text.getD ""))
      else if letter = 'b' && (d = .shell || isBare) then
        let (f, text) := f.next
        let (text, goesOn) := unescaped d (text.getD "")
        let f := f.add (cutText text)
        if goesOn then f else f.stop d
      else if letter = 'c' then
        let (f, text) := f.next
        f.add (padded left width [(text.getD "").toList.head?.getD '\x00'])
      else if letter = 'q' && d = .program && isBare then
        let (f, text) := f.next
        f.add ((text.map shownName).getD "").toList
      else if "di".toList.contains letter then
        let (f, n) := nextNumber d true f
        f.add (showNumber flags width precision letter n)
      else if "ouxX".toList.contains letter then
        let (f, n) := nextNumber d false f
        f.add (showNumber flags width precision letter n)
      else if "eEfFgG".toList.contains letter then
        let (f, text) := f.next
        let text := text.getD ""
        match quotedCode? d f text with
        | some (f, code) =>
            let (n, _) := decimal (toString code)
            f.add (showDecimal flags width precision letter n)
        | none =>
            let (n, rest, isMissing) := decimal (if text.isEmpty then "0" else text)
            let f := match numberComplaint? d text isMissing (!rest.isEmpty) with
              | some complaint => f.warn 1 complaint
              | none => f
            f.add (showDecimal flags width precision letter (d.nearest n))
      else invalid

/-- Fills the places of a format once. -/
def fill (d : Dialect) : (room : Nat) → List Char → Filling → Filling
  | 0, _, f => f
  | room + 1, s, f =>
      if f.stopped then f
      else
        match s with
        | [] => f
        | '\\' :: rest =>
            if d = .program && rest.head? = some 'c' then f.stop d
            else
              match if d = .program then escapeFault? rest else none, escape? d rest with
              | some fault, _ => { f.warn 1 fault with stopped := true }
              | none, some (text, left) => fill d room left (f.add text)
              | none, none => fill d room rest (f.add ['\\'])
        | '%' :: '%' :: rest => fill d room rest (f.add ['%'])
        | '%' :: rest =>
            let (p, left) := placeAt d rest
            fill d room left (fillPlace d p f)
        | c :: rest => fill d room rest (f.add [c])

/-- Fills a format again and again until no arguments are left. -/
def fillAll (d : Dialect) (format : List Char) : (room : Nat) → Filling → Filling
  | 0, f => f
  | room + 1, f =>
      let done := fill d (format.length + 1) format { f with used := false }
      if done.stopped || done.args.isEmpty || !done.used then done
      else fillAll d format room done

/-- Fills a format with arguments. -/
def format (d : Dialect) (text : String) (args : List String) : Filling :=
  let f := fillAll d text.toList (args.length + 1) { args }
  match d, f.args with
  | .program, arg :: _ =>
      if f.stopped then f
      else
        { f with warnings := f.warnings ++
          ["warning: ignoring excess arguments, starting with " ++ quotedWord arg] }
  | _, _ => f

end DartTriggers.Toolbox.Printf
