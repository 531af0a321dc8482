/-!
Styled text for terminals: the codes of the styles before it, a reset after it. A reset inside the
text is followed by the codes again, so that the styles go on after it.
-/

namespace DartTriggers

/-- A way to show text. -/
inductive Style where
  | bold
  | dimmed
  | red
  | green
  | yellow
  | blue
  | brightBlue
  | brightWhite
deriving DecidableEq, Repr

namespace Style

def code : Style → String
  | .bold => "1"
  | .dimmed => "2"
  | .red => "31"
  | .green => "32"
  | .yellow => "33"
  | .blue => "34"
  | .brightBlue => "94"
  | .brightWhite => "97"

/-- The sequence that starts some styles. -/
def start (styles : List Style) : String :=
  "\x1b[" ++ ";".intercalate (styles.map code) ++ "m"

/-- The sequence that ends all styles. -/
def reset : String := "\x1b[0m"

/-- A text with the sequence that starts some styles after each reset. -/
def restart (start : List Char) : List Char → List Char
  | '\x1b' :: '[' :: '0' :: 'm' :: rest =>
      '\x1b' :: '[' :: '0' :: 'm' :: (start ++ restart start rest)
  | c :: rest => c :: restart start rest
  | [] => []

end Style

/-- A text in some styles, or as it is where there are no colours. -/
def paint (colored : Bool) (styles : List Style) (text : String) : String :=
  if colored then
    let start := Style.start styles
    start ++ .ofList (Style.restart start.toList text.toList) ++ Style.reset
  else text

end DartTriggers
