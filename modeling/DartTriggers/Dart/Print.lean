import DartTriggers.Dart.Declaration
import DartTriggers.Dart.Layout
/-!
Declarations as Dart source. One empty line stands between declarations and between members,
except that compact members of one kind stay together, as getters and setters do, and that a
comment sticks to the member after it.
-/

namespace DartTriggers.Dart

namespace Body

/-- A function with its signature. -/
def steps (signature : String) : Body → List LayoutStep
  | .arrow expression => [.line (signature ++ " => " ++ expression ++ ";")]
  | .block [] => [.line (signature ++ " \x7b\x7d")]
  | .block (first :: rest) =>
      [.line (signature ++ " \x7b"), .indent] ++ (first :: rest).map .line ++
        [.dedent, .line "\x7d"]

end Body

/-- A word before another one, and a blank between them. -/
def spaced : Option String → String
  | none => ""
  | some word => word ++ " "

namespace Member

def steps : Member → List LayoutStep
  | .comment text => [.line ("// " ++ text)]
  | .field modifiers type name init =>
      let value := match init with
        | none => ""
        | some value => " = " ++ value
      [.line (spaced modifiers ++ spaced type ++ name ++ value ++ ";")]
  | .constructor name body => body.steps (name ++ "()")
  | .factory name body => body.steps ("factory " ++ name ++ "()")
  | .getter type name body => body.steps (type ++ " get " ++ name)
  | .setter name type param body =>
      body.steps ("set " ++ name ++ "(" ++ type ++ " " ++ param ++ ")")
  | .method modifiers returns name params body =>
      body.steps (spaced modifiers ++ returns ++ " " ++ name ++ "(" ++ params ++ ")")

/-- Whether an empty line stands between two members that follow each other. -/
def needsSeparator (previous next : Member) : Bool :=
  if previous.kind = .comment then false
  else if next.kind = .comment then true
  else if previous.kind ≠ next.kind ∧ !(previous.isAccessor && next.isAccessor) then true
  else !(previous.isCompact && next.isCompact)

/-- The members that follow a member, with the empty lines between them. -/
def stepsAfter (previous : Member) : List Member → List LayoutStep
  | [] => []
  | next :: rest =>
      (if needsSeparator previous next then [.blank] else []) ++ next.steps ++ stepsAfter next rest

/-- All members of a class, with the empty lines between them. -/
def allSteps : List Member → List LayoutStep
  | [] => []
  | first :: rest => first.steps ++ stepsAfter first rest

end Member

namespace ClassDecl

/-- The line of a class up to its brace. -/
def header (c : ClassDecl) : String :=
  spaced c.modifier ++ "class " ++ c.name ++
    match c.superclass with
    | none => ""
    | some superclass => " extends " ++ superclass

def steps (c : ClassDecl) : List LayoutStep :=
  if c.members.isEmpty then [.line (c.header ++ " \x7b\x7d")]
  else
    [.line (c.header ++ " \x7b"), .indent] ++ Member.allSteps c.members ++ [.dedent, .line "\x7d"]

end ClassDecl

namespace Declaration

def steps : Declaration → List LayoutStep
  | .comment text => [.line ("// " ++ text)]
  | .partOf library => [.line ("part of '" ++ library ++ "';")]
  | .classDecl decl => decl.steps

/-- Declarations with an empty line before each but the first. -/
def allSteps : List Declaration → List LayoutStep
  | [] => []
  | first :: rest => first.steps ++ rest.flatMap fun d => .blank :: d.steps

end Declaration

/-- The source of some declarations. -/
def print (declarations : List Declaration) : String :=
  Layout.render (Declaration.allSteps declarations)

end DartTriggers.Dart
