/-!
Dart declarations: the comments, `part of` lines and classes of a unit.
-/

namespace DartTriggers.Dart

/-- The body of a function: one expression, or statements in braces. -/
inductive Body where
  | arrow (expression : String)
  | block (statements : List String)
deriving DecidableEq, Repr, Inhabited

inductive Member where
  | comment (text : String)
  | field (modifiers type : Option String) (name : String) (init : Option String)
  /-- A constructor under its qualified name. -/
  | constructor (name : String) (body : Body)
  | factory (name : String) (body : Body)
  | getter (type name : String) (body : Body)
  | setter (name type param : String) (body : Body)
  | method (modifiers : Option String) (returns name params : String) (body : Body)
deriving DecidableEq, Repr, Inhabited

/-- The forms that a member can have. -/
inductive MemberKind where
  | comment
  | field
  | constructor
  | factory
  | getter
  | setter
  | method
deriving DecidableEq, Repr

namespace Body

def isArrow : Body → Bool
  | .arrow _ => true
  | .block _ => false

end Body

namespace Member

def kind : Member → MemberKind
  | .comment .. => .comment
  | .field .. => .field
  | .constructor .. => .constructor
  | .factory .. => .factory
  | .getter .. => .getter
  | .setter .. => .setter
  | .method .. => .method

/-- Whether a member fits on one line and may stand close to others. -/
def isCompact : Member → Bool
  | .comment .. | .field .. => true
  | .getter _ _ body | .setter _ _ _ body => body.isArrow
  | .constructor .. | .factory .. | .method .. => false

/-- Whether a member is a getter or a setter. -/
def isAccessor (m : Member) : Bool :=
  m.kind == .getter || m.kind == .setter

end Member

structure ClassDecl where
  modifier : Option String := none
  name : String
  superclass : Option String := none
  members : List Member := []
deriving DecidableEq, Repr, Inhabited

inductive Declaration where
  | comment (text : String)
  | partOf (library : String)
  | classDecl (decl : ClassDecl)
deriving DecidableEq, Repr, Inhabited

namespace Declaration

/-- The class that a declaration declares. -/
def class? : Declaration → Option ClassDecl
  | .classDecl decl => some decl
  | _ => none

end Declaration

end DartTriggers.Dart
