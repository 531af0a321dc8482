import DartTriggers.Descriptor.Basic
import DartTriggers.Variant
/-!
Dart types and literals for declared types and defaults.
-/

namespace DartTriggers

namespace AttributeType

/-- The Dart type of a declared type. -/
def token (t : AttributeType) (v : Variant) : String :=
  match t with
  | .text => "String"
  | .integer => "int"
  | .boolean => if v.mapsAllPrimitives then "bool" else t.tag
  | .float => if v.mapsAllPrimitives then "double" else t.tag
  | .other expression => expression

/-- Whether the Dart type is `String`, so that a default is text. -/
def isText : AttributeType → Bool
  | .text => true
  | .other expression => expression == "String"
  | _ => false

end AttributeType

namespace Dart

/-- The literal for a missing default. -/
def nullLiteral : String := "null"

/-- A default that is not text: `True` and `False` become the Dart literals, all else stays. -/
def plainLiteral (value : String) : String :=
  if value = "True" then "true"
  else if value = "False" then "false"
  else value

/-- Whether a type allows `null`. -/
def isNullable (token : String) : Bool :=
  token.toList.getLast? == some '?'

end Dart

namespace Attribute

/-- The default as a Dart literal. Text is put between single quotes as it stands. -/
def literal (a : Attribute) : String :=
  match a.default with
  | none => Dart.nullLiteral
  | some value => if a.type.isText then "'" ++ value ++ "'" else Dart.plainLiteral value

end Attribute

namespace Dart

/-- An attribute with its Dart type and its default as a literal. -/
structure Property where
  name : String
  type : String
  literal : String
  nullable : Bool
deriving DecidableEq, Repr, Inhabited

namespace Property

def ofAttribute (v : Variant) (a : Attribute) : Property :=
  let type := a.type.token v
  ⟨a.name, type, a.literal, isNullable type⟩

/-- The expression that reads the value, asserted not to be null unless the type allows it. -/
def readExpression (p : Property) : String :=
  "getValue('" ++ p.name ++ "')" ++ if p.nullable then "" else "!"

end Property

end Dart

end DartTriggers
