import DartTriggers.Json.Decoder
/-!
The two layouts of generated code, and the options of a run.
-/

namespace DartTriggers

/-- The layout of generated code. -/
inductive Variant where
  /-- A singleton made on first use; only text and integers have types of their own. -/
  | basic
  /-- A singleton made at once, with `spawn`, `fields` and `multiSet`; every primitive type is
  mapped. -/
  | extended
deriving DecidableEq, Repr, Inhabited

namespace Variant

def name : Variant → String
  | .basic => "basic"
  | .extended => "extended"

def names : List (String × Variant) :=
  [("basic", .basic), ("extended", .extended)]

/-- The variant of a name. -/
def ofName? (name : String) : Option Variant :=
  names.lookup name

/-- Whether booleans and floating-point numbers are mapped to types of their own. -/
def mapsAllPrimitives : Variant → Bool
  | .basic => false
  | .extended => true

/-- Whether entities get `spawn`, `fields` and a class that sets several attributes at once. -/
def hasBatchSetter : Variant → Bool
  | .basic => false
  | .extended => true

/-- Whether a unit starts with a warning not to edit it. -/
def hasHeader : Variant → Bool
  | .basic => false
  | .extended => true

theorem ofName?_name (v : Variant) : ofName? v.name = some v := by
  cases v <;> decide

def toJson (v : Variant) : Json :=
  .string v.name

def decoder : Json.Decoder Variant :=
  .choice names

/-- The message for a name that is not one of a variant. -/
def unknownMessage (name : String) : String :=
  "Unknown variant: " ++ name ++ ". Use: basic or extended"

end Variant

/-- How units are generated. -/
structure Options where
  variant : Variant := .extended
  /-- The extension of the library that a unit is a part of. -/
  extension : String := "dart"
deriving DecidableEq, Repr, Inhabited

end DartTriggers
