/-!
Descriptors: entities with named, typed attributes, kept in a registry in the order in which they
are registered.
-/

namespace DartTriggers

/-- The declared type of an attribute. -/
inductive AttributeType where
  | text
  | integer
  | boolean
  | float
  /-- Any other type expression, kept as it is written. -/
  | other (expression : String)
deriving DecidableEq, Repr, Inhabited

namespace AttributeType

/-- The type that a tag stands for; every tag stands for one. -/
def ofTag (tag : String) : AttributeType :=
  if tag = "str" ∨ tag = "string" ∨ tag = "String" ∨ tag = "text" then .text
  else if tag = "int" ∨ tag = "integer" then .integer
  else if tag = "bool" ∨ tag = "boolean" then .boolean
  else if tag = "float" ∨ tag = "double" then .float
  else .other tag

/-- The tag that a type is written with. -/
def tag : AttributeType → String
  | .text => "str"
  | .integer => "int"
  | .boolean => "bool"
  | .float => "float"
  | .other expression => expression

end AttributeType

structure Attribute where
  name : String
  type : AttributeType
  /-- The text of the default value. Without one, the attribute has to be set before it is
  read. -/
  default : Option String
deriving DecidableEq, Repr, Inhabited

structure Entity where
  name : String
  attributes : List Attribute
deriving DecidableEq, Repr, Inhabited

/-- Entities in the order of their registration. -/
structure Registry where
  entities : List Entity
deriving DecidableEq, Repr, Inhabited

/-- The names that occur again in a list, given the names seen before it and those of them that
have been found to repeat. Each is given once, where it repeats first. -/
def repeatsAfter (seen found : List String) : List String → List String
  | [] => []
  | name :: rest =>
      if name ∈ seen then
        if name ∈ found then repeatsAfter seen found rest
        else name :: repeatsAfter seen (name :: found) rest
      else repeatsAfter (name :: seen) found rest

/-- The names that occur more than once, in the order of their second occurrences. -/
def repeats (names : List String) : List String :=
  repeatsAfter [] [] names

/-- What has been found of a list of names: those seen so far, and those of them that have been seen
again. -/
structure Sightings where
  seen : List String := []
  repeated : List String := []

/-- A name that has been seen before is noted at the end of those that repeat, if it is not one of
them. -/
def Sightings.add (s : Sightings) (name : String) : Sightings :=
  if name ∈ s.seen then
    if name ∈ s.repeated then s else { s with repeated := s.repeated ++ [name] }
  else { s with seen := name :: s.seen }

namespace Entity

def attributeNames (e : Entity) : List String :=
  e.attributes.map (·.name)

/-- The names of attributes that are declared more than once. -/
def repeatedNames (e : Entity) : List String :=
  (e.attributeNames.foldl Sightings.add {}).repeated

def addAttribute (e : Entity) (a : Attribute) : Entity :=
  { e with attributes := e.attributes ++ [a] }

end Entity

namespace Registry

def empty : Registry :=
  ⟨[]⟩

def entityNames (r : Registry) : List String :=
  r.entities.map (·.name)

end Registry

end DartTriggers
