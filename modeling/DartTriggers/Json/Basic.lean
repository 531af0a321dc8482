import DartTriggers.Decimal.Shortest
/-!
JSON values. An object keeps its members in the order written, and a key may occur twice;
`Json.canonical` sorts the members and keeps the last of each key.
-/

namespace DartTriggers

/-- A number of a document: an integer of 64 bits, signed or not, or a binary number with its
sign. -/
inductive JsonNumber where
  | integer (value : Int)
  | binary (negative : Bool) (magnitude : Binary64)
deriving DecidableEq, Repr, Inhabited

inductive Json where
  | null
  | bool (value : Bool)
  | number (value : JsonNumber)
  | string (value : String)
  | array (items : List Json)
  | object (members : List (String × Json))
deriving Repr, Inhabited

namespace Json

/-- Places a member by its key, over one with the same key. -/
def insertMember (key : String) (value : Json) : List (String × Json) → List (String × Json)
  | [] => [(key, value)]
  | (k, v) :: rest =>
      if key < k then (key, value) :: (k, v) :: rest
      else if key = k then (key, value) :: rest
      else (k, v) :: insertMember key value rest

mutual

/-- Members sorted by key at every depth, the last of several with one key. -/
def canonical : Json → Json
  | .array items => .array (canonicalItems items)
  | .object members => .object (canonicalMembers members [])
  | other => other

def canonicalItems : List Json → List Json
  | [] => []
  | item :: rest => canonical item :: canonicalItems rest

def canonicalMembers : List (String × Json) → List (String × Json) → List (String × Json)
  | [], sorted => sorted
  | (key, value) :: rest, sorted =>
      canonicalMembers rest (insertMember key (canonical value) sorted)

end

end Json

end DartTriggers
