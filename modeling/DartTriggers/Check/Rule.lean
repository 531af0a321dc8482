import DartTriggers.Check.Diagnostic
import DartTriggers.Descriptor.Basic
/-!
The rules of a check. A rule looks at the registry as a whole and at each entity by itself.
-/

namespace DartTriggers.Check

inductive Rule where
  /-- Two entities of one name would give classes of one name. -/
  | duplicateEntity
  | duplicateAttribute
  | invalidIdentifier
  | reservedWord
  /-- An entity without attributes gives an empty selector. -/
  | emptyEntity
deriving DecidableEq, Repr, Inhabited

/-- Whether a name can start with a character; of the letters only the ASCII ones count. -/
def isIdentifierStart (c : Char) : Bool :=
  c.isAlpha || c == '_' || c == '$'

def isIdentifierPart (c : Char) : Bool :=
  isIdentifierStart c || c.isDigit

/-- Whether Dart allows a name: letters, digits, `_` and `$`, and no digit first. -/
def isIdentifier (name : String) : Bool :=
  match name.toList with
  | [] => false
  | c :: rest => isIdentifierStart c && rest.all isIdentifierPart

/-- The words that Dart keeps for itself. -/
def reservedWords : List String :=
  ["assert", "break", "case", "catch", "class", "const", "continue", "default", "do", "else",
    "enum", "extends", "false", "final", "finally", "for", "if", "in", "is", "new", "null",
    "rethrow", "return", "super", "switch", "this", "throw", "true", "try", "var", "void",
    "while", "with"]

namespace Rule

def name : Rule → String
  | .duplicateEntity => "duplicate-entity"
  | .duplicateAttribute => "duplicate-attribute"
  | .invalidIdentifier => "invalid-identifier"
  | .reservedWord => "reserved-word"
  | .emptyEntity => "empty-entity"

def description : Rule → String
  | .duplicateEntity => "Disallow registering two entities with the same name"
  | .duplicateAttribute => "Disallow repeated attribute names within an entity"
  | .invalidIdentifier => "Require entity and attribute names to be valid Dart identifiers"
  | .reservedWord => "Warn when an attribute is named after a Dart reserved word"
  | .emptyEntity => "Note entities that declare no attributes"

/-- All rules, in the order in which they are checked. -/
def builtin : List Rule :=
  [.duplicateEntity, .duplicateAttribute, .invalidIdentifier, .reservedWord, .emptyEntity]

/-- The rule of a name. -/
def ofName? (name : String) : Option Rule :=
  builtin.find? fun rule => rule.name == name

def error (rule : Rule) (message entity : String) : Diagnostic :=
  { severity := .error, rule := rule.name, message, entity }

def repeatedEntity (name : String) : Diagnostic :=
  error .duplicateEntity ("Entity '" ++ name ++ "' is registered more than once") name

def repeatedAttribute (entity name : String) : Diagnostic :=
  ((error .duplicateAttribute ("Attribute '" ++ name ++ "' is declared more than once")
    entity).onAttribute name).withSuggestion ("Rename or remove the repeated '" ++ name ++ "'")

def badEntityName (entity : String) : Diagnostic :=
  error .invalidIdentifier ("Entity name '" ++ entity ++ "' is not a valid identifier") entity

def badAttributeName (entity name : String) : Diagnostic :=
  (error .invalidIdentifier ("Attribute name '" ++ name ++ "' is not a valid identifier")
    entity).onAttribute name

def reservedName (entity name : String) : Diagnostic :=
  { severity := .warning, rule := Rule.name .reservedWord,
    message := "Attribute '" ++ name ++ "' is a Dart reserved word", entity,
    attributeName := some name,
    suggestion := some ("Rename '" ++ name ++ "', e.g. to '" ++ name ++ "Value'") }

def noAttributes (entity : String) : Diagnostic :=
  { severity := .info, rule := Rule.name .emptyEntity,
    message := "Entity '" ++ entity ++ "' has no attributes", entity }

/-- What a rule says about a registry as a whole. -/
def checkWhole (r : Registry) : Rule → List Diagnostic
  | .duplicateEntity => (repeats r.entityNames).map repeatedEntity
  | .duplicateAttribute | .invalidIdentifier | .reservedWord | .emptyEntity => []

/-- What a rule says about an entity. -/
def checkEntity (e : Entity) : Rule → List Diagnostic
  | .duplicateEntity => []
  | .duplicateAttribute => e.repeatedNames.map (repeatedAttribute e.name)
  | .invalidIdentifier =>
      (if isIdentifier e.name then [] else [badEntityName e.name]) ++
        (e.attributeNames.filter fun name => !isIdentifier name).map (badAttributeName e.name)
  | .reservedWord =>
      (e.attributeNames.filter fun name => reservedWords.contains name).map (reservedName e.name)
  | .emptyEntity => if e.attributes.isEmpty then [noAttributes e.name] else []

end Rule

/-- What some rules say about a registry: first about the whole, then about each entity. -/
def run (rules : List Rule) (r : Registry) : List Diagnostic :=
  rules.flatMap (Rule.checkWhole r) ++
    r.entities.flatMap fun e => rules.flatMap (Rule.checkEntity e)

/-- What the built-in rules say about a registry. -/
def all (r : Registry) : List Diagnostic :=
  run Rule.builtin r

end DartTriggers.Check
