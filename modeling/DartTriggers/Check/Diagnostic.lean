import DartTriggers.Json.Record
/-!
Diagnostics: what a check has to say about a descriptor, and their form as JSON documents.
-/

namespace DartTriggers.Check

open Json (Decoder RecordField Record Complaint)

inductive Severity where
  | error
  | warning
  | info
deriving DecidableEq, Repr, Inhabited

namespace Severity

def name : Severity → String
  | .error => "Error"
  | .warning => "Warning"
  | .info => "Info"

def names : List (String × Severity) :=
  [("Error", .error), ("Warning", .warning), ("Info", .info)]

def decoder : Decoder Severity :=
  .choice names

end Severity

structure Diagnostic where
  severity : Severity
  /-- The name of the rule that was not kept. -/
  rule : String
  message : String
  entity : String
  /-- The attribute in question, if it is one. -/
  attributeName : Option String := none
  suggestion : Option String := none
deriving DecidableEq, Repr, Inhabited

namespace Diagnostic

def isError (d : Diagnostic) : Bool :=
  d.severity == .error

def onAttribute (d : Diagnostic) (name : String) : Diagnostic :=
  { d with attributeName := some name }

def withSuggestion (d : Diagnostic) (text : String) : Diagnostic :=
  { d with suggestion := some text }

/-- The members of the object that a diagnostic is written as. -/
def jsonMembers (d : Diagnostic) : List (String × Json) :=
  [("level", .string d.severity.name), ("rule", .string d.rule), ("message", .string d.message),
    ("entity", .string d.entity)] ++
  (match d.attributeName with
    | none => []
    | some name => [("attribute", .string name)]) ++
  [("suggestion", match d.suggestion with
    | none => .null
    | some text => .string text)]

def toJson (d : Diagnostic) : Json :=
  .object d.jsonMembers

/-- A diagnostic of which some fields have been read. -/
structure Draft where
  severity : Option Severity := none
  rule : Option String := none
  message : Option String := none
  entity : Option String := none
  attributeName : Option (Option String) := none
  suggestion : Option (Option String) := none

def fields : List (RecordField Draft) :=
  [.of "level" false Severity.decoder (·.severity) fun x draft => { draft with severity := some x },
   .of "rule" false .text (·.rule) fun x draft => { draft with rule := some x },
   .of "message" false .text (·.message) fun x draft => { draft with message := some x },
   .of "entity" false .text (·.entity) fun x draft => { draft with entity := some x },
   .of "attribute" false (.optional .text) (·.attributeName)
     fun x draft => { draft with attributeName := some x },
   .of "suggestion" false (.optional .text) (·.suggestion)
     fun x draft => { draft with suggestion := some x }]

def finish (draft : Draft) : Except Complaint Diagnostic :=
  match draft.severity, draft.rule, draft.message, draft.entity with
  | none, _, _, _ => .error (.missingField "level")
  | _, none, _, _ => .error (.missingField "rule")
  | _, _, none, _ => .error (.missingField "message")
  | _, _, _, none => .error (.missingField "entity")
  | some severity, some rule, some message, some entity =>
      .ok ⟨severity, rule, message, entity, draft.attributeName.getD none,
        draft.suggestion.getD none⟩

def record : Record Draft Diagnostic :=
  ⟨"struct Diagnostic", fields, {}, finish⟩

def decoder : Decoder Diagnostic :=
  record.decoder

end Diagnostic

end DartTriggers.Check
