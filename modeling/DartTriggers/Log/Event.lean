import DartTriggers.FileTree.Path
import DartTriggers.Variant
/-!
Events that a run reports beside its output, each with a level, the part of the program that it
comes from, a message and named values.
-/

namespace DartTriggers.Log

/-- How much an event matters, most first. -/
inductive Level where
  | error
  | warn
  | info
  | debug
  | trace
deriving DecidableEq, Repr

namespace Level

def rank : Level → Nat
  | .error => 1
  | .warn => 2
  | .info => 3
  | .debug => 4
  | .trace => 5

def name : Level → String
  | .error => "ERROR"
  | .warn => "WARN"
  | .info => "INFO"
  | .debug => "DEBUG"
  | .trace => "TRACE"

end Level

inductive Event where
  /-- An entity was registered that declares an attribute more than once. -/
  | repeatedAttribute (entity name : String)
  | compilingEntity (entity : String) (attributes : Nat) (variant : Variant)
  | wroteUnit (unit : String) (entities : Nat) (file : Path)
  | formatted (file : Path)
  /-- The formatter ran and reported failure. -/
  | formatterFailed (file : Path) (status : String)
  | formatterNotStarted (program : String) (error : String)
  | resolvedDescriptors (input : Path) (descriptors : Nat) (variant : Variant)
deriving DecidableEq, Repr

namespace Event

def level : Event → Level
  | .repeatedAttribute .. => .warn
  | .wroteUnit .. => .info
  | .compilingEntity .. | .formatted .. | .formatterFailed .. | .formatterNotStarted ..
  | .resolvedDescriptors .. => .debug

/-- The part of the program that reports the event. -/
def target : Event → String
  | .repeatedAttribute .. => "trigger_codegen::registry"
  | .compilingEntity .. => "trigger_codegen::compiler"
  | .wroteUnit .. | .formatted .. | .formatterFailed .. | .formatterNotStarted .. =>
      "trigger_codegen::output"
  | .resolvedDescriptors .. => "trigger_gen::commands::generate"

def message : Event → String
  | .repeatedAttribute .. => "Duplicate attribute name"
  | .compilingEntity .. => "Compiling entity"
  | .wroteUnit .. => "Wrote generated unit"
  | .formatted .. => "Formatted generated file"
  | .formatterFailed .. => "Formatter exited unsuccessfully"
  | .formatterNotStarted .. => "Formatter could not be started"
  | .resolvedDescriptors .. => "Resolved descriptor files"

/-- The named values, in order. -/
def fields : Event → List (String × String)
  | .repeatedAttribute entity name => [("entity", entity), ("attribute", name)]
  | .compilingEntity entity attributes variant =>
      [("entity", entity), ("attributes", toString attributes), ("variant", variant.name)]
  | .wroteUnit unit entities file =>
      [("unit", unit), ("entities", toString entities), ("file", file.display)]
  | .formatted file => [("file", file.display)]
  | .formatterFailed file status => [("file", file.display), ("status", status)]
  | .formatterNotStarted program error => [("program", program), ("error", error)]
  | .resolvedDescriptors input descriptors variant =>
      [("input", input.display), ("descriptors", toString descriptors),
        ("variant", variant.name)]

end Event

end DartTriggers.Log
