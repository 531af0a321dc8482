import DartTriggers.Descriptor.Codec
import DartTriggers.Log.Event
/-!
Registering entities. Attribute names are expected to differ; a repeated one is reported and
kept.
-/

namespace DartTriggers

/-- A value together with the events reported while it was made. -/
structure Logged (α : Type) where
  value : α
  events : List Log.Event

namespace Entity

/-- What is reported when the entity is registered. -/
def warnings (e : Entity) : List Log.Event :=
  e.repeatedNames.map fun name => .repeatedAttribute e.name name

end Entity

namespace Registry

/-- Adds an entity at the end. -/
def register (r : Registry) (e : Entity) : Logged Registry :=
  ⟨⟨r.entities ++ [e]⟩, e.warnings⟩

/-- Registers entities one after the other. -/
def registerAll (r : Registry) : List Entity → Logged Registry
  | [] => ⟨r, []⟩
  | e :: rest =>
      let next := r.register e
      let all := next.value.registerAll rest
      ⟨all.value, next.events ++ all.events⟩

/-- Reads a document and registers its entities in order, with what is reported on the way to either
outcome. -/
def readText (source : String) : Logged (Except Json.ReadError Registry) :=
  match Json.decode decoder source with
  | .error e => ⟨.error e, []⟩
  | .ok parsed =>
      let all := empty.registerAll parsed.entities
      ⟨.ok all.value, all.events⟩

/-- The registry of a document, with what was reported while it was made. -/
def ofText (source : String) : Except Json.ReadError (Logged Registry) :=
  let read := readText source
  read.value.map fun r => ⟨r, read.events⟩

end Registry

end DartTriggers
