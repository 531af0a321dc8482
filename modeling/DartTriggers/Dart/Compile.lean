import DartTriggers.Dart.Print
import DartTriggers.Dart.Token
import DartTriggers.UnitName
import DartTriggers.Descriptor.Registration
/-!
The classes of an entity: a holder of its values, a selector of its fields and, in the extended
layout, a setter for several values at once. A unit is the classes of all entities after its
header.
-/

namespace DartTriggers.Dart

/-- The warning at the head of a unit. -/
def generatedMarker : String := "GENERATED CODE - DO NOT MODIFY BY HAND"

/-- The class that selects the fields of an entity. -/
def selectorName (entity : String) : String :=
  entity ++ "Field"

/-- The class that sets several values of an entity. -/
def batchSetterName (entity : String) : String :=
  "_" ++ entity ++ "MultiSetter"

/-- The assignments of the defaults. -/
def initializer (properties : List Property) : List String :=
  properties.map fun p => p.name ++ " = " ++ p.literal ++ ";"

/-- The members at the head of a holder in the basic layout: the instance is made on first
use. -/
def basicHead (entity : String) (properties : List Property) : List Member :=
  [.field (some "static") (some (entity ++ "?")) "_instance" none,
   .constructor (entity ++ "._create") (.block (initializer properties)),
   .factory entity (.block ["return _instance ??= " ++ entity ++ "._create();"])]

/-- The members at the head of a holder in the extended layout: the instance is made at once, and
others can be made beside it. -/
def extendedHead (entity : String) (properties : List Property) : List Member :=
  [.field (some "static final") (some entity) "_instance" (some (entity ++ "._internal()")),
   .method (some "static") (selectorName entity) "fields" "" (.arrow (selectorName entity ++ "()")),
   .constructor (entity ++ "._internal") (.block (initializer properties)),
   .comment ("this will be used to spawn a new " ++ entity ++ " instance that is not singleton."),
   .factory (entity ++ ".spawn") (.block ["return " ++ entity ++ "._internal();"]),
   .factory entity (.block ["return " ++ entity ++ "._instance;"])]

/-- The getter and the setter of a value in the holder. -/
def holderAccessors (p : Property) : List Member :=
  [.getter p.type p.name (.arrow p.readExpression),
   .setter p.name p.type "val" (.arrow ("setValue('" ++ p.name ++ "', val)"))]

/-- The method of a holder that sets several values. -/
def multiSet (entity : String) : Member :=
  .method none "void" "multiSet" ("void Function(" ++ batchSetterName entity ++ " setter) func")
    (.block ["final setter = " ++ batchSetterName entity ++ "();", "func(setter);",
      "setMultiValues(setter._map);"])

/-- The class that holds the values of an entity. -/
def holder (v : Variant) (entity : String) (properties : List Property) : ClassDecl :=
  if v.hasBatchSetter then
    { modifier := some "base", name := entity, superclass := some "Trigger",
      members := extendedHead entity properties ++ properties.flatMap holderAccessors ++
        [multiSet entity] }
  else
    { name := entity, superclass := some "Trigger",
      members := basicHead entity properties ++ properties.flatMap holderAccessors }

/-- The class that selects the fields of an entity. -/
def selector (entity : String) (properties : List Property) : ClassDecl :=
  { name := selectorName entity, superclass := some "TriggerField",
    members := properties.map fun p =>
      .getter (selectorName entity) p.name
        (.block ["addField('" ++ p.name ++ "');", "return this;"]) }

/-- The class that gathers values to be set at once. -/
def batchSetter (entity : String) (properties : List Property) : ClassDecl :=
  { name := batchSetterName entity,
    members := .field (some "final") none "_map" (some "<String, dynamic>\x7b\x7d") ::
      properties.map fun p =>
        .setter p.name p.type "val" (.arrow ("_map[\"" ++ p.name ++ "\"] = val")) }

/-- The classes of an entity. -/
def entityClasses (v : Variant) (e : Entity) : List ClassDecl :=
  let properties := e.attributes.map (Property.ofAttribute v)
  [holder v e.name properties, selector e.name properties] ++
    if v.hasBatchSetter then [batchSetter e.name properties] else []

def compileEntity (v : Variant) (e : Entity) : List Declaration :=
  (entityClasses v e).map .classDecl

/-- The lines before the classes of a unit. -/
def unitHeader (options : Options) (unit : UnitName) : List Declaration :=
  (if options.variant.hasHeader then [.comment generatedMarker] else []) ++
    [.partOf (unit.libraryFile options.extension)]

def compileUnit (options : Options) (unit : UnitName) (r : Registry) : List Declaration :=
  unitHeader options unit ++ r.entities.flatMap (compileEntity options.variant)

/-- The source of the classes of an entity. -/
def generateEntity (v : Variant) (e : Entity) : String :=
  print (compileEntity v e)

/-- The source of a unit. -/
def generateUnit (options : Options) (unit : UnitName) (r : Registry) : String :=
  print (compileUnit options unit r)

/-- What is reported while the classes of an entity are made. -/
def compilationEvent (v : Variant) (e : Entity) : Log.Event :=
  .compilingEntity e.name e.attributes.length v

/-- What is reported while a unit is made. -/
def compilationEvents (v : Variant) (r : Registry) : List Log.Event :=
  r.entities.map (compilationEvent v)

end DartTriggers.Dart
