import DartTriggers.Descriptor.Registration
import DartTriggers.Proofs.Json.Records
import DartTriggers.Proofs.Json.Values
/-!
The format of descriptors, said on JSON values. What a document is read as, if it is read at all,
depends on its value alone.
-/

namespace DartTriggers

open Json (Decoder RecordField KnownField Fits Blank Written string? listOf? valuesOf atMostOne?)

namespace AttributeType

def ofJson? (v : Json) : Option AttributeType :=
  (string? v).map ofTag

theorem reads_decoder : decoder.Reads ofJson? :=
  Json.reads_map Json.reads_text ofTag

end AttributeType

namespace Attribute

/-- The default that a value stands for. -/
def defaultOfJson? : Json → Option (Option String)
  | .null => some none
  | .string s => some (some s)
  | .bool b => some (some (toString b))
  | .number (.integer n) => some (some (toString n))
  | .number (.binary negative magnitude) =>
      some (some (.ofList (JsonNumber.binary negative magnitude).chars))
  | .array _ | .object _ => none

theorem toOption_defaultOf (v : Json) : (defaultOf v).toOption = defaultOfJson? v := by
  cases v with
  | bool b => cases b <;> rfl
  | number n =>
      cases n with
      | integer n => simp [defaultOf, defaultOfJson?, Json.ofList_chars_integer]
      | binary negative magnitude => rfl
  | null | string | array | object => rfl

def ofFields? (name type default : Json) : Option Attribute := do
  let name ← string? name
  let type ← AttributeType.ofJson? type
  let default ← defaultOfJson? default
  some ⟨name, type, default⟩

/-- The attribute that a value stands for. -/
def ofJson? : Json → Option Attribute
  | .object ms =>
      match valuesOf "name" ms, valuesOf "type" ms, valuesOf "default" ms with
      | [name], [type], [] => ofFields? name type .null
      | [name], [type], [default] => ofFields? name type default
      | _, _, _ => none
  | .array [name, type] => ofFields? name type .null
  | .array [name, type, default] => ofFields? name type default
  | _ => none

def defaultField : RecordField Draft where
  key := "default"
  hasDefault := true
  isSet draft := draft.default.isSome
  reader levels := (Decoder.any levels).map fun value =>
    (defaultOf value).map fun x draft => { draft with default := some x }

/-- The default is read as any value first and looked at then. -/
theorem reads_defaultField :
    defaultField.Reads fun v =>
      (defaultOfJson? v).map fun x draft => { draft with default := some x } := by
  have hreader : Decoder.Reads defaultField.reader fun v =>
      some ((defaultOf v).map fun x draft => { draft with default := some x }) :=
    Json.reads_map Json.reads_any _
  intro levels v b text rest hfits hb htext hrest draft giveUp
  rw [Json.fieldReads_of_reader hreader hfits hb htext hrest]
  simp only [← toOption_defaultOf, Option.bind_some]
  cases defaultOf v <;> rfl

def knownName : KnownField Draft :=
  .of "name" false Json.reads_text (·.name) (fun x draft => { draft with name := some x })
    fun _ _ => rfl

def knownType : KnownField Draft :=
  .of "type" false AttributeType.reads_decoder (·.type)
    (fun x draft => { draft with type := some x }) fun _ _ => rfl

def knownDefault : KnownField Draft where
  field := defaultField
  Value := Option String
  get := (·.default)
  set x draft := { draft with default := some x }
  read? := defaultOfJson?
  isSet_eq _ := rfl
  get_set _ _ := rfl
  reads := reads_defaultField

def knownFields : List (KnownField Draft) :=
  [knownName, knownType, knownDefault]

theorem fields_eq : fields = knownFields.map (·.field) :=
  rfl

theorem apart_knownFields : knownFields.Pairwise KnownField.Apart := by
  have hname : knownName.Apart knownType :=
    ⟨by decide, fun _ _ => rfl, fun _ _ => rfl, fun _ _ _ => rfl⟩
  have hname' : knownName.Apart knownDefault :=
    ⟨by decide, fun _ _ => rfl, fun _ _ => rfl, fun _ _ _ => rfl⟩
  have htype : knownType.Apart knownDefault :=
    ⟨by decide, fun _ _ => rfl, fun _ _ => rfl, fun _ _ _ => rfl⟩
  simp [knownFields, hname, hname', htype]

theorem toOption_finish (name : Option String) (type : Option AttributeType)
    (default : Option (Option String)) :
    (finish ⟨name, type, default⟩).toOption =
      name.bind fun name => type.map fun type => ⟨name, type, default.getD none⟩ := by
  cases name <;> cases type <;> rfl

theorem value?_members (ms : List (String × Json)) :
    record.value? knownFields (.object ms) =
      (atMostOne? string? (valuesOf "name" ms)).bind fun name =>
        (atMostOne? AttributeType.ofJson? (valuesOf "type" ms)).bind fun type =>
          (atMostOne? defaultOfJson? (valuesOf "default" ms)).bind fun default =>
            (finish ⟨name, type, default⟩).toOption := by
  have hname (vs : List Json) : vs.foldlM knownName.step? {} =
      (atMostOne? string? vs).map fun name => ⟨name, none, none⟩ :=
    KnownField.foldlM_step? (k := knownName) (⟨·, none, none⟩) rfl (fun _ => rfl) vs
  have htype (name : Option String) (vs : List Json) :
      vs.foldlM knownType.step? ⟨name, none, none⟩ =
        (atMostOne? AttributeType.ofJson? vs).map fun type => ⟨name, type, none⟩ :=
    KnownField.foldlM_step? (k := knownType) (⟨name, ·, none⟩) rfl (fun _ => rfl) vs
  have hdefault (name : Option String) (type : Option AttributeType) (vs : List Json) :
      vs.foldlM knownDefault.step? ⟨name, type, none⟩ =
        (atMostOne? defaultOfJson? vs).map fun default => ⟨name, type, default⟩ :=
    KnownField.foldlM_step? (k := knownDefault) (⟨name, type, ·⟩) rfl (fun _ => rfl) vs
  have hgather : ms.foldlM (KnownField.member? knownFields) {} =
      ((valuesOf "name" ms).foldlM knownName.step? {}).bind fun draft =>
        ((valuesOf "type" ms).foldlM knownType.step? draft).bind fun draft =>
          ((valuesOf "default" ms).foldlM knownDefault.step? draft).bind some :=
    KnownField.foldlM_member? apart_knownFields ms {}
  simp only [Json.Record.value?, record, hgather, hname, htype, hdefault, Option.bind_map,
    Function.comp_def, Option.bind_assoc, Option.bind_some]

theorem value?_object (ms : List (String × Json)) :
    record.value? knownFields (.object ms) = ofJson? (.object ms) := by
  rw [value?_members, ofJson?]
  rcases valuesOf "name" ms with _ | ⟨name, _ | ⟨_, _⟩⟩
  · simp [atMostOne?, toOption_finish]
  · rcases valuesOf "type" ms with _ | ⟨type, _ | ⟨_, _⟩⟩
    · simp [atMostOne?, toOption_finish]
    · rcases valuesOf "default" ms with _ | ⟨default, _ | ⟨_, _⟩⟩
      · simp only [atMostOne?, ofFields?]
        cases string? name <;> cases AttributeType.ofJson? type <;> rfl
      · simp only [atMostOne?, ofFields?]
        cases string? name <;> cases AttributeType.ofJson? type <;>
          cases defaultOfJson? default <;> rfl
      · simp [atMostOne?]
    · simp [atMostOne?]
  · simp [atMostOne?]

theorem value?_array (vs : List Json) :
    record.value? knownFields (.array vs) = ofJson? (.array vs) := by
  match vs with
  | [] => rfl
  | [name] =>
      have hitems : KnownField.items? knownFields {} [name] =
          (string? name).bind fun _ => none := rfl
      simp [Json.Record.value?, record, hitems, ofJson?]
  | [name, type] =>
      have hitems : KnownField.items? knownFields {} [name, type] =
          (string? name).bind fun name => (AttributeType.ofJson? type).bind fun type =>
            some ⟨some name, some type, none⟩ := rfl
      simp only [Json.Record.value?, record, hitems, ofJson?, ofFields?]
      cases string? name <;> cases AttributeType.ofJson? type <;> rfl
  | [name, type, default] =>
      have hitems : KnownField.items? knownFields {} [name, type, default] =
          (string? name).bind fun name => (AttributeType.ofJson? type).bind fun type =>
            (defaultOfJson? default).bind fun default =>
              some ⟨some name, some type, some default⟩ := rfl
      simp only [Json.Record.value?, record, hitems, ofJson?, ofFields?]
      cases string? name <;> cases AttributeType.ofJson? type <;>
        cases defaultOfJson? default <;> rfl
  | name :: type :: default :: v :: vs =>
      have hitems : KnownField.items? knownFields {} (name :: type :: default :: v :: vs) =
          (string? name).bind fun _ => (AttributeType.ofJson? type).bind fun _ =>
            (defaultOfJson? default).bind fun _ => none := rfl
      simp [Json.Record.value?, record, hitems, ofJson?]

theorem reads_record : record.decoder.Reads ofJson? := by
  intro levels v hfits
  have hvalue : record.value? knownFields v = ofJson? v := by
    cases v with
    | object ms => exact value?_object ms
    | array vs => exact value?_array vs
    | null | bool | number | string => rfl
  rw [← hvalue]
  exact Json.reads_record fields_eq hfits

end Attribute

namespace Entity

def ofFields? (name attributes : Json) : Option Entity := do
  let name ← string? name
  let attributes ← listOf? Attribute.ofJson? attributes
  some ⟨name, attributes⟩

/-- The entity that a value stands for. -/
def ofJson? : Json → Option Entity
  | .object ms =>
      match valuesOf "name" ms, valuesOf "attributes" ms with
      | [name], [] => ofFields? name (.array [])
      | [name], [attributes] => ofFields? name attributes
      | _, _ => none
  | .array [name] => ofFields? name (.array [])
  | .array [name, attributes] => ofFields? name attributes
  | _ => none

def knownName : KnownField Draft :=
  .of "name" false Json.reads_text (·.name) (fun x draft => { draft with name := some x })
    fun _ _ => rfl

def knownAttributes : KnownField Draft :=
  .of "attributes" true (Json.reads_list Attribute.reads_record) (·.attributes)
    (fun x draft => { draft with attributes := some x }) fun _ _ => rfl

def knownFields : List (KnownField Draft) :=
  [knownName, knownAttributes]

theorem fields_eq : fields = knownFields.map (·.field) :=
  rfl

theorem apart_knownFields : knownFields.Pairwise KnownField.Apart := by
  have hname : knownName.Apart knownAttributes :=
    ⟨by decide, fun _ _ => rfl, fun _ _ => rfl, fun _ _ _ => rfl⟩
  simp [knownFields, hname]

theorem toOption_finish (name : Option String) (attributes : Option (List Attribute)) :
    (finish ⟨name, attributes⟩).toOption = name.map fun name => ⟨name, attributes.getD []⟩ := by
  cases name <;> rfl

theorem value?_members (ms : List (String × Json)) :
    record.value? knownFields (.object ms) =
      (atMostOne? string? (valuesOf "name" ms)).bind fun name =>
        (atMostOne? (listOf? Attribute.ofJson?) (valuesOf "attributes" ms)).bind fun attributes =>
          (finish ⟨name, attributes⟩).toOption := by
  have hname (vs : List Json) : vs.foldlM knownName.step? {} =
      (atMostOne? string? vs).map fun name => ⟨name, none⟩ :=
    KnownField.foldlM_step? (k := knownName) (⟨·, none⟩) rfl (fun _ => rfl) vs
  have hattributes (name : Option String) (vs : List Json) :
      vs.foldlM knownAttributes.step? ⟨name, none⟩ =
        (atMostOne? (listOf? Attribute.ofJson?) vs).map fun attributes => ⟨name, attributes⟩ :=
    KnownField.foldlM_step? (k := knownAttributes) (⟨name, ·⟩) rfl (fun _ => rfl) vs
  have hgather : ms.foldlM (KnownField.member? knownFields) {} =
      ((valuesOf "name" ms).foldlM knownName.step? {}).bind fun draft =>
        ((valuesOf "attributes" ms).foldlM knownAttributes.step? draft).bind some :=
    KnownField.foldlM_member? apart_knownFields ms {}
  simp only [Json.Record.value?, record, hgather, hname, hattributes, Option.bind_map,
    Function.comp_def, Option.bind_assoc, Option.bind_some]

theorem value?_object (ms : List (String × Json)) :
    record.value? knownFields (.object ms) = ofJson? (.object ms) := by
  rw [value?_members, ofJson?]
  rcases valuesOf "name" ms with _ | ⟨name, _ | ⟨_, _⟩⟩
  · simp [atMostOne?, toOption_finish]
  · rcases valuesOf "attributes" ms with _ | ⟨attributes, _ | ⟨_, _⟩⟩
    · simp only [atMostOne?, ofFields?]
      cases string? name <;> rfl
    · simp only [atMostOne?, ofFields?]
      cases string? name <;> cases listOf? Attribute.ofJson? attributes <;> rfl
    · simp [atMostOne?]
  · simp [atMostOne?]

theorem value?_array (vs : List Json) :
    record.value? knownFields (.array vs) = ofJson? (.array vs) := by
  match vs with
  | [] => rfl
  | [name] =>
      have hitems : KnownField.items? knownFields {} [name] =
          (string? name).bind fun name => some ⟨some name, none⟩ := rfl
      simp only [Json.Record.value?, record, hitems, ofJson?, ofFields?]
      cases string? name <;> rfl
  | [name, attributes] =>
      have hitems : KnownField.items? knownFields {} [name, attributes] =
          (string? name).bind fun name => (listOf? Attribute.ofJson? attributes).bind
            fun attributes => some ⟨some name, some attributes⟩ := rfl
      simp only [Json.Record.value?, record, hitems, ofJson?, ofFields?]
      cases string? name <;> cases listOf? Attribute.ofJson? attributes <;> rfl
  | name :: attributes :: v :: vs =>
      have hitems : KnownField.items? knownFields {} (name :: attributes :: v :: vs) =
          (string? name).bind fun _ => (listOf? Attribute.ofJson? attributes).bind
            fun _ => none := rfl
      simp [Json.Record.value?, record, hitems, ofJson?]

theorem reads_record : record.decoder.Reads ofJson? := by
  intro levels v hfits
  have hvalue : record.value? knownFields v = ofJson? v := by
    cases v with
    | object ms => exact value?_object ms
    | array vs => exact value?_array vs
    | null | bool | number | string => rfl
  rw [← hvalue]
  exact Json.reads_record fields_eq hfits

end Entity

namespace Registry

def ofFields? (entities : Json) : Option Registry :=
  (listOf? Entity.ofJson? entities).map Registry.mk

/-- The registry that a value stands for. -/
def ofJson? : Json → Option Registry
  | .object ms =>
      match valuesOf "entities" ms with
      | [] => ofFields? (.array [])
      | [entities] => ofFields? entities
      | _ => none
  | .array [] => ofFields? (.array [])
  | .array [entities] => ofFields? entities
  | _ => none

def knownEntities : KnownField Draft :=
  .of "entities" true (Json.reads_list Entity.reads_record) (·.entities)
    (fun x draft => { draft with entities := some x }) fun _ _ => rfl

def knownFields : List (KnownField Draft) :=
  [knownEntities]

theorem fields_eq : fields = knownFields.map (·.field) :=
  rfl

theorem apart_knownFields : knownFields.Pairwise KnownField.Apart :=
  List.pairwise_singleton _ _

theorem value?_object (ms : List (String × Json)) :
    record.value? knownFields (.object ms) = ofJson? (.object ms) := by
  have hentities (vs : List Json) : vs.foldlM knownEntities.step? {} =
      (atMostOne? (listOf? Entity.ofJson?) vs).map fun entities => ⟨entities⟩ :=
    KnownField.foldlM_step? (k := knownEntities) Draft.mk rfl (fun _ => rfl) vs
  have hgather : ms.foldlM (KnownField.member? knownFields) {} =
      ((valuesOf "entities" ms).foldlM knownEntities.step? {}).bind some :=
    KnownField.foldlM_member? apart_knownFields ms {}
  simp only [Json.Record.value?, record, hgather, hentities, ofJson?]
  rcases valuesOf "entities" ms with _ | ⟨entities, _ | ⟨_, _⟩⟩
  · rfl
  · simp only [atMostOne?, ofFields?]
    cases listOf? Entity.ofJson? entities <;> rfl
  · rfl

theorem value?_array (vs : List Json) :
    record.value? knownFields (.array vs) = ofJson? (.array vs) := by
  match vs with
  | [] => rfl
  | [entities] =>
      have hitems : KnownField.items? knownFields {} [entities] =
          (listOf? Entity.ofJson? entities).bind fun entities => some ⟨some entities⟩ := rfl
      simp only [Json.Record.value?, record, hitems, ofJson?, ofFields?]
      cases listOf? Entity.ofJson? entities <;> rfl
  | entities :: v :: vs =>
      have hitems : KnownField.items? knownFields {} (entities :: v :: vs) =
          (listOf? Entity.ofJson? entities).bind fun _ => none := rfl
      simp [Json.Record.value?, record, hitems, ofJson?]

theorem reads_decoder : decoder.Reads ofJson? := by
  intro levels v hfits
  have hvalue : record.value? knownFields v = ofJson? v := by
    cases v with
    | object ms => exact value?_object ms
    | array vs => exact value?_array vs
    | null | bool | number | string => rfl
  rw [← hvalue]
  exact Json.reads_record fields_eq hfits

theorem registerAll_value (r : Registry) (es : List Entity) :
    (r.registerAll es).value = ⟨r.entities ++ es⟩ := by
  induction es generalizing r with
  | nil => simp [registerAll]
  | cons e es ih => simp [registerAll, ih, register]

theorem toOption_ofText {v : Json} (hfits : Fits Json.levelLimit v) {b text b' : List Char}
    (hb : Blank b) (htext : Written (.value v) text) (hb' : Blank b') :
    ((ofText (String.ofList (b ++ text ++ b'))).map (·.value)).toOption = ofJson? v := by
  rw [← Json.toOption_decode reads_decoder hfits hb htext hb', ofText, readText]
  cases Json.decode decoder (String.ofList (b ++ text ++ b')) with
  | error e => rfl
  | ok parsed => simp [Except.map, registerAll_value, empty]

/-- A document is read exactly if its value has the form of a descriptor, and then as the registry
that the value stands for. -/
theorem ofText_written {v : Json} (hfits : Fits Json.levelLimit v) {b text b' : List Char}
    (hb : Blank b) (htext : Written (.value v) text) (hb' : Blank b') (r : Registry) :
    (ofText (String.ofList (b ++ text ++ b'))).map (·.value) = .ok r ↔ ofJson? v = some r := by
  rw [← toOption_ofText hfits hb htext hb']
  exact Json.toOption_eq_some.symm

/-- An object with a key of no meaning, an entity as an array and an attribute as an object with
its keys in another order. -/
def mixedForms : Json :=
  .object [("note", .array [.null]),
    ("entities", .array [.array [.string "A",
      .array [.object [("type", .string "int"), ("default", .number (.integer (-5))),
        ("name", .string "n")]]]])]

theorem ofText_written_mixedForms :
    (ofText (String.ofList ([' '] ++ mixedForms.compactChars ++ ['\n']))).map (·.value) =
      .ok ⟨[⟨"A", [⟨"n", .integer, some "-5"⟩]⟩]⟩ := by
  have hattribute : Fits (122 + 1) (.object [("type", .string "int"),
      ("default", .number (.integer (-5))), ("name", .string "n")]) := by
    refine .object (List.forall_mem_cons.mpr ⟨.string _ _, List.forall_mem_cons.mpr
      ⟨.integer _ (by decide), List.forall_mem_singleton.mpr (.string _ _)⟩⟩)
  have hentity : Fits (124 + 1) (.array [.string "A", .array [.object [("type", .string "int"),
      ("default", .number (.integer (-5))), ("name", .string "n")]]]) :=
    .array (List.forall_mem_cons.mpr ⟨.string _ _,
      List.forall_mem_singleton.mpr (.array (List.forall_mem_singleton.mpr hattribute))⟩)
  have hnote : Fits (125 + 1) (.array [.null]) := .array (List.forall_mem_singleton.mpr (.null _))
  have hfits : Fits (126 + 1) mixedForms :=
    .object (List.forall_mem_cons.mpr ⟨hnote,
      List.forall_mem_singleton.mpr (.array (List.forall_mem_singleton.mpr hentity))⟩)
  exact (ofText_written hfits (Json.blank_cons rfl Json.blank_nil)
    (Json.written_compactChars mixedForms) (Json.blank_cons rfl Json.blank_nil) _).mpr (by decide)

end Registry

end DartTriggers
