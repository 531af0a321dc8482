import DartTriggers.Config
import DartTriggers.Proofs.FileTree.Kept
import DartTriggers.Proofs.Json.Alternatives
import DartTriggers.Proofs.Json.Records
/-!
Configurations read back from what is written of them, as documents and as files.
-/

namespace DartTriggers.Config

open Json (KnownField Fits Blank Written Formed ObjectText string? bool? listOf? optional? choice?
  valuesOf atMostOne?)

def knownSrcDir : KnownField Draft :=
  .of "srcDir" true Json.reads_text (·.srcDir) (fun x draft => { draft with srcDir := some x })
    fun _ _ => rfl

def knownVariant : KnownField Draft :=
  .of "variant" true (Json.reads_choice Variant.names) (·.variant)
    (fun x draft => { draft with variant := some x }) fun _ _ => rfl

def knownFormat : KnownField Draft :=
  .of "format" true Json.reads_flag (·.format) (fun x draft => { draft with format := some x })
    fun _ _ => rfl

def knownFormatCommand : KnownField Draft :=
  .of "formatCommand" true (Json.reads_list Json.reads_text) (·.formatCommand)
    (fun x draft => { draft with formatCommand := some x }) fun _ _ => rfl

def knownOutDir : KnownField Draft :=
  .of "outDir" true (Json.reads_optional Json.reads_text) (·.outDir)
    (fun x draft => { draft with outDir := some x }) fun _ _ => rfl

def knownFields : List (KnownField Draft) :=
  [knownSrcDir, knownVariant, knownFormat, knownFormatCommand, knownOutDir]

theorem fields_eq : fields = knownFields.map (·.field) :=
  rfl

theorem reads_decoder : decoder.Reads (record.value? knownFields) :=
  Json.reads_record fields_eq

theorem apart_knownFields : knownFields.Pairwise KnownField.Apart := by
  simp only [knownFields, List.pairwise_cons, List.forall_mem_cons, List.not_mem_nil,
    IsEmpty.forall_iff, implies_true, List.Pairwise.nil, and_true]
  refine ⟨⟨?_, ?_, ?_, ?_⟩, ⟨?_, ?_, ?_⟩, ⟨?_, ?_⟩, ?_⟩ <;>
    exact ⟨by decide, fun _ _ => rfl, fun _ _ => rfl, fun _ _ _ => rfl⟩

/-- What is read of an object depends on the values of each key alone. -/
theorem value?_members (ms : List (String × Json)) :
    record.value? knownFields (.object ms) =
      (atMostOne? string? (valuesOf "srcDir" ms)).bind fun srcDir =>
        (atMostOne? (choice? Variant.names) (valuesOf "variant" ms)).bind fun variant =>
          (atMostOne? bool? (valuesOf "format" ms)).bind fun format =>
            (atMostOne? (listOf? string?) (valuesOf "formatCommand" ms)).bind fun command =>
              (atMostOne? (optional? string?) (valuesOf "outDir" ms)).bind fun outDir =>
                some (ofDraft ⟨srcDir, variant, format, command, outDir⟩) := by
  have hsrcDir (vs : List Json) : vs.foldlM knownSrcDir.step? {} =
      (atMostOne? string? vs).map fun srcDir => ⟨srcDir, none, none, none, none⟩ :=
    KnownField.foldlM_step? (k := knownSrcDir) (⟨·, none, none, none, none⟩) rfl (fun _ => rfl) vs
  have hvariant (srcDir : Option String) (vs : List Json) :
      vs.foldlM knownVariant.step? ⟨srcDir, none, none, none, none⟩ =
        (atMostOne? (choice? Variant.names) vs).map (⟨srcDir, ·, none, none, none⟩) :=
    KnownField.foldlM_step? (k := knownVariant) (⟨srcDir, ·, none, none, none⟩) rfl (fun _ => rfl)
      vs
  have hformat (srcDir : Option String) (variant : Option Variant) (vs : List Json) :
      vs.foldlM knownFormat.step? ⟨srcDir, variant, none, none, none⟩ =
        (atMostOne? bool? vs).map (⟨srcDir, variant, ·, none, none⟩) :=
    KnownField.foldlM_step? (k := knownFormat) (⟨srcDir, variant, ·, none, none⟩) rfl
      (fun _ => rfl) vs
  have hcommand (srcDir : Option String) (variant : Option Variant) (format : Option Bool)
      (vs : List Json) : vs.foldlM knownFormatCommand.step? ⟨srcDir, variant, format, none, none⟩ =
        (atMostOne? (listOf? string?) vs).map (⟨srcDir, variant, format, ·, none⟩) :=
    KnownField.foldlM_step? (k := knownFormatCommand) (⟨srcDir, variant, format, ·, none⟩) rfl
      (fun _ => rfl) vs
  have houtDir (srcDir : Option String) (variant : Option Variant) (format : Option Bool)
      (command : Option (List String)) (vs : List Json) :
      vs.foldlM knownOutDir.step? ⟨srcDir, variant, format, command, none⟩ =
        (atMostOne? (optional? string?) vs).map (⟨srcDir, variant, format, command, ·⟩) :=
    KnownField.foldlM_step? (k := knownOutDir) (⟨srcDir, variant, format, command, ·⟩) rfl
      (fun _ => rfl) vs
  have hgather : ms.foldlM (KnownField.member? knownFields) {} =
      ((valuesOf "srcDir" ms).foldlM knownSrcDir.step? {}).bind fun draft =>
        ((valuesOf "variant" ms).foldlM knownVariant.step? draft).bind fun draft =>
          ((valuesOf "format" ms).foldlM knownFormat.step? draft).bind fun draft =>
            ((valuesOf "formatCommand" ms).foldlM knownFormatCommand.step? draft).bind
              fun draft => ((valuesOf "outDir" ms).foldlM knownOutDir.step? draft).bind some :=
    KnownField.foldlM_member? apart_knownFields ms {}
  simp only [Json.Record.value?, record, hgather, hsrcDir, hvariant, hformat, hcommand, houtDir,
    Option.bind_map, Function.comp_def, Option.bind_assoc, Option.bind_some]
  rfl

/-- The five members of a configuration. -/
def members (c : Config) : List (String × Json) :=
  [("srcDir", .string c.srcDir), ("variant", c.variant.toJson), ("format", .bool c.format),
   ("formatCommand", .array (c.formatCommand.map .string)),
   ("outDir", match c.outDir with | none => .null | some dir => .string dir)]

/-- A configuration of which only the fields with these keys are given; the others have their
defaults. -/
def given (c : Config) (keys : List String) : Config :=
  let unset : Config := {}
  { srcDir := if "srcDir" ∈ keys then c.srcDir else unset.srcDir
    variant := if "variant" ∈ keys then c.variant else unset.variant
    format := if "format" ∈ keys then c.format else unset.format
    formatCommand := if "formatCommand" ∈ keys then c.formatCommand else unset.formatCommand
    outDir := if "outDir" ∈ keys then c.outDir else unset.outDir }

theorem listOf?_formatCommand (c : Config) :
    listOf? string? (.array (c.formatCommand.map .string)) = some c.formatCommand := by
  have hword (word : String) : string? (.string word) = some word := rfl
  have hcommand := Json.listOf?_map hword c.formatCommand
  rwa [List.map_id'] at hcommand

/-- Members with the values of a configuration, and members that no field has the key of, give the
configuration as far as its keys are there. -/
theorem value?_given (c : Config) {ms : List (String × Json)}
    (hms : ∀ m ∈ ms, m.1 ∈ fields.map (·.key) → m ∈ c.members)
    (hcount : ∀ key ∈ fields.map (·.key), (ms.map (·.1)).count key ≤ 1) :
    record.value? knownFields (.object ms) = some (c.given (ms.map (·.1))) := by
  have hmem {key : String} (hkey : key ∈ fields.map (·.key)) {v : Json} (hv : (key, v) ∈ ms) :
      (key, v) ∈ c.members := hms (key, v) hv hkey
  have hsrcDir : ∀ v, ("srcDir", v) ∈ ms → string? v = some c.srcDir := by
    intro v hv
    obtain rfl : v = .string c.srcDir := by simpa [members] using hmem (by decide) hv
    rfl
  have hvariant : ∀ v, ("variant", v) ∈ ms → choice? Variant.names v = some c.variant := by
    intro v hv
    obtain rfl : v = c.variant.toJson := by simpa [members] using hmem (by decide) hv
    exact c.variant.ofName?_name
  have hformat : ∀ v, ("format", v) ∈ ms → bool? v = some c.format := by
    intro v hv
    obtain rfl : v = .bool c.format := by simpa [members] using hmem (by decide) hv
    rfl
  have hcommand : ∀ v, ("formatCommand", v) ∈ ms → listOf? string? v = some c.formatCommand := by
    intro v hv
    obtain rfl : v = .array (c.formatCommand.map .string) := by
      simpa [members] using hmem (by decide) hv
    exact c.listOf?_formatCommand
  have houtDir : ∀ v, ("outDir", v) ∈ ms → optional? string? v = some c.outDir := by
    intro v hv
    have hv' := hmem (by decide) hv
    cases hdir : c.outDir <;>
      · obtain rfl : v = _ := by simpa [members, hdir] using hv'
        rfl
  rw [value?_members, Json.atMostOne?_valuesOf hsrcDir (hcount _ (by decide)),
    Json.atMostOne?_valuesOf hvariant (hcount _ (by decide)),
    Json.atMostOne?_valuesOf hformat (hcount _ (by decide)),
    Json.atMostOne?_valuesOf hcommand (hcount _ (by decide)),
    Json.atMostOne?_valuesOf houtDir (hcount _ (by decide))]
  simp only [Option.bind_some, ofDraft, given]
  split_ifs <;> rfl

theorem value?_repeated {ms : List (String × Json)} {key : String}
    (hkey : key ∈ fields.map (·.key)) (hcount : 2 ≤ (ms.map (·.1)).count key) :
    record.value? knownFields (.object ms) = none := by
  rw [← Json.length_valuesOf] at hcount
  have hnone {β : Type} (f : Json → Option β) : atMostOne? f (valuesOf key ms) = none :=
    Json.atMostOne?_of_two_le hcount f
  rw [value?_members]
  simp only [fields, List.map_cons, List.map_nil, Json.RecordField.of, List.mem_cons,
    List.not_mem_nil, or_false] at hkey
  rcases hkey with rfl | rfl | rfl | rfl | rfl <;> simp [hnone]

/-- What is written of a configuration are its members, but for a directory for units that is not
given. -/
theorem exists_toJson (c : Config) : ∃ ms, c.toJson = .object ms ∧ (∀ m ∈ ms, m ∈ c.members) ∧
    (ms.map (·.1)).Nodup ∧ c.given (ms.map (·.1)) = c := by
  obtain ⟨srcDir, variant, format, command, _ | dir⟩ := c <;>
    refine ⟨_, rfl, ?_, ?_, ?_⟩ <;> simp [members, given]

/-- A configuration is read as it was. -/
theorem value?_toJson (c : Config) : record.value? knownFields c.toJson = some c := by
  obtain ⟨ms, hjson, hms, hkeys, hgiven⟩ := c.exists_toJson
  rw [hjson, c.value?_given (fun m hm _ => hms m hm)
    (fun key _ => List.nodup_iff_count_le_one.mp hkeys key), hgiven]

theorem fits_members (c : Config) : ∀ m ∈ c.members, Fits 126 m.2 := by
  have hcommand : Fits 126 (.array (c.formatCommand.map .string)) := by
    refine .array ?_
    rw [List.forall_mem_map]
    exact fun word _ => .string 125 word
  intro m hm
  simp only [members, List.mem_cons, List.not_mem_nil, or_false] at hm
  rcases hm with rfl | rfl | rfl | rfl | rfl
  · exact .string _ _
  · exact .string _ _
  · exact .bool _ _
  · exact hcommand
  · cases c.outDir with
    | none => exact .null _
    | some dir => exact .string _ dir

theorem fits_toJson (c : Config) : Fits 127 c.toJson := by
  obtain ⟨ms, hjson, hms, -⟩ := c.exists_toJson
  rw [hjson]
  exact .object fun m hm => c.fits_members m (hms m hm)

/-- Both layouts of a configuration are read as the configuration. -/
theorem decode_toJson_text (isPretty : Bool) (c : Config) :
    Json.decode decoder (c.toJson.text isPretty) = .ok c :=
  Json.decode_text_eq_ok reads_decoder c.fits_toJson c.value?_toJson isPretty

/-- An entry of an object that is read as a configuration: a member that is allowed, or a key that
no field has with anything that has the form of a value. -/
def Entry (allowed : String × Json → Prop) (e : String × List Char) : Prop :=
  (∃ v, allowed (e.1, v) ∧ Written (.value v) e.2) ∨
    (e.1 ∉ fields.map (·.key) ∧ Formed .value e.2)

section

variable {allowed : String × Json → Prop} (hfits : ∀ m, allowed m → Fits 126 m.2)

include hfits

theorem Entry.exists_standsFor {e : String × List Char} (h : Entry allowed e) :
    ∃ m, KnownField.StandsFor knownFields 126 m e ∧ (m.1 ∈ fields.map (·.key) → allowed m) := by
  rcases h with ⟨v, hallowed, htext⟩ | ⟨hkey, hformed⟩
  · exact ⟨(e.1, v), ⟨rfl, .inl ⟨hfits _ hallowed, htext⟩⟩, fun _ => hallowed⟩
  · have hother : ∀ k ∈ knownFields, k.field.key ≠ e.1 := by
      intro k hk hkeys
      rw [fields_eq] at hkey
      exact hkey (hkeys ▸ List.mem_map_of_mem (List.mem_map_of_mem hk))
    exact ⟨(e.1, .null), ⟨rfl, .inr ⟨hother, hformed⟩⟩, fun hknown => absurd hknown hkey⟩

theorem toOption_decode_entries {es : List (String × List Char)} (h : ∀ e ∈ es, Entry allowed e)
    {b text b' : List Char} (hb : Blank b) (htext : ObjectText es text) (hb' : Blank b') :
    ∃ ms, (Json.decode decoder (String.ofList (b ++ text ++ b'))).toOption =
        record.value? knownFields (.object ms) ∧
      ms.map (·.1) = es.map (·.1) ∧ ∀ m ∈ ms, m.1 ∈ fields.map (·.key) → allowed m := by
  obtain ⟨ms, hstand, hms⟩ := Json.exists_standsFor fun e he => (h e he).exists_standsFor hfits
  exact ⟨ms, Json.toOption_decode_object fields_eq hstand hb htext hb',
    Json.keys_eq_of_standsFor hstand, hms⟩

end

/-- Both layouts of a configuration are read as the configuration. An object with some of its members
and with other keys of any values, in any order, is read as what it gives of the configuration, with
defaults for the rest. If a field is repeated, the object is refused whatever its values are. -/
theorem decode_object (c : Config) :
    (∀ isPretty, Json.decode decoder (c.toJson.text isPretty) = .ok c) ∧
    ∀ es b text b', Blank b → ObjectText es text → Blank b' →
      ((∀ e ∈ es, Entry (· ∈ c.members) e) →
        (∀ key ∈ fields.map (·.key), (es.map (·.1)).count key ≤ 1) →
          Json.decode decoder (String.ofList (b ++ text ++ b')) = .ok (c.given (es.map (·.1)))) ∧
      ((∀ e ∈ es, Entry (fun m => Fits 126 m.2) e) →
        (∃ key ∈ fields.map (·.key), 2 ≤ (es.map (·.1)).count key) →
          ∃ fault, Json.decode decoder (String.ofList (b ++ text ++ b')) = .error fault) := by
  refine ⟨fun isPretty => decode_toJson_text isPretty c, ?_⟩
  intro es b text b' hb htext hb'
  constructor
  · intro hes hcount
    obtain ⟨ms, hdecode, hkeys, hms⟩ :=
      toOption_decode_entries c.fits_members hes hb htext hb'
    rw [← hkeys] at hcount ⊢
    rw [c.value?_given hms hcount] at hdecode
    exact Json.toOption_eq_some.mp hdecode
  · rintro hes ⟨key, hkey, hcount⟩
    obtain ⟨ms, hdecode, hkeys, -⟩ :=
      toOption_decode_entries (fun m hm => hm) hes hb htext hb'
    rw [← hkeys] at hcount
    rw [value?_repeated hkey hcount] at hdecode
    exact Json.toOption_eq_none.mp hdecode

/-- A list of a number too large to be read and of half a character, neither of which is asked for. -/
def unasked : List Char :=
  ['[', '1', '.', '5', 'e', '9', '9', '9', ',', '"', '\\', 'u', 'd', '8', '0', '0', '"', ']']

theorem formed_unasked : Formed .value unasked := by
  have hwhole : Json.Numeral.Whole ['1'] := .digits (by decide) (by decide) (by simp)
  have hfraction : Json.Numeral.Fraction ['.', '5'] := .digits (List.cons_ne_nil _ _) (by simp)
  have hexponent : Json.Numeral.Exponent ['e', '9', '9', '9'] :=
    .digits (.inl rfl) (.inl rfl) (List.cons_ne_nil _ _) (by simp)
  have hnumber : Formed .value ['1', '.', '5', 'e', '9', '9', '9'] :=
    .number (.positive (.mk hwhole hfraction hexponent))
  have hhalf : Json.StringText ['\\', 'u', 'd', '8', '0', '0'] :=
    .cons (.unit (by decide : Json.hexNumber 'd' '8' '0' '0' = some 0xD800)) .nil
  have hitems := Formed.item Json.blank_nil Json.blank_nil (.string hhalf)
    (.listEnd Json.blank_nil)
  exact .list Json.blank_nil hnumber hitems

theorem decode_object_unasked :
    Json.decode decoder ((⟨"lib", .basic, false, [], some "out"⟩ : Config).toJson.text true) =
      .ok ⟨"lib", .basic, false, [], some "out"⟩ ∧
    Json.decode decoder (String.ofList ([' '] ++ Json.objectChars [("note", unasked),
        ("outDir", (Json.string "out").compactChars), ("srcDir", (Json.string "lib").compactChars)] ++
        ['\n'])) =
      .ok ⟨"lib", .extended, true, ["dart", "format"], some "out"⟩ ∧
    ∃ fault, Json.decode decoder (String.ofList ([] ++ Json.objectChars
        [("format", Json.null.compactChars), ("note", unasked),
          ("format", (Json.bool false).compactChars)] ++ [])) = .error fault := by
  have hblank : Blank [' '] := Json.blank_cons rfl Json.blank_nil
  have hblank' : Blank ['\n'] := Json.blank_cons rfl Json.blank_nil
  have hnote {allowed : String × Json → Prop} : Entry allowed ("note", unasked) :=
    .inr ⟨by decide, formed_unasked⟩
  have hwritten {allowed : String × Json → Prop} {key : String} {v : Json}
      (h : allowed (key, v)) : Entry allowed (key, v.compactChars) :=
    .inl ⟨v, h, Json.written_compactChars v⟩
  refine ⟨(decode_object ⟨"lib", .basic, false, [], some "out"⟩).1 true, ?_, ?_⟩
  · apply ((decode_object ⟨"lib", .basic, false, [], some "out"⟩).2 _ _ _ _ hblank
      (Json.objectText_objectChars _) hblank').1
    · simp only [List.forall_mem_cons]
      exact ⟨hnote, hwritten (by simp [members]), hwritten (by simp [members]), by simp⟩
    · decide
  · apply ((decode_object {}).2 _ _ _ _ Json.blank_nil
      (Json.objectText_objectChars _) Json.blank_nil).2
    · simp only [List.forall_mem_cons]
      exact ⟨hwritten (.null 126), hnote, hwritten (.bool 126 false), by simp⟩
    · exact ⟨"format", by decide, by decide⟩

theorem isPlain_fileName : Path.IsPlain (Bytes.ofString fileName) := by
  refine ⟨by decide, by decide, by decide⟩

theorem location_path (cwd : Path) :
    (path cwd).location = cwd.location ++ [Bytes.ofString fileName] :=
  Path.location_append_plain isPlain_fileName

/-- A configuration that is written into a directory is the one that is loaded there. -/
theorem load_of_writeText {t t' : FileTree} (hroot : t.kind? [] = some .directory) {cwd : Path}
    (isPretty : Bool) {c : Config} (h : t.writeText (path cwd) (c.toJson.text isPretty) = .ok t') :
    load t' cwd = .ok c := by
  have hexists : t'.exists? (path cwd) = true := FileTree.exists?_of_write hroot h
  have hread : t'.readText (path cwd) = .ok (c.toJson.text isPretty) :=
    FileTree.readText_of_writeText hroot h
  rw [load, if_pos hexists, hread]
  simp only [decode_toJson_text]

end DartTriggers.Config
