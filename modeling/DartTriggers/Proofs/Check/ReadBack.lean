import Mathlib.Data.List.Forall2
import DartTriggers.Proofs.Check.Reports
import DartTriggers.Proofs.Json.Alternatives
import DartTriggers.Proofs.Json.Records
import DartTriggers.Proofs.Json.Values
/-!
Diagnostics read back from what is written of them: alone in both layouts, and as the elements of
a JSON report, where each has the name of its file beside its own members.
-/

namespace DartTriggers.Check

open Json (KnownField Fits)

namespace Diagnostic

def knownFields : List (KnownField Draft) :=
  [.of "level" false (Json.reads_choice Severity.names) (·.severity)
     (fun x draft => { draft with severity := some x }) fun _ _ => rfl,
   .of "rule" false Json.reads_text (·.rule) (fun x draft => { draft with rule := some x })
     fun _ _ => rfl,
   .of "message" false Json.reads_text (·.message)
     (fun x draft => { draft with message := some x }) fun _ _ => rfl,
   .of "entity" false Json.reads_text (·.entity)
     (fun x draft => { draft with entity := some x }) fun _ _ => rfl,
   .of "attribute" false (Json.reads_optional Json.reads_text) (·.attributeName)
     (fun x draft => { draft with attributeName := some x }) fun _ _ => rfl,
   .of "suggestion" false (Json.reads_optional Json.reads_text) (·.suggestion)
     (fun x draft => { draft with suggestion := some x }) fun _ _ => rfl]

theorem fields_eq : fields = knownFields.map (·.field) :=
  rfl

theorem reads_decoder : decoder.Reads (record.value? knownFields) :=
  Json.reads_record fields_eq

/-- An attribute that is missing is left out and a suggestion that is missing is null; both are
read as missing. -/
theorem value?_jsonMembers (d : Diagnostic) :
    record.value? knownFields (.object d.jsonMembers) = some d := by
  rcases d with ⟨severity, rule, message, entity, _ | name, _ | text⟩ <;>
    cases severity <;> rfl

theorem key_ne_file : ∀ k ∈ knownFields, k.field.key ≠ "file" := by
  simp [knownFields, KnownField.of, Json.RecordField.of]

theorem value?_element (found : Path × Diagnostic) :
    record.value? knownFields (element found) = some found.2 := by
  rw [element, Json.Record.value?_cons_of_unknown key_ne_file, value?_jsonMembers]

theorem fits_jsonMembers (d : Diagnostic) (levels : Nat) :
    ∀ m ∈ d.jsonMembers, Fits levels m.2 := by
  rcases d with ⟨severity, rule, message, entity, _ | name, _ | text⟩ <;>
    simp [jsonMembers, Fits.string, Fits.null]

theorem fits_element (found : Path × Diagnostic) (levels : Nat) :
    Fits (levels + 1) (element found) := by
  refine .object ?_
  rw [List.forall_mem_cons]
  exact ⟨.string levels _, found.2.fits_jsonMembers levels⟩

/-- The file of an element is in no other place than its first member. -/
theorem valuesOf_file_element (found : Path × Diagnostic) :
    Json.valuesOf "file" (("file", .string found.1.display) :: found.2.jsonMembers) =
      [.string found.1.display] := by
  obtain ⟨file, severity, rule, message, entity, _ | name, _ | text⟩ := found <;> rfl

theorem decode_element_text (isPretty : Bool) (found : Path × Diagnostic) :
    Json.decode decoder ((element found).text isPretty) = .ok found.2 :=
  Json.decode_text_eq_ok reads_decoder (fits_element found 126) (value?_element found) isPretty

theorem decode_toJson_text (isPretty : Bool) (d : Diagnostic) :
    Json.decode decoder (d.toJson.text isPretty) = .ok d :=
  Json.decode_text_eq_ok reads_decoder (.object (d.fits_jsonMembers 126)) d.value?_jsonMembers
    isPretty

end Diagnostic

section

variable (reports : List Report)

theorem fits_elements :
    Fits Json.levelLimit (.array ((located reports).map element)) := by
  refine .array ?_
  rw [List.forall_mem_map]
  exact fun found _ => Diagnostic.fits_element found 125

/-- The report is a document of one array, and its elements are those of the diagnostics. -/
theorem decode_any_renderJson :
    Json.decode .any (renderJson reports) = .ok (.array ((located reports).map element)) := by
  rw [renderJson, jsonEntries_eq]
  exact Json.decode_text_eq_ok Json.reads_any (fits_elements reports) rfl true

theorem decode_list_renderJson :
    Json.decode (.list Diagnostic.decoder) (renderJson reports) =
      .ok ((located reports).map (·.2)) := by
  have hitems := Json.listOf?_map Diagnostic.value?_element (located reports)
  rw [renderJson, jsonEntries_eq]
  exact Json.decode_text_eq_ok (Json.reads_list Diagnostic.reads_decoder) (fits_elements reports)
    hitems true

end

/-- A report in JSON loses nothing. Whatever the reports, their text is a document of one array
whose elements stand for the diagnostics in their order: each tells the file of its diagnostic, and
is read, in any layout, as the diagnostic itself. A diagnostic alone is read back too. A check in
this form that finds its descriptors shows the array and nothing else on the standard output. -/
theorem renderJson_readBack :
    (∀ reports : List Report, ∃ elements : List Json,
      Json.decode .any (renderJson reports) = .ok (.array elements) ∧
        List.Forall₂ (fun (found : Path × Diagnostic) v =>
            (∃ ms, v = .object ms ∧ Json.valuesOf "file" ms = [.string found.1.display]) ∧
              ∀ isPretty, Json.decode Diagnostic.decoder (v.text isPretty) = .ok found.2)
          (located reports) elements ∧
        Json.decode (.list Diagnostic.decoder) (renderJson reports) =
          .ok ((located reports).map (·.2))) ∧
    (∀ (d : Diagnostic) (isPretty : Bool),
      Json.decode Diagnostic.decoder (d.toJson.text isPretty) = .ok d) ∧
    ∀ (tree : FileTree) (colored : Bool) (cwd : Path) (args : Args) (config : Config)
      (descriptors : List Path), args.format = "json" → Config.load tree cwd = .ok config →
        tree.descriptors? (inputPath config args cwd) = some descriptors →
          (runCommand tree colored cwd args).transcript.out =
            renderJson (loadedReports tree descriptors) ++ "\n" := by
  refine ⟨fun reports => ?_, fun d isPretty => d.decode_toJson_text isPretty, ?_⟩
  · refine ⟨_, decode_any_renderJson reports, ?_, decode_list_renderJson reports⟩
    rw [List.forall₂_map_right_iff, List.forall₂_same]
    intro found _
    exact ⟨⟨_, rfl, Diagnostic.valuesOf_file_element found⟩,
      fun isPretty => Diagnostic.decode_element_text isPretty found⟩
  · intro tree colored cwd args config descriptors hformat hconfig hdescriptors
    exact out_runCommand_json hconfig hdescriptors colored hformat

theorem renderJson_readBack_mixed :
    (runCommand mixed false (.ofString "/") { format := "json" }).transcript.out =
        renderJson (loadedReports mixed mixedPaths) ++ "\n" ∧
      Json.decode (.list Diagnostic.decoder) (renderJson (loadedReports mixed mixedPaths)) =
        .ok [Rule.noAttributes "A", Rule.repeatedAttribute "A" "x",
          Rule.reservedName "A" "is"] := by
  obtain ⟨hreports, -, hrun⟩ := renderJson_readBack
  obtain ⟨elements, -, -, hlist⟩ := hreports (loadedReports mixed mixedPaths)
  refine ⟨?_, by rw [hlist, loadedReports_mixed]; rfl⟩
  exact hrun mixed false (.ofString "/") { format := "json" } {} mixedPaths rfl rfl
    (by decide +kernel)

end DartTriggers.Check
