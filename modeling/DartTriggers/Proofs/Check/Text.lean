import DartTriggers.Proofs.Check.Reports
/-!
A text report line by line: the lines before and after what is told of the files, and the pieces
that this consists of, with the diagnostics that they show.
-/

namespace DartTriggers.Check

/-- A text as it is shown with the codes of its styles, where there are colours. -/
def styled (colored : Bool) (codes text : String) : String :=
  if colored then "\x1b[" ++ codes ++ "m" ++ text ++ "\x1b[0m" else text

/-- The line of a diagnostic: how severe it is, the rule that was not kept, the entity with its
attribute, if it is about one, and the message. -/
def lineOf (colored : Bool) (d : Diagnostic) : String :=
  let severity := match d.severity with
    | .error => styled colored "1;31" "error"
    | .warning => styled colored "1;33" "warning"
    | .info => styled colored "1;34" "info"
  let place := match d.attributeName with
    | none => d.entity
    | some name => d.entity ++ "." ++ name
  "  " ++ severity ++ " [" ++ d.rule ++ "] " ++ place ++ ": " ++ d.message ++ "\n"

theorem diagnosticLine_eq (colored : Bool) (d : Diagnostic) :
    diagnosticLine colored d = .out (lineOf colored d) := by
  have hlabel : severityLabel colored d.severity = match d.severity with
      | .error => styled colored "1;31" "error"
      | .warning => styled colored "1;33" "warning"
      | .info => styled colored "1;34" "info" := by
    cases d.severity <;> cases colored <;> rfl
  rw [diagnosticLine, hlabel]
  rfl

/-- What a piece of a text report tells. -/
inductive Piece where
  /-- The file that the diagnostics below are about. -/
  | heading (file : Path)
  | clean (file : Path)
  | diagnostic (file : Path) (d : Diagnostic)
  | suggestion (text : String)
  | gap
  /-- What was noticed while a file was loaded. -/
  | event (event : Log.Event)
  | failure (file : Path) (error : UnitError)

namespace Piece

def shown (colored : Bool) : Piece → Shown
  | .heading file => .out (file.display ++ "\n")
  | .clean file => .out (styled colored "32" "✓" ++ " " ++ file.display ++ "\n")
  | .diagnostic _ d => .out (lineOf colored d)
  | .suggestion text =>
      .out ("    " ++ styled colored "2" "💡" ++ " " ++ paint colored [.dimmed] text ++ "\n")
  | .gap => .out "\n"
  | .event e => .event e
  | .failure file e =>
      .err (styled colored "31" "✗" ++ " Failed to load " ++ file.display ++ ": " ++ e.message ++
        "\n")

/-- The diagnostic of a piece that shows one, with its file. -/
def finding? : Piece → Option (Path × Diagnostic)
  | .diagnostic file d => some (file, d)
  | _ => none

/-- A diagnostic and its suggestion, if there is one. -/
def ofDiagnostic (file : Path) (d : Diagnostic) : List Piece :=
  .diagnostic file d :: (d.suggestion.map suggestion).toList

def ofReport (verbose : Bool) (report : Report) : List Piece :=
  if report.diagnostics.isEmpty then if verbose then [.clean report.file] else []
  else
    .heading report.file ::
      (report.diagnostics.filter (isShown verbose)).flatMap (ofDiagnostic report.file) ++ [.gap]

def ofChecked (verbose : Bool) (c : Checked) : List Piece :=
  match c.outcome with
  | .error e => [.failure c.file e]
  | .ok found => found.events.map event ++ ofReport verbose ⟨c.file, found.value⟩

/-- The pieces of a text report on some descriptors, between its head and its totals. -/
def ofDescriptors (tree : FileTree) (verbose : Bool) (descriptors : List Path) : List Piece :=
  descriptors.flatMap fun d => ofChecked verbose (checkFile tree d)

theorem map_shown_ofDiagnostic (colored : Bool) (file : Path) (d : Diagnostic) :
    (ofDiagnostic file d).map (shown colored) =
      diagnosticLine colored d :: suggestionLines colored d := by
  rw [diagnosticLine_eq]
  cases hsuggestion : d.suggestion with
  | none => simp only [ofDiagnostic, suggestionLines, hsuggestion]; rfl
  | some text =>
      simp only [ofDiagnostic, suggestionLines, hsuggestion]
      cases colored <;> rfl

theorem map_shown_ofReport (colored verbose : Bool) (report : Report) :
    (ofReport verbose report).map (shown colored) = reportLines colored verbose report := by
  rw [ofReport, reportLines]
  split
  · cases verbose <;> cases colored <;> rfl
  · simp only [List.map_append, List.map_cons, List.map_flatMap, map_shown_ofDiagnostic]
    rfl

theorem map_shown_ofChecked (colored : Bool) {args : Args} (hformat : args.format ≠ "json")
    (c : Checked) :
    (ofChecked args.verbose c).map (shown colored) = checkedLines colored args c := by
  rw [ofChecked, checkedLines]
  cases c.outcome with
  | error e => cases colored <;> rfl
  | ok found =>
      simp only [if_neg hformat, List.map_append, map_shown_ofReport, List.map_map]
      rfl

theorem map_shown_ofDescriptors (colored : Bool) {args : Args} (hformat : args.format ≠ "json")
    (tree : FileTree) (descriptors : List Path) :
    (ofDescriptors tree args.verbose descriptors).map (shown colored) =
      (descriptors.map (checkFile tree)).flatMap (checkedLines colored args) := by
  rw [ofDescriptors, List.map_flatMap, List.flatMap_map]
  simp only [map_shown_ofChecked colored hformat]

theorem filterMap_finding?_ofDiagnostic (file : Path) (d : Diagnostic) :
    (ofDiagnostic file d).filterMap finding? = [(file, d)] := by
  obtain ⟨severity, rule, message, entity, name, _ | text⟩ := d <;> rfl

/-- The diagnostics shown of a report are those that are not held back. -/
theorem filterMap_finding?_ofReport (verbose : Bool) (report : Report) :
    (ofReport verbose report).filterMap finding? =
      (located [report]).filter fun f => isShown verbose f.2 := by
  have hlocated : (located [report]).filter (fun f => isShown verbose f.2) =
      (report.diagnostics.filter (isShown verbose)).map fun d => (report.file, d) := by
    simp [located, List.filter_map, Function.comp_def]
  rw [hlocated, ofReport]
  split
  · rename_i hempty
    rw [List.isEmpty_iff.mp hempty]
    cases verbose <;> rfl
  · have hheading : finding? (.heading report.file) = none := rfl
    have hgap : finding? .gap = none := rfl
    simp only [List.filterMap_append, List.filterMap_cons_none hheading,
      List.filterMap_cons_none hgap, List.filterMap_flatMap, filterMap_finding?_ofDiagnostic,
      List.filterMap_nil, List.append_nil]
    exact List.map_eq_flatMap.symm

theorem filterMap_finding?_ofChecked (verbose : Bool) (c : Checked) :
    (ofChecked verbose c).filterMap finding? =
      (located c.report?.toList).filter fun f => isShown verbose f.2 := by
  obtain ⟨file, e | found⟩ := c
  · rfl
  · have hevents : (found.events.map event).filterMap finding? = [] := by
      rw [List.filterMap_map]
      exact List.filterMap_eq_nil_iff.mpr fun _ _ => rfl
    rw [ofChecked, List.filterMap_append, hevents, List.nil_append, filterMap_finding?_ofReport]
    rfl

theorem filterMap_finding?_ofDescriptors (tree : FileTree) (verbose : Bool)
    (descriptors : List Path) :
    (ofDescriptors tree verbose descriptors).filterMap finding? =
      (located (loadedReports tree descriptors)).filter fun f => isShown verbose f.2 := by
  induction descriptors with
  | nil => rfl
  | cons d descriptors ih =>
      have hreports : loadedReports tree (d :: descriptors) =
          (report? tree d).toList ++ loadedReports tree descriptors := by
        rw [← List.singleton_append, loadedReports_append, loadedReports_singleton]
      rw [hreports, located_append, List.filter_append, ← ih, ← report?_checkFile,
        ← filterMap_finding?_ofChecked, ← List.filterMap_append]
      rfl

end Piece

/-- The lines before the pieces of a text. -/
def opening (colored : Bool) (input : Path) : Transcript :=
  [.out ("🔍 " ++ styled colored "1;32" "Starting" ++ " descriptor check\n"),
    .out ("   Input: " ++ input.display ++ "\n"), .out "\n"]

theorem headLines_eq (colored : Bool) (input : Path) :
    headLines colored input = opening colored input := by
  cases colored <;> rfl

/-- The lines at the end of a text: how much there is to object to, if there is anything. -/
def objections (colored : Bool) (errors warnings : Nat) : Transcript :=
  (if 0 < errors then
    [.out ("   " ++ styled colored "31" "Errors:" ++ " " ++ toString errors ++ "\n")] else []) ++
  (if 0 < warnings then
    [.out ("   " ++ styled colored "33" "Warnings:" ++ " " ++ toString warnings ++ "\n")]
    else []) ++
  (if errors = 0 ∧ warnings = 0 then
    [.out ("   " ++ styled colored "32" "✓" ++ " No issues found!\n")] else [])

theorem totalLines_eq (colored : Bool) (files : Nat) (t : Totals) :
    totalLines colored files t =
      [.out "\n",
        .out ("✨ " ++ styled colored (if 0 < t.errors then "1;31" else "1;32") "Done" ++
          " Check complete!\n"),
        .out ("   Files checked: " ++ toString files ++ "\n"),
        .out ("   Total diagnostics: " ++ toString t.diagnostics ++ "\n")] ++
      objections colored t.errors t.warnings := by
  unfold totalLines objections
  split <;> split <;> split <;> cases colored <;> rfl

end DartTriggers.Check
