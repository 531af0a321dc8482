import DartTriggers.Check.Rule
import DartTriggers.Command.Paint
import DartTriggers.Config
import DartTriggers.Descriptor.Files
/-!
The command that checks descriptors. It reads the tree and changes nothing. Its report is text,
with or without the remarks that are no problems, or one JSON array of everything.
-/

namespace DartTriggers.Check

/-- What is asked for. -/
structure Args where
  /-- The descriptor or directory, if not the configured one. -/
  path : Option String := none
  /-- Whether remarks are shown too. -/
  verbose : Bool := false
  /-- The form of the report; `json` is one, anything else is text. -/
  format : String := "text"
deriving DecidableEq, Repr, Inhabited

/-- Why the command fails. -/
inductive Refusal where
  | config (error : Config.LoadError)
  | missingInput (input : Path)
  | errorsFound (count : Nat)
deriving DecidableEq, Repr

def Refusal.message : Refusal → String
  | .config e => e.message
  | .missingInput input => "Input path does not exist: " ++ input.display
  | .errorsFound count => toString count ++ " errors found"

/-- What was found in a file. -/
structure Report where
  file : Path
  diagnostics : List Diagnostic

/-- What came of a file: a report, with the events of loading it, or an error. -/
structure Checked where
  file : Path
  outcome : Except UnitError (Logged (List Diagnostic))

def checkFile (tree : FileTree) (file : Path) : Checked :=
  ⟨file,
    match Registry.load tree file with
    | .error e => .error e
    | .ok loaded => .ok ⟨all loaded.value, loaded.events⟩⟩

namespace Checked

def report? (c : Checked) : Option Report :=
  match c.outcome with
  | .error _ => none
  | .ok found => some ⟨c.file, found.value⟩

end Checked

/-- The diagnostics of some reports, each with its file. -/
def jsonEntries (reports : List Report) : List Json :=
  reports.flatMap fun report =>
    report.diagnostics.map fun d =>
      .object (("file", .string report.file.display) :: d.jsonMembers)

/-- The reports as one JSON array. -/
def renderJson (reports : List Report) : String :=
  (Json.array (jsonEntries reports)).pretty

/-- The severity as it is shown. -/
def severityLabel (colored : Bool) : Severity → String
  | .error => paint colored [.bold, .red] "error"
  | .warning => paint colored [.bold, .yellow] "warning"
  | .info => paint colored [.bold, .blue] "info"

/-- The entity and, if it is one, the attribute in question. -/
def location (d : Diagnostic) : String :=
  match d.attributeName with
  | none => d.entity
  | some name => d.entity ++ "." ++ name

/-- The line of a diagnostic. -/
def diagnosticLine (colored : Bool) (d : Diagnostic) : Shown :=
  outLine ("  " ++ severityLabel colored d.severity ++ " [" ++ d.rule ++ "] " ++ location d ++
    ": " ++ d.message)

/-- The line of a suggestion, if there is one. -/
def suggestionLines (colored : Bool) (d : Diagnostic) : Transcript :=
  match d.suggestion with
  | none => []
  | some text =>
      [outLine ("    " ++ paint colored [.dimmed] "💡" ++ " " ++ paint colored [.dimmed] text)]

/-- Whether a diagnostic is shown in a text report. -/
def isShown (verbose : Bool) (d : Diagnostic) : Bool :=
  verbose || d.severity != .info

/-- The report of a file as text. -/
def reportLines (colored verbose : Bool) (report : Report) : Transcript :=
  if report.diagnostics.isEmpty then
    if verbose then [outLine (paint colored [.green] "✓" ++ " " ++ report.file.display)] else []
  else
    [outLine report.file.display] ++
      (report.diagnostics.filter (isShown verbose)).flatMap
        (fun d => diagnosticLine colored d :: suggestionLines colored d) ++
      [outLine ""]

/-- What is shown of a file as it is checked. -/
def checkedLines (colored : Bool) (args : Args) (c : Checked) : Transcript :=
  match c.outcome with
  | .error e =>
      [errLine (paint colored [.red] "✗" ++ " Failed to load " ++ c.file.display ++ ": " ++
        e.message)]
  | .ok found =>
      Transcript.ofEvents found.events ++
        if args.format = "json" then [] else reportLines colored args.verbose ⟨c.file, found.value⟩

/-- How many diagnostics there are, and how many of them count. -/
structure Totals where
  diagnostics : Nat := 0
  /-- Errors found, and files that cannot be loaded. -/
  errors : Nat := 0
  warnings : Nat := 0
deriving DecidableEq, Repr

namespace Totals

/-- The totals with the diagnostics of one more report. -/
def add (t : Totals) (diagnostics : List Diagnostic) : Totals :=
  { diagnostics := t.diagnostics + diagnostics.length
    errors := t.errors + (diagnostics.filter (·.isError)).length
    warnings := t.warnings + (diagnostics.filter fun d => d.severity == .warning).length }

/-- The totals with one more file; one that cannot be loaded counts as an error. -/
def addChecked (t : Totals) (c : Checked) : Totals :=
  match c.outcome with
  | .error _ => { t with errors := t.errors + 1 }
  | .ok found => t.add found.value

end Totals

/-- The totals of some files, kept while one after the other is checked. -/
def totals (checked : List Checked) : Totals :=
  checked.foldl Totals.addChecked {}

/-- The lines of the totals of some files. -/
def totalLines (colored : Bool) (files : Nat) (t : Totals) : Transcript :=
  let done := if 0 < t.errors then paint colored [.bold, .red] "Done"
    else paint colored [.bold, .green] "Done"
  [outLine "", outLine ("✨ " ++ done ++ " Check complete!"),
    outLine ("   Files checked: " ++ toString files),
    outLine ("   Total diagnostics: " ++ toString t.diagnostics)] ++
  (if 0 < t.errors then
    [outLine ("   " ++ paint colored [.red] "Errors:" ++ " " ++ toString t.errors)] else []) ++
  (if 0 < t.warnings then
    [outLine ("   " ++ paint colored [.yellow] "Warnings:" ++ " " ++ toString t.warnings)]
    else []) ++
  (if t.errors = 0 ∧ t.warnings = 0 then
    [outLine ("   " ++ paint colored [.green] "✓" ++ " No issues found!")] else [])

/-- The lines before the reports. -/
def headLines (colored : Bool) (input : Path) : Transcript :=
  [outLine ("🔍 " ++ paint colored [.bold, .green] "Starting" ++ " descriptor check"),
    outLine ("   Input: " ++ input.display), outLine ""]

/-- What a run shows and whether it succeeds. -/
structure Outcome where
  transcript : Transcript
  result : Except Refusal Unit

/-- The descriptor or directory that is asked for, or else the configured one. -/
def inputPath (config : Config) (args : Args) (cwd : Path) : Path :=
  match args.path with
  | some path => cwd.appendString path
  | none => config.srcPath cwd

/-- Checks descriptors, the lines before the reports having been shown. -/
def checkAll (tree : FileTree) (colored : Bool) (args : Args) (head : Transcript)
    (descriptors : List Path) : Outcome :=
  let checked := descriptors.map (checkFile tree)
  let t := totals checked
  let tail := if args.format = "json" then
      [outLine (renderJson (checked.filterMap Checked.report?))]
    else totalLines colored descriptors.length t
  ⟨head ++ checked.flatMap (checkedLines colored args) ++ tail,
    if t.errors = 0 then .ok () else .error (.errorsFound t.errors)⟩

/-- Runs the command. -/
def runCommand (tree : FileTree) (colored : Bool) (cwd : Path) (args : Args) : Outcome :=
  match Config.load tree cwd with
  | .error e => ⟨[], .error (.config e)⟩
  | .ok config =>
      let input := inputPath config args cwd
      let head := if args.format = "json" then [] else headLines colored input
      match tree.descriptors? input with
      | none => ⟨head, .error (.missingInput input)⟩
      | some descriptors => checkAll tree colored args head descriptors

end DartTriggers.Check
