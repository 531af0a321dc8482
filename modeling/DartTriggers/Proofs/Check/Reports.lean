import DartTriggers.Command.Check
import DartTriggers.Proofs.Log.Outputs
/-!
What a check finds: the reports of the descriptors that can be loaded, and their diagnostics, each
with the file that it is about.
-/

namespace DartTriggers.Check

/-- The diagnostics of some reports in their order, each with the file of its report. -/
def located (reports : List Report) : List (Path × Diagnostic) :=
  reports.flatMap fun report => report.diagnostics.map fun d => (report.file, d)

theorem located_append (reports more : List Report) :
    located (reports ++ more) = located reports ++ located more :=
  List.flatMap_append

@[simp]
theorem located_nil : located [] = [] :=
  rfl

@[simp]
theorem located_singleton (report : Report) :
    located [report] = report.diagnostics.map fun d => (report.file, d) :=
  List.flatMap_singleton _ _

/-- The element that stands for a diagnostic of a file in the array of a JSON report. -/
def element (found : Path × Diagnostic) : Json :=
  .object (("file", .string found.1.display) :: found.2.jsonMembers)

theorem jsonEntries_eq (reports : List Report) :
    jsonEntries reports = (located reports).map element := by
  rw [jsonEntries, located, List.map_flatMap]
  simp only [List.map_map]
  rfl

/-- The report of a descriptor, if it can be loaded. -/
def report? (tree : FileTree) (descriptor : Path) : Option Report :=
  (Registry.load tree descriptor).toOption.map fun loaded => ⟨descriptor, all loaded.value⟩

/-- The reports of the descriptors that can be loaded, in their order. -/
def loadedReports (tree : FileTree) (descriptors : List Path) : List Report :=
  descriptors.filterMap (report? tree)

theorem loadedReports_append (tree : FileTree) (descriptors more : List Path) :
    loadedReports tree (descriptors ++ more) =
      loadedReports tree descriptors ++ loadedReports tree more :=
  List.filterMap_append

theorem loadedReports_singleton (tree : FileTree) (descriptor : Path) :
    loadedReports tree [descriptor] = (report? tree descriptor).toList := by
  rw [loadedReports, List.filterMap_cons]
  cases report? tree descriptor <;> rfl

theorem report?_checkFile (tree : FileTree) (descriptor : Path) :
    (checkFile tree descriptor).report? = report? tree descriptor := by
  rw [checkFile, report?]
  cases Registry.load tree descriptor <;> rfl

theorem filterMap_checkFile (tree : FileTree) (descriptors : List Path) :
    (descriptors.map (checkFile tree)).filterMap Checked.report? =
      loadedReports tree descriptors := by
  have hcomp : Checked.report? ∘ checkFile tree = report? tree :=
    funext (report?_checkFile tree)
  rw [List.filterMap_map, hcomp, loadedReports]

section

variable {tree : FileTree} {cwd : Path} {args : Args} {config : Config} {descriptors : List Path}
  (hconfig : Config.load tree cwd = .ok config)
  (hdescriptors : tree.descriptors? (inputPath config args cwd) = some descriptors)
  (colored : Bool)

include hconfig hdescriptors

theorem runCommand_eq_checkAll :
    runCommand tree colored cwd args =
      checkAll tree colored args
        (if args.format = "json" then [] else headLines colored (inputPath config args cwd))
        descriptors := by
  rw [runCommand, hconfig]
  simp only [hdescriptors]

/-- With JSON asked for, the standard output is one array and a new line. Descriptors that cannot
be loaded are told on the error output and leave no trace in it. -/
theorem out_runCommand_json (hformat : args.format = "json") :
    (runCommand tree colored cwd args).transcript.out =
      renderJson (loadedReports tree descriptors) ++ "\n" := by
  have hsilent : ∀ c ∈ descriptors.map (checkFile tree),
      Transcript.out (checkedLines colored args c) = "" := by
    intro c _
    rw [checkedLines]
    cases c.outcome <;> simp [hformat]
  rw [runCommand_eq_checkAll hconfig hdescriptors]
  simp only [checkAll, filterMap_checkFile, if_pos hformat, Transcript.out_append,
    Transcript.out_nil, Transcript.out_flatMap_eq_empty hsilent, Transcript.out_outLine,
    String.empty_append]

end

/-- A tree with descriptors of all kinds: one about which there is nothing to say, one each for a
remark, a warning and an error, and one that is cut short. -/
def mixed : FileTree :=
  let file (tree : FileTree) (name : Name) (text : String) : FileTree :=
    tree.putFile [name] text.toUTF8
  let clean := file .empty ⟨Bytes.ofString "clean.trigger.json", by decide⟩
    "\x7b\"entities\":[\x7b\"name\":\"A\",\"attributes\":[[\"x\",\"int\"]]\x7d]\x7d"
  let empty := file clean ⟨Bytes.ofString "empty.trigger.json", by decide⟩
    "\x7b\"entities\":[\x7b\"name\":\"A\",\"attributes\":[]\x7d]\x7d"
  let reserved := file empty ⟨Bytes.ofString "reserved.trigger.json", by decide⟩
    "\x7b\"entities\":[\x7b\"name\":\"A\",\"attributes\":[[\"is\",\"int\"]]\x7d]\x7d"
  let repeated := file reserved ⟨Bytes.ofString "repeated.trigger.json", by decide⟩
    "\x7b\"entities\":[\x7b\"name\":\"A\",\"attributes\":[[\"x\",\"int\"],[\"x\",\"int\"]]\x7d]\x7d"
  file repeated ⟨Bytes.ofString "broken.trigger.json", by decide⟩ "\x7b"

def mixedPaths : List Path :=
  [.ofString "/./broken.trigger.json", .ofString "/./clean.trigger.json",
    .ofString "/./empty.trigger.json", .ofString "/./repeated.trigger.json",
    .ofString "/./reserved.trigger.json"]

deriving instance DecidableEq for Report

theorem loadedReports_mixed :
    loadedReports mixed mixedPaths =
      [⟨.ofString "/./clean.trigger.json", []⟩,
        ⟨.ofString "/./empty.trigger.json", [Rule.noAttributes "A"]⟩,
        ⟨.ofString "/./repeated.trigger.json", [Rule.repeatedAttribute "A" "x"]⟩,
        ⟨.ofString "/./reserved.trigger.json", [Rule.reservedName "A" "is"]⟩] := by
  decide +kernel

end DartTriggers.Check
