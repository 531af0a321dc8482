import Mathlib.Data.List.Induction
import DartTriggers.CommandLine.Request
import DartTriggers.Proofs.Check.Text
/-!
The modes of a check. Whatever the form of the report and whether remarks are shown in it or not,
a check finds the same, counts the same and succeeds or fails alike.
-/

namespace DartTriggers.Check

theorem totals_concat (checked : List Checked) (c : Checked) :
    totals (checked ++ [c]) = (totals checked).addChecked c := by
  rw [totals, List.foldl_append]
  rfl

/-- How many descriptors cannot be loaded. -/
def unloadable (tree : FileTree) (descriptors : List Path) : Nat :=
  descriptors.countP fun d => !(Registry.load tree d).isOk

def errorsAmong (found : List (Path × Diagnostic)) : Nat :=
  found.countP fun f => f.2.severity == .error

def warningsAmong (found : List (Path × Diagnostic)) : Nat :=
  found.countP fun f => f.2.severity == .warning

/-- The totals of some descriptors, counted from what is found in them. -/
def tally (tree : FileTree) (descriptors : List Path) : Totals :=
  let found := located (loadedReports tree descriptors)
  { diagnostics := found.length
    errors := unloadable tree descriptors + errorsAmong found
    warnings := warningsAmong found }

theorem unloadable_concat (tree : FileTree) (descriptors : List Path) (d : Path) :
    unloadable tree (descriptors ++ [d]) =
      unloadable tree descriptors + if (Registry.load tree d).isOk then 0 else 1 := by
  rw [unloadable, List.countP_append, List.countP_singleton]
  cases (Registry.load tree d).isOk <;> rfl

/-- A descriptor is loaded or not. -/
theorem unloadable_add_length (tree : FileTree) (descriptors : List Path) :
    unloadable tree descriptors + (loadedReports tree descriptors).length = descriptors.length := by
  have hloaded : (loadedReports tree descriptors).length =
      descriptors.countP fun d => (Registry.load tree d).isOk := by
    rw [loadedReports, List.length_filterMap_eq_countP]
    congr 1
    funext d
    rw [report?]
    cases Registry.load tree d <;> rfl
  have hsplit := List.length_eq_countP_add_countP (fun d => (Registry.load tree d).isOk)
    (l := descriptors)
  rw [hloaded, hsplit, unloadable, Nat.add_comm]
  simp

theorem tally_concat (tree : FileTree) (descriptors : List Path) (d : Path) :
    tally tree (descriptors ++ [d]) = (tally tree descriptors).addChecked (checkFile tree d) := by
  have hlocated : located (loadedReports tree (descriptors ++ [d])) =
      located (loadedReports tree descriptors) ++ located (report? tree d).toList := by
    rw [loadedReports_append, located_append, loadedReports_singleton]
  cases hload : Registry.load tree d with
  | error e =>
      have hnone : report? tree d = none := by rw [report?, hload]; rfl
      have hmore : unloadable tree (descriptors ++ [d]) = unloadable tree descriptors + 1 := by
        rw [unloadable_concat, hload]
        rfl
      simp [tally, Totals.addChecked, checkFile, hload, hlocated, hnone, hmore,
        Nat.add_right_comm]
  | ok loaded =>
      have hsome : report? tree d = some ⟨d, all loaded.value⟩ := by rw [report?, hload]; rfl
      have hmore : unloadable tree (descriptors ++ [d]) = unloadable tree descriptors := by
        rw [unloadable_concat, hload]
        rfl
      simp [tally, Totals.addChecked, Totals.add, checkFile, hload, hlocated, hsome, hmore,
        errorsAmong, warningsAmong, Diagnostic.isError, List.countP_map, Function.comp_def,
        ← List.countP_eq_length_filter, Nat.add_assoc]

theorem totals_checkFile (tree : FileTree) (descriptors : List Path) :
    totals (descriptors.map (checkFile tree)) = tally tree descriptors := by
  induction descriptors using List.reverseRecOn with
  | nil => rfl
  | append_singleton descriptors d ih =>
      rw [List.map_append, List.map_singleton, totals_concat, ih, tally_concat]

theorem exists_descriptors? {tree : FileTree} {input : Path} (h : tree.exists? input = true) :
    ∃ descriptors, tree.descriptors? input = some descriptors := by
  rw [FileTree.exists?] at h
  rw [FileTree.descriptors?]
  cases hnode : tree.node input with
  | error e => simp [hnode, Except.toOption] at h
  | ok node => cases node <;> exact ⟨_, rfl⟩

open CommandLine in
/-- All modes of a check agree on some descriptors, which stand for an input. -/
structure ModesAgree (s : Setting) (path : Option String) (input : Path)
    (descriptors : List Path) (found : List (Path × Diagnostic)) (faults : Nat) : Prop where
  /-- No mode changes a file. -/
  tree : ∀ verbose format,
    (Request.run s (.check { path, verbose, format })).tree = s.tree
  /-- In every mode the command fails for the same faults, if there are any. -/
  refusal : ∀ verbose format,
    (Request.run s (.check { path, verbose, format })).refusal =
      if faults = 0 then none else some (toString faults ++ " errors found")
  /-- In JSON everything that is found is an element of the one array. -/
  json : ∀ verbose,
    (Request.run s (.check { path, verbose, format := "json" })).transcript.out =
      (Json.array (found.map element)).pretty ++ "\n"
  /-- A text tells its pieces, and then that there are as many diagnostics as there are elements. -/
  text : ∀ verbose format, format ≠ "json" →
    (Request.run s (.check { path, verbose, format })).transcript =
      opening s.colored input ++
      (Piece.ofDescriptors s.tree verbose descriptors).map (Piece.shown s.colored) ++
      ([.out "\n",
        .out ("✨ " ++ styled s.colored (if 0 < faults then "1;31" else "1;32") "Done" ++
          " Check complete!\n"),
        .out ("   Files checked: " ++ toString descriptors.length ++ "\n"),
        .out ("   Total diagnostics: " ++ toString (found.map element).length ++ "\n")] ++
      objections s.colored faults (warningsAmong found))
  /-- A verbose text has a line for each of the elements, in their order. -/
  verbose : (Piece.ofDescriptors s.tree true descriptors).filterMap Piece.finding? = found
  /-- A text that is not verbose has the same lines, except for those of remarks. -/
  quiet : (Piece.ofDescriptors s.tree false descriptors).filterMap Piece.finding? =
    found.filter fun f => f.2.severity != .info

section

variable {tree : FileTree} {cwd : Path} {args : Args} {config : Config} {descriptors : List Path}
  (hconfig : Config.load tree cwd = .ok config)
  (hdescriptors : tree.descriptors? (inputPath config args cwd) = some descriptors)
  (colored : Bool)

include hconfig hdescriptors

theorem result_runCommand :
    (runCommand tree colored cwd args).result =
      if (tally tree descriptors).errors = 0 then .ok ()
      else .error (.errorsFound (tally tree descriptors).errors) := by
  rw [runCommand_eq_checkAll hconfig hdescriptors]
  simp only [checkAll, totals_checkFile]

theorem transcript_runCommand_text (hformat : args.format ≠ "json") :
    (runCommand tree colored cwd args).transcript =
      opening colored (inputPath config args cwd) ++
        (Piece.ofDescriptors tree args.verbose descriptors).map (Piece.shown colored) ++
        totalLines colored descriptors.length (tally tree descriptors) := by
  rw [runCommand_eq_checkAll hconfig hdescriptors]
  simp only [checkAll, if_neg hformat, headLines_eq, totals_checkFile,
    Piece.map_shown_ofDescriptors colored hformat]

end

theorem transcript_run_check (s : CommandLine.Setting) (args : Args) :
    (CommandLine.Request.run s (.check args)).transcript =
      (runCommand s.tree s.colored s.cwd args).transcript := by
  simp only [CommandLine.Request.run]
  cases (runCommand s.tree s.colored s.cwd args).result <;> rfl

theorem tree_run_check (s : CommandLine.Setting) (args : Args) :
    (CommandLine.Request.run s (.check args)).tree = s.tree := by
  simp only [CommandLine.Request.run]
  cases (runCommand s.tree s.colored s.cwd args).result <;> rfl

theorem refusal_run_check {s : CommandLine.Setting} {args : Args} {errors : Nat}
    (h : (runCommand s.tree s.colored s.cwd args).result =
      if errors = 0 then .ok () else .error (.errorsFound errors)) :
    (CommandLine.Request.run s (.check args)).refusal =
      if errors = 0 then none else some (toString errors ++ " errors found") := by
  simp only [CommandLine.Request.run, h]
  by_cases hnone : errors = 0
  · rw [if_pos hnone, if_pos hnone]
    rfl
  · rw [if_neg hnone, if_neg hnone]
    rfl

/-- All modes of the command agree on an input that exists: on what is found, on what counts
against it, and on whether the command fails. -/
theorem run_check_modesAgree (s : CommandLine.Setting) (path : Option String) (config : Config)
    (hconfig : Config.load s.tree s.cwd = .ok config)
    (hinput : s.tree.exists? (inputPath config { path } s.cwd) = true) :
    ∃ descriptors, s.tree.descriptors? (inputPath config { path } s.cwd) = some descriptors ∧
      ModesAgree s path (inputPath config { path } s.cwd) descriptors
        (located (loadedReports s.tree descriptors))
        (unloadable s.tree descriptors +
          errorsAmong (located (loadedReports s.tree descriptors))) := by
  obtain ⟨descriptors, hdescriptors⟩ := exists_descriptors? hinput
  refine ⟨descriptors, hdescriptors, ?_⟩
  -- The input is the same in all modes.
  have hfind (verbose : Bool) (format : String) :
      s.tree.descriptors? (inputPath config { path, verbose, format } s.cwd) = some descriptors :=
    hdescriptors
  constructor
  case tree => exact fun verbose format => tree_run_check s { path, verbose, format }
  case refusal =>
    intro verbose format
    exact refusal_run_check (result_runCommand hconfig (hfind verbose format) s.colored)
  case json =>
    intro verbose
    rw [transcript_run_check, out_runCommand_json hconfig (hfind verbose "json") s.colored rfl,
      renderJson, jsonEntries_eq]
  case text =>
    intro verbose format hformat
    rw [transcript_run_check,
      transcript_runCommand_text hconfig (hfind verbose format) s.colored hformat, totalLines_eq,
      List.length_map]
    rfl
  case verbose =>
    rw [Piece.filterMap_finding?_ofDescriptors]
    exact List.filter_eq_self.mpr fun _ _ => rfl
  case quiet =>
    exact Piece.filterMap_finding?_ofDescriptors s.tree false descriptors

def mixedSetting : CommandLine.Setting where
  tree := mixed
  cwd := .ofString "/"
  runner _ _ tree := ⟨tree, "", "", .exited 0⟩
  colored := false
  time := ""
  filter := []

theorem run_check_modesAgree_mixed :
    let found := [(Path.ofString "/./empty.trigger.json", Rule.noAttributes "A"),
      (Path.ofString "/./repeated.trigger.json", Rule.repeatedAttribute "A" "x"),
      (Path.ofString "/./reserved.trigger.json", Rule.reservedName "A" "is")]
    ModesAgree mixedSetting none (.ofString "/.") mixedPaths found 2 ∧
      .out "   Total diagnostics: 3\n" ∈
        (CommandLine.Request.run mixedSetting (.check {})).transcript := by
  intro found
  obtain ⟨descriptors, hdescriptors, hagree⟩ :=
    run_check_modesAgree mixedSetting none {} rfl (by decide +kernel)
  obtain rfl : mixedPaths = descriptors := Option.some.inj (Eq.trans rfl hdescriptors)
  have hunloadable : unloadable mixed mixedPaths = 1 := by
    have hlength := unloadable_add_length mixed mixedPaths
    rw [loadedReports_mixed] at hlength
    exact Nat.add_right_cancel hlength
  have hinput : inputPath {} {} (.ofString "/") = .ofString "/." := by decide +kernel
  change ModesAgree mixedSetting none (inputPath {} {} (.ofString "/")) mixedPaths
    (located (loadedReports mixed mixedPaths)) (unloadable mixed mixedPaths +
      errorsAmong (located (loadedReports mixed mixedPaths))) at hagree
  rw [hunloadable, loadedReports_mixed, hinput] at hagree
  have hmixed : ModesAgree mixedSetting none (.ofString "/.") mixedPaths found 2 := hagree
  have hline : "   Total diagnostics: " ++ toString (found.map element).length ++ "\n" =
      "   Total diagnostics: 3\n" := by decide +kernel
  refine ⟨hmixed, ?_⟩
  rw [hmixed.text false "text" (by decide), ← hline]
  exact List.mem_append_right _ (List.mem_append_left _ (by simp))

end DartTriggers.Check
