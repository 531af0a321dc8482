import Mathlib.Data.Set.List
import DartTriggers.Proofs.Command.Refusal
import DartTriggers.Proofs.Command.Settled
import DartTriggers.Proofs.FileTree.Spelled
/-!
A run on a directory is the sum of the runs on its descriptors, one after the other and in any
order.
-/

namespace DartTriggers.Generate

section

variable {before tree : FileTree} {runner : Runner} {cwd : Path} {args : Args} {p : Plan}

/-- The plan for one descriptor alone, which is generated as by the plan for all of them. -/
def Plan.single (p : Plan) (tree : FileTree) (descriptor : Path) : Plan :=
  { p with input := descriptor, descriptors := [descriptor], base := basePath tree descriptor }

theorem plan_single (hplan : plan before runner cwd args = .ok p) {config : Config}
    (hbefore : Config.load before cwd = .ok config) (hconfig : Config.load tree cwd = .ok config)
    {path : String} (hfile : tree.isFile (cwd.appendString path) = true) :
    plan tree runner cwd { args with path := some path } =
      .ok (p.single tree (cwd.appendString path)) := by
  have hdescriptors := FileTree.descriptors?_of_isFile hfile
  have hvariant : chooseVariant config { args with path := some path } =
      chooseVariant config args := rfl
  have hinput : inputPath config { args with path := some path } cwd =
      cwd.appendString path := rfl
  unfold plan at hplan ⊢
  simp only [hbefore, hconfig, hvariant, hinput, hdescriptors] at hplan ⊢
  cases hchoose : chooseVariant config args with
  | error e =>
      rw [hchoose] at hplan
      cases hplan
  | ok variant =>
      simp only [hchoose] at hplan ⊢
      split at hplan
      · cases hplan
      · obtain rfl := Except.ok.inj hplan
        rfl

theorem Plan.carryOut_of_singleton {p : Plan} {d : Path} (h : p.descriptors = [d])
    (colored : Bool) (tree : FileTree) :
    (p.carryOut colored tree).tree = (p.generate tree d).tree ∧
      ((p.carryOut colored tree).result = .ok () ↔
        (p.generate tree d).result.toOption.isSome = true) := by
  simp only [Plan.carryOut, Plan.generateAll, h, List.foldl_cons, List.foldl_nil, Plan.advance,
    true_and]
  cases (p.generate tree d).result.toOption.isSome <;> simp

theorem Plan.refusal?_single (p : Plan) (tree : FileTree) (d : Path) :
    (p.single tree d).refusal? = none := by
  have hcollision (dir : Path) : collisionAfter p.options dir [] [d] = none := by
    unfold collisionAfter
    cases UnitName.ofPath? d <;> rfl
  simp only [Plan.refusal?, Plan.single, hcollision]
  cases p.outDir <;> simp

theorem run_single (colored : Bool) (hplan : plan before runner cwd args = .ok p)
    {config : Config} (hbefore : Config.load before cwd = .ok config)
    (hconfig : Config.load tree cwd = .ok config) {path : String}
    (hfile : tree.isFile (cwd.appendString path) = true) :
    let after := run tree runner colored cwd { args with path := some path }
    let generated := p.generate tree (cwd.appendString path)
    after.tree = generated.tree ∧
      (after.result = .ok () ↔ generated.result.toOption.isSome = true) := by
  intro after generated
  have hsingle := plan_single hplan hbefore hconfig hfile
  rcases run_eq_of_plan colored hsingle with ⟨-, htree, hresult⟩ | ⟨e, hrefusal, -⟩
  · have hcarryOut :=
      (p.single tree (cwd.appendString path)).carryOut_of_singleton rfl colored tree
    rw [← htree, ← hresult] at hcarryOut
    exact hcarryOut
  · rw [Plan.refusal?_single] at hrefusal
    cases hrefusal

/-- Runs the command on one path after the other; gives the tree after all of them and what each of
them answers. -/
def runEach (runner : Runner) (colored : Bool) (cwd : Path) (args : Args) (tree : FileTree) :
    List String → FileTree × List (Except Refusal Unit)
  | [] => (tree, [])
  | path :: paths =>
      let after := run tree runner colored cwd { args with path := some path }
      let rest := runEach runner colored cwd args after.tree paths
      (rest.1, after.result :: rest.2)

theorem Plan.Settled.runEach (colored : Bool) (hplain : p.Plain before)
    (hplan : plan before runner cwd args = .ok p) {config : Config}
    (hconfig : Config.load before cwd = .ok config)
    (hfiles : ∀ d ∈ p.descriptors, before.isFile d = true)
    (hroot : before.kind? [] = some .directory)
    (hkept : (p.prepare before).1.exists? (Config.path cwd) =
      before.exists? (Config.path cwd))
    {done : List Path} (h : p.Settled before done tree) (hdone : ∀ d ∈ done, d ∈ p.descriptors)
    {paths : List String} (hpaths : ∀ path ∈ paths, cwd.appendString path ∈ p.descriptors) :
    let each := runEach runner colored cwd args tree paths
    p.Settled before (done ++ paths.map cwd.appendString) each.1 ∧
      ((∀ result ∈ each.2, result = .ok ()) ↔
        ∀ path ∈ paths, (p.output? before (cwd.appendString path)).isSome = true) := by
  induction paths generalizing done tree with
  | nil =>
      rw [List.map_nil, List.append_nil]
      exact ⟨h, iff_of_true (List.forall_mem_nil _) (List.forall_mem_nil _)⟩
  | cons path paths ih =>
      rw [List.forall_mem_cons] at hpaths
      obtain ⟨htree, hresult⟩ := run_single colored hplan hconfig
        (h.load_config hplain hroot hkept hconfig)
        (h.isFile hplain hpaths.1 hdone (hfiles _ hpaths.1))
      obtain ⟨hnext, houtput⟩ := h.generate hplain hdone hpaths.1
      rw [← htree] at hnext
      have hdone' : ∀ d ∈ done ++ [cwd.appendString path], d ∈ p.descriptors := by
        intro d hd
        rcases List.mem_append.mp hd with hd | hd
        · exact hdone d hd
        · rw [List.mem_singleton.mp hd]
          exact hpaths.1
      obtain ⟨hrest, hresults⟩ := ih hnext hdone' hpaths.2
      rw [List.map_cons, List.append_cons]
      refine ⟨hrest, ?_⟩
      rw [List.forall_mem_cons, ← hresults, ← houtput, ← hresult]
      exact List.forall_mem_cons

end

theorem run_congr_path {tree : FileTree} {runner : Runner} (colored : Bool) {cwd : Path}
    {args : Args} {config : Config} (hconfig : Config.load tree cwd = .ok config) {path : String}
    (hpath : cwd.appendString path = inputPath config args cwd) :
    run tree runner colored cwd { args with path := some path } =
      run tree runner colored cwd args := by
  have hplan : plan tree runner cwd { args with path := some path } =
      plan tree runner cwd args := by
    have hvariant : chooseVariant config { args with path := some path } =
        chooseVariant config args := rfl
    have hinput : inputPath config { args with path := some path } cwd =
        inputPath config args cwd := hpath
    unfold plan
    simp only [hconfig, hvariant, hinput]
  unfold run
  rw [hplan]

section

variable {tree : FileTree} {runner : Runner} {cwd : Path} {args : Args} {p : Plan}

theorem Plan.Plain.settled_run (h : p.Plain tree) (hplan : plan tree runner cwd args = .ok p)
    (colored : Bool) :
    let after := run tree runner colored cwd args
    p.Settled tree p.descriptors after.tree ∧
      (after.result = .ok () ↔ ∀ d ∈ p.descriptors, (p.output? tree d).isSome = true) := by
  intro after
  rcases run_eq_of_plan colored hplan with ⟨-, htree, hresult⟩ | ⟨e, hrefusal, -⟩
  · obtain ⟨hsettled, hfailed⟩ := Plan.generateAll_of_step colored (p.Settled tree)
      (fun done tree d hsettled hdone hd => hsettled.generate h hdone hd) (.nil p tree)
    refine ⟨?_, ?_⟩
    · rw [htree]
      exact hsettled
    · rw [hresult]
      exact Plan.result_carryOut_eq_ok_iff hfailed
  · rw [Plan.refusal?_eq_none h.extension h.unit h.apart] at hrefusal
    cases hrefusal

/-- The tree after all runs and the one after the single run are known from the descriptors that
are done. -/
theorem Plan.Plain.runEach (h : p.Plain tree) (hplan : plan tree runner cwd args = .ok p)
    (colored : Bool) {config : Config} (hconfig : Config.load tree cwd = .ok config)
    (hfiles : ∀ d ∈ p.descriptors, tree.isFile d = true)
    (hroot : tree.kind? [] = some .directory)
    (hkept : (p.prepare tree).1.exists? (Config.path cwd) = tree.exists? (Config.path cwd))
    {paths : List String} (hpaths : (paths.map cwd.appendString).Perm p.descriptors) :
    let whole := run tree runner colored cwd args
    let each := Generate.runEach runner colored cwd args tree paths
    each.1 = whole.tree ∧ (whole.result = .ok () ↔ ∀ result ∈ each.2, result = .ok ()) ∧
      ∀ path ∈ paths, ∀ unit, UnitName.ofPath? (cwd.appendString path) = some unit →
        let single := run tree runner colored cwd { args with path := some path }
        whole.tree.content? (p.target (cwd.appendString path) unit).location =
          single.tree.content? (p.target (cwd.appendString path) unit).location := by
  intro whole each
  have hmem : ∀ path ∈ paths, cwd.appendString path ∈ p.descriptors :=
    fun path hpath => hpaths.mem_iff.mp (List.mem_map_of_mem hpath)
  obtain ⟨hwhole, hresult⟩ := h.settled_run hplan colored
  obtain ⟨heach, hresults⟩ := Plan.Settled.runEach colored h hplan hconfig hfiles hroot hkept
    (.nil p tree) (List.forall_mem_nil _) hmem
  refine ⟨(heach.of_perm hpaths).unique hwhole, ?_, ?_⟩
  · rw [hresult, hresults]
    simp only [← hpaths.mem_iff, List.forall_mem_map]
  · intro path hpath unit hunit single
    have hd := hmem path hpath
    obtain ⟨htree, -⟩ := run_single colored hplan hconfig hconfig (hfiles _ hd)
    obtain ⟨hsingle, -⟩ := (Plan.Settled.nil p tree).generate h (List.forall_mem_nil _) hd
    rw [← htree, List.nil_append] at hsingle
    rw [hwhole.content?_target h (fun _ hd => hd) hd hunit,
      hsingle.content?_target h (List.forall_mem_singleton.mpr hd) (List.mem_singleton_self _)
        hunit]

end

theorem exists_paths {tree : FileTree} {cwd : Path} {args : Args} {config : Config}
    {variant : Variant} {descriptors : List Path}
    (hresolved : Resolved tree cwd args config variant descriptors)
    (hnames : ∀ names, tree.kind? names ≠ none → ∀ name ∈ names,
      ∃ text, Bytes.ofString text = name.bytes) :
    ∃ paths : List String, paths.map cwd.appendString = descriptors := by
  have hinput : ∃ input, inputPath config args cwd = cwd.appendString input := by
    unfold inputPath
    cases args.path with
    | none => exact ⟨config.srcDir, rfl⟩
    | some path => exact ⟨path, rfl⟩
  obtain ⟨input, hinput⟩ := hinput
  have hfind := hresolved.find
  rw [hinput] at hfind
  have hall := FileTree.exists_appendString_of_mem_descriptors? hfind hnames
  have hrange : descriptors ∈ Set.range (List.map cwd.appendString) := by
    rw [Set.range_list_map]
    exact hall
  exact hrange

theorem runEach_of_single {tree : FileTree} (runner : Runner) (colored : Bool) {cwd : Path}
    {args : Args} {config : Config} (hconfig : Config.load tree cwd = .ok config)
    {paths : List String}
    (hpaths : (paths.map cwd.appendString).Perm [inputPath config args cwd]) :
    ∃ path, paths = [path] ∧ run tree runner colored cwd { args with path := some path } =
      run tree runner colored cwd args := by
  obtain ⟨path, rfl, hpath⟩ := List.map_eq_singleton_iff.mp (List.perm_singleton.mp hpaths)
  exact ⟨path, rfl, run_congr_path colored hconfig hpath⟩

/-- A run on a directory does what the runs on its descriptors do, one after the other and in any
order; it succeeds exactly if all of them do, and the file of each descriptor is what its own run
makes of it. Where output goes to one directory no two descriptors may have one unit, and making
that directory must not bring anything into being where the configuration would be. -/
theorem run_eq_runEach {tree : FileTree} (runner : Runner) (colored : Bool) {cwd : Path}
    {args : Args} {config : Config} {variant : Variant} {descriptors : List Path}
    (hresolved : Resolved tree cwd args config variant descriptors) (hunit : args.unit = none)
    (hstdout : args.toStdout = false) (hformat : args.noFormat = true)
    (hunits : (args.outDir.or config.outDir).isSome → descriptors.Pairwise Apart)
    (hkept : ∀ out, args.outDir.or config.outDir = some out →
      (tree.makeDirectories (cwd.appendString out)).1.exists? (Config.path cwd) =
        tree.exists? (Config.path cwd)) :
    ((∀ names, tree.kind? names ≠ none → ∀ name ∈ names,
        ∃ text, Bytes.ofString text = name.bytes) →
      ∃ paths : List String, paths.map cwd.appendString = descriptors) ∧
    ∀ paths : List String, (paths.map cwd.appendString).Perm descriptors →
      let whole := run tree runner colored cwd args
      let each := runEach runner colored cwd args tree paths
      each.1 = whole.tree ∧
      (whole.result = .ok () ↔ ∀ result ∈ each.2, result = .ok ()) ∧
      ∀ path ∈ paths, ∀ unit, UnitName.ofPath? (cwd.appendString path) = some unit →
        let single := run tree runner colored cwd { args with path := some path }
        let target := unitFile { variant } unit
          (((args.outDir.or config.outDir).map cwd.appendString).getD
            ((cwd.appendString path).parent?.getD ⟨Path.dot⟩))
        whole.tree.content? target.location = single.tree.content? target.location := by
  refine ⟨exists_paths hresolved, fun paths hpaths => ?_⟩
  rcases FileTree.descriptors?_cases hresolved.find with ⟨hinput, -⟩ | ⟨here, -, hhere, -⟩
  · -- A run on a single file is its own run.
    rw [hinput] at hpaths
    obtain ⟨path, rfl, hrun⟩ := runEach_of_single runner colored hresolved.load hpaths
    refine ⟨by simp [runEach, hrun], by simp [runEach, hrun], ?_⟩
    intro path' hpath' unit _
    rw [List.mem_singleton.mp hpath', hrun]
  · have hroot : tree.kind? [] = some .directory := by
      cases here with
      | nil => exact hhere
      | cons name here =>
          exact FileTree.kind?_eq_directory_of_append (t := tree) (List.cons_ne_nil name here)
            (by rw [List.nil_append, hhere]; exact Option.some_ne_none _)
    obtain ⟨p, hplan, hmade, hoptions, rfl⟩ := exists_plan hresolved runner
    have houtDir := hmade.outDir
    have hplain : p.Plain tree :=
      { unit := by rw [hmade.unit, hunit, Option.map_none]
        toStdout := hmade.toStdout.trans hstdout
        formatter := by rw [hmade.formatter, hformat, if_pos rfl]
        extension := hmade.extension
        found := found_of_descriptors? hroot hresolved.find
        apart := fun hsome => hunits <| by rwa [houtDir, Option.isSome_map] at hsome }
    have hkept' : (p.prepare tree).1.exists? (Config.path cwd) =
        tree.exists? (Config.path cwd) := by
      unfold Plan.prepare
      rw [houtDir]
      cases hout : args.outDir.or config.outDir with
      | none => rfl
      | some out => exact hkept out hout
    have hsum := hplain.runEach hplan colored hresolved.load
      (fun d hd => FileTree.isFile_of_mem_descriptors? hresolved.find hd) hroot hkept' hpaths
    simp only [Plan.target, hoptions, houtDir] at hsum
    exact hsum

theorem run_eq_runEach_halfWritten :
    let runner : Runner := fun _ _ tree => ⟨tree, "", "", .exited 0⟩
    let args : Args := { outDir := some "gen", noFormat := true }
    let whole := run halfWritten runner false (Path.ofString "/") args
    let each := runEach runner false (Path.ofString "/") args halfWritten
      ["./b.trigger.json", "./a.trigger.json"]
    each.1 = whole.tree ∧ (whole.result = .ok () ↔ ∀ result ∈ each.2, result = .ok ()) := by
  intro runner args whole each
  have hresolved : Resolved halfWritten (Path.ofString "/") args {} .extended
      [Path.ofString "/./a.trigger.json", Path.ofString "/./b.trigger.json"] :=
    ⟨rfl, rfl, rfl⟩
  have hunits : [Path.ofString "/./a.trigger.json", Path.ofString "/./b.trigger.json"].Pairwise
      Apart :=
    (@collisionAfter_eq_none_iff {} rfl (Path.ofString "/gen") _).mp (by decide +kernel)
  have hkept : ∀ out, args.outDir.or none = some out →
      (halfWritten.makeDirectories ((Path.ofString "/").appendString out)).1.exists?
          (Config.path (Path.ofString "/")) =
        halfWritten.exists? (Config.path (Path.ofString "/")) := by
    intro out hout
    obtain rfl := Option.some.inj hout
    decide +kernel
  obtain ⟨-, hsum⟩ :=
    run_eq_runEach runner false hresolved rfl rfl rfl (fun _ => hunits) hkept
  obtain ⟨htree, hresult, -⟩ := hsum ["./b.trigger.json", "./a.trigger.json"]
    (List.Perm.swap (Path.ofString "/./a.trigger.json") (Path.ofString "/./b.trigger.json") [])
  exact ⟨htree, hresult⟩

/-- A tree with two descriptors. -/
def pair : FileTree :=
  (FileTree.empty.putFile [⟨Bytes.ofString "first.trigger.json", by decide⟩]
    "\x7b\x7d".toUTF8).putFile [⟨Bytes.ofString "second.trigger.json", by decide⟩] "\x7b\x7d".toUTF8

/-- Where the directory for units has the name of the configuration, only the first run on a single
descriptor finds no configuration. -/
theorem run_ne_runEach_pair :
    let runner : Runner := fun _ _ tree => ⟨tree, "", "", .exited 0⟩
    let args : Args := { outDir := some Config.fileName, noFormat := true }
    let descriptors :=
      [Path.ofString "/./first.trigger.json", Path.ofString "/./second.trigger.json"]
    let paths := ["./first.trigger.json", "./second.trigger.json"]
    let whole := run pair runner false (Path.ofString "/") args
    let each := runEach runner false (Path.ofString "/") args pair paths
    Resolved pair (Path.ofString "/") args {} .extended descriptors ∧
      descriptors.Pairwise Apart ∧ paths.map (Path.ofString "/").appendString = descriptors ∧
      whole.result = .ok () ∧
      each.2 = [.ok (), .error (.config (.file .isDirectory))] ∧ each.1 ≠ whole.tree := by
  intro runner args descriptors paths whole each
  have hapart : descriptors.Pairwise Apart :=
    (@collisionAfter_eq_none_iff {} rfl (Path.ofString "/gen") _).mp (by decide +kernel)
  refine ⟨⟨rfl, rfl, rfl⟩, hapart, rfl, by decide +kernel, by decide +kernel, fun h => ?_⟩
  have hcontent := congrArg
    (FileTree.content? · [Bytes.ofString Config.fileName, Bytes.ofString "second.g.dart"]) h
  revert hcontent
  decide +kernel

end DartTriggers.Generate
