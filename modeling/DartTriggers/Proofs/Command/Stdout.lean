import DartTriggers.Proofs.Command.Sum
import DartTriggers.Proofs.FileTree.Kept
import DartTriggers.Proofs.Log.Outputs
/-!
Units that are shown instead of written. Such a run is known from what each descriptor is in the
tree before it: nothing is changed, no program is run, and the sources that are shown are those that
a run without formatter writes.
-/

namespace DartTriggers.Generate

/-- The source that is generated for a descriptor, if it is loaded and has a unit: the one that is
named, or else the one that it is named after. -/
def source? (options : Options) (named : Option UnitName) (tree : FileTree) (descriptor : Path) :
    Option String :=
  match Registry.load tree descriptor, named.or (UnitName.ofPath? descriptor) with
  | .ok loaded, some unit => some (Dart.generateUnit options unit loaded.value)
  | _, _ => none

theorem Plan.unitOf_eq (p : Plan) (d : Path) :
    p.unitOf d =
      match p.unit.or (UnitName.ofPath? d) with
      | some unit => .ok unit
      | none => .error (.noUnitName d) := by
  unfold unitOf
  cases p.unit with
  | some named => rfl
  | none => cases UnitName.ofPath? d <;> rfl

/-- A transcript with some text on the standard output and without formatted files. -/
structure Shows (transcript : Transcript) (text : String) : Prop where
  out : transcript.out = text
  formatted : transcript.formatted = []

namespace Shows

theorem nil : Shows [] "" :=
  ⟨rfl, rfl⟩

theorem append {transcript transcript' : Transcript} {text text' : String}
    (h : Shows transcript text) (h' : Shows transcript' text') :
    Shows (transcript ++ transcript') (text ++ text') :=
  ⟨by rw [Transcript.out_append, h.out, h'.out],
    by rw [Transcript.formatted_append, h.formatted, h'.formatted, List.append_nil]⟩

theorem ofEvents (events : List Log.Event) : Shows (Transcript.ofEvents events) "" :=
  ⟨Transcript.out_ofEvents events, Transcript.formatted_ofEvents events⟩

theorem out_singleton (text : String) : Shows [.out text] text :=
  ⟨Transcript.out_singleton text, rfl⟩

theorem errLine (text : String) : Shows [DartTriggers.errLine text] "" :=
  ⟨Transcript.out_errLine text, rfl⟩

end Shows

theorem join_filterMap_cons {α : Type} (sources : α → Option String) (x : α) (l : List α) :
    String.join ((x :: l).filterMap sources) =
      (sources x).getD "" ++ String.join (l.filterMap sources) := by
  cases hx : sources x with
  | none => rw [List.filterMap_cons_none hx, Option.getD_none, String.empty_append]
  | some source => rw [List.filterMap_cons_some hx, String.join_cons, Option.getD_some]

section

variable {p : Plan} (hstdout : p.toStdout = true) (colored : Bool)

include hstdout

/-- A descriptor leaves the tree as it is and shows its source; one that fails shows nothing. -/
theorem generate_of_toStdout (tree : FileTree) (d : Path) :
    let attempt := p.generate tree d
    let source := source? p.options p.unit tree d
    attempt.tree = tree ∧ attempt.result.toOption.isSome = source.isSome ∧
      Shows (attempt.transcript ++ p.report colored d attempt.result) (source.getD "") := by
  simp only [Plan.generate, source?]
  cases Registry.load tree d with
  | error e => exact ⟨rfl, rfl, .errLine _⟩
  | ok loaded =>
      simp only [p.unitOf_eq]
      cases p.unit.or (UnitName.ofPath? d) with
      | none => exact ⟨rfl, rfl, (Shows.ofEvents loaded.events).append (.errLine _)⟩
      | some unit =>
          simp only [Plan.emit, if_pos hstdout, Plan.report, List.append_nil]
          have hshows := (Shows.ofEvents loaded.events).append
            ((Shows.ofEvents (Dart.compilationEvents p.options.variant loaded.value)).append
              (.out_singleton (Dart.generateUnit p.options unit loaded.value)))
          rw [String.empty_append, String.empty_append] at hshows
          exact ⟨trivial, rfl, hshows⟩

/-- Descriptors show their sources one after the other. -/
theorem foldl_advance_of_toStdout (descriptors : List Path) {progress : Progress} {text : String}
    (h : Shows progress.transcript text) :
    let after := descriptors.foldl (p.advance colored) progress
    let sources := source? p.options p.unit progress.tree
    after.tree = progress.tree ∧
      after.failed = progress.failed + descriptors.countP (fun d => (sources d).isNone) ∧
        Shows after.transcript (text ++ String.join (descriptors.filterMap sources)) := by
  induction descriptors generalizing progress text with
  | nil => exact ⟨rfl, rfl, by simpa using h⟩
  | cons d descriptors ih =>
      obtain ⟨htree, hresult, hshows⟩ := generate_of_toStdout hstdout colored progress.tree d
      have hnext : Shows (p.advance colored progress d).transcript
          (text ++ (source? p.options p.unit progress.tree d).getD "") := by
        rw [Plan.advance, List.append_assoc]
        exact h.append hshows
      obtain ⟨htree', hfailed, hshows'⟩ := ih hnext
      have hsame : (p.advance colored progress d).tree = progress.tree := htree
      simp only [List.foldl_cons]
      rw [hsame] at htree' hfailed hshows'
      refine ⟨htree', ?_, ?_⟩
      · rw [hfailed, List.countP_cons]
        simp only [Plan.advance, hresult]
        cases source? p.options p.unit progress.tree d with
        | none => simp [Nat.add_assoc, Nat.add_comm]
        | some source => simp
      · rw [join_filterMap_cons, ← String.append_assoc]
        exact hshows'

theorem carryOut_of_toStdout (tree : FileTree) :
    let after := p.carryOut colored tree
    let sources := source? p.options p.unit tree
    after.tree = tree ∧ Shows after.transcript (String.join (p.descriptors.filterMap sources)) ∧
      (after.result = .ok () ↔ ∀ d ∈ p.descriptors, (sources d).isSome = true) := by
  intro after sources
  obtain ⟨htree, hfailed, hshows⟩ :=
    @foldl_advance_of_toStdout p hstdout colored p.descriptors ⟨tree, [], 0, 0⟩ "" .nil
  rw [String.empty_append] at hshows
  refine ⟨htree, ?_, ?_⟩
  · have htranscript : after.transcript = (p.generateAll colored tree).transcript := by
      simp only [after, Plan.carryOut, Plan.banner, Plan.summary, if_pos hstdout, List.nil_append,
        List.append_nil]
    rw [htranscript]
    exact hshows
  · exact Plan.result_carryOut_eq_ok_iff (hfailed.trans (Nat.zero_add _))

theorem carryOut_congr_formatter (formatter : Formatter) (tree : FileTree) :
    ({ p with formatter } : Plan).carryOut colored tree = p.carryOut colored tree := by
  have hgenerate : ({ p with formatter } : Plan).generate = p.generate := by
    funext tree d
    simp only [Plan.generate, Plan.unitOf, Plan.emit, if_pos hstdout]
  have hadvance : ({ p with formatter } : Plan).advance colored = p.advance colored := by
    funext progress d
    simp only [Plan.advance, hgenerate]
    rfl
  simp only [Plan.carryOut, Plan.generateAll, hadvance]
  rfl

end

section

variable {tree : FileTree} {runner : Runner} {cwd : Path} {args : Args}

theorem exists_plan_congr_runner (tree : FileTree) (runner runner' : Runner) (cwd : Path)
    (args : Args) : ∃ formatter, plan tree runner' cwd args =
      (plan tree runner cwd args).map fun p => { p with formatter } := by
  unfold plan
  cases Config.load tree cwd with
  | error e => exact ⟨.none, rfl⟩
  | ok config =>
      simp only
      cases chooseVariant config args with
      | error e => exact ⟨.none, rfl⟩
      | ok variant =>
          simp only
          cases tree.descriptors? (inputPath config args cwd) with
          | none => exact ⟨.none, rfl⟩
          | some descriptors => exact ⟨_, rfl⟩

/-- No program is run, so that it does not matter which there are. -/
theorem run_congr_runner (hstdout : args.toStdout = true) (colored : Bool) (runner' : Runner) :
    run tree runner' colored cwd args = run tree runner colored cwd args := by
  obtain ⟨formatter, hplan'⟩ := exists_plan_congr_runner tree runner runner' cwd args
  unfold run
  rw [hplan']
  cases hplan : plan tree runner cwd args with
  | error e => rfl
  | ok p =>
      obtain ⟨_, hmade⟩ := exists_made hplan
      have hcarryOut :=
        carryOut_congr_formatter (hmade.toStdout.trans hstdout) colored formatter tree
      simp only [Except.map, hcarryOut]
      rfl

theorem refusal?_of_toStdout {p : Plan} (hstdout : p.toStdout = true)
    (hunit : p.unit.isSome = true → p.descriptors.length = 1) : p.refusal? = none := by
  have hsingle : ¬ (p.unit.isSome ∧ 1 < p.descriptors.length) := by
    rintro ⟨hsome, hseveral⟩
    rw [hunit hsome] at hseveral
    omega
  rw [Plan.refusal?, if_neg hsingle]
  cases p.outDir with
  | none => rfl
  | some dir => exact if_pos hstdout

theorem run_eq_carryOut {p : Plan} (hplan : plan tree runner cwd args = .ok p)
    (hne : p.descriptors ≠ []) (hrefusal : p.refusal? = none) (colored : Bool) :
    run tree runner colored cwd args =
      { p.carryOut colored tree with
        transcript := .event p.event :: (p.carryOut colored tree).transcript } := by
  have hempty : p.descriptors.isEmpty = false := by simpa using hne
  simp only [run, hplan, hempty, hrefusal, Bool.false_eq_true, if_false]

theorem descriptors_eq_singleton {p : Plan} (hrefusal : p.refusal? = none)
    (hunit : p.unit.isSome = true) {d : Path} (hd : d ∈ p.descriptors) : p.descriptors = [d] := by
  have hcount : ¬ (p.unit.isSome ∧ 1 < p.descriptors.length) := by
    intro hseveral
    rw [Plan.refusal?, if_pos hseveral] at hrefusal
    cases hrefusal
  have hlength : p.descriptors.length = 1 := by
    have hpos := List.length_pos_of_mem hd
    have hle : ¬ 1 < p.descriptors.length := fun hlt => hcount ⟨hunit, hlt⟩
    omega
  obtain ⟨d', hd'⟩ := List.length_eq_one_iff.mp hlength
  rw [hd', List.mem_singleton] at hd
  rw [hd', hd]

theorem readText_target_of_generate {p : Plan} (htoStdout : p.toStdout = false)
    (hformatter : p.formatter = Formatter.none) (hroot : tree.kind? [] = some .directory) {d : Path}
    (h : (p.generate tree d).result.toOption.isSome = true) :
    ∃ unit source, p.unit.or (UnitName.ofPath? d) = some unit ∧
      source? p.options p.unit tree d = some source ∧
        (p.generate tree d).tree.readText (p.target d unit) = .ok source := by
  obtain ⟨loaded, unit, made, hload, hunitOf, hprepare, hwrite⟩ :=
    Plan.written_of_generate htoStdout hformatter h
  have hunit : p.unit.or (UnitName.ofPath? d) = some unit := by
    rw [p.unitOf_eq] at hunitOf
    split at hunitOf
    · rename_i hunit
      rw [hunit, Except.ok.inj hunitOf]
    · cases hunitOf
  have hmade := widens_prepare (p := p) hroot
  rw [hprepare] at hmade
  refine ⟨unit, Dart.generateUnit p.options unit loaded.value, hunit, ?_,
    FileTree.readText_of_writeText (hmade.extends_ _ hroot) hwrite⟩
  simp only [source?, hload, hunit]

/-- A unit is written if a run without formatter succeeds, and can then be read. -/
theorem readText_target_of_run {p : Plan} (hplan : plan tree runner cwd args = .ok p)
    (hstdout : args.toStdout = false) (hformat : args.noFormat = true)
    (hroot : tree.kind? [] = some .directory) {colored : Bool}
    (hresult : (run tree runner colored cwd args).result = .ok ()) {d : Path}
    (hd : d ∈ p.descriptors) :
    ∃ unit source, p.unit.or (UnitName.ofPath? d) = some unit ∧
      source? p.options p.unit tree d = some source ∧
        (run tree runner colored cwd args).tree.readText (p.target d unit) = .ok source := by
  obtain ⟨_, hmade⟩ := exists_made hplan
  rcases run_eq_of_plan colored hplan with ⟨hrefusal, htree, hcarryOut⟩ | ⟨e, -, -, herror⟩
  · cases hunit : args.unit with
    | none =>
        have hplain := plain_of_plan hunit hstdout hformat hplan hrefusal hroot
        obtain ⟨hsettled, hsuccess⟩ := hplain.settled_run hplan colored
        obtain ⟨source, houtput⟩ := Option.isSome_iff_exists.mp (hsuccess.mp hresult d hd)
        obtain ⟨loaded, unit, hload, hunit, -, hsource⟩ := Plan.output?_eq_some houtput
        refine ⟨unit, source, ?_, ?_, hsettled.readText_target hd hunit houtput⟩
        · rw [hplain.unit, Option.none_or, hunit]
        · simp only [source?, hload, hplain.unit, Option.none_or, hunit, hsource]
    | some name =>
        have hsome : p.unit.isSome = true := by
          rw [hmade.unit, hunit]
          rfl
        have hformatter := hmade.formatter
        rw [hformat, if_pos rfl] at hformatter
        obtain ⟨hsingle, hsuccess⟩ := Plan.carryOut_of_singleton
          (descriptors_eq_singleton hrefusal hsome hd) colored tree
        rw [hcarryOut, hsuccess] at hresult
        rw [htree, hsingle]
        exact readText_target_of_generate (hmade.toStdout.trans hstdout) hformatter hroot hresult
  · rw [herror] at hresult
    cases hresult

section

variable {config : Config} {variant : Variant} {descriptors : List Path}
  (hresolved : Resolved tree cwd args config variant descriptors)

include hresolved

/-- The files that a run without formatter writes have the sources of the descriptors. -/
theorem exists_texts_of_run (hstdout : args.toStdout = false) (hformat : args.noFormat = true)
    (hroot : tree.kind? [] = some .directory) {colored : Bool}
    (hresult : (run tree runner colored cwd args).result = .ok ()) :
    ∃ texts, List.Forall₂ (fun d text => ∃ unit,
        (args.unit.map UnitName.mk).or (UnitName.ofPath? d) = some unit ∧
          (run tree runner colored cwd args).tree.readText (unitFile { variant } unit
            (((args.outDir.or config.outDir).map cwd.appendString).getD
              (d.parent?.getD ⟨Path.dot⟩))) = .ok text) descriptors texts ∧
      descriptors.filterMap (source? { variant } (args.unit.map UnitName.mk) tree) = texts := by
  obtain ⟨p, hplan, hmade, hoptions, rfl⟩ := exists_plan hresolved runner
  have hread := fun d (hd : d ∈ p.descriptors) =>
    readText_target_of_run hplan hstdout hformat hroot hresult hd
  simp only [Plan.target, hmade.unit, hoptions, hmade.outDir] at hread
  refine ⟨p.descriptors.map fun d =>
    (source? { variant } (args.unit.map UnitName.mk) tree d).getD "", ?_, ?_⟩
  · rw [List.forall₂_map_right_iff, List.forall₂_same]
    intro d hd
    obtain ⟨unit, source, hunit, hsource, htext⟩ := hread d hd
    rw [hsource]
    exact ⟨unit, hunit, htext⟩
  · refine List.filterMap_eq_map_iff_forall_eq_some.mpr fun d hd => ?_
    obtain ⟨_, source, -, hsource, -⟩ := hread d hd
    rw [hsource, Option.getD_some]

/-- A run that shows its units changes nothing and runs no formatter, whichever programs there are;
it shows the sources of the descriptors that are loaded and have a unit, one after the other, and
succeeds exactly if these are all of them. If a run without formatter writes all units, then the
files that it writes have, one after the other, the text that is shown; only in a tree that is a
single file there is nowhere to write them. -/
theorem run_toStdout (runner : Runner) (colored : Bool) (hne : descriptors ≠ [])
    (hunit : args.unit.isSome = true → descriptors.length = 1) (hstdout : args.toStdout = true) :
    let after := run tree runner colored cwd args
    let sources := source? { variant } (args.unit.map UnitName.mk) tree
    after.tree = tree ∧
    (after.transcript.formatted = [] ∧
      ∀ runner' : Runner, run tree runner' colored cwd args = after) ∧
    after.transcript.out = String.join (descriptors.filterMap sources) ∧
    (after.result = .ok () ↔ ∀ d ∈ descriptors, (sources d).isSome = true) ∧
    (tree.kind? [] = some .directory → ∀ (runner' : Runner) (colored' : Bool),
      let written := run tree runner' colored' cwd { args with toStdout := false, noFormat := true }
      written.result = .ok () → ∃ texts,
        List.Forall₂ (fun d text => ∃ unit,
          (args.unit.map UnitName.mk).or (UnitName.ofPath? d) = some unit ∧
            written.tree.readText (unitFile { variant } unit
              (((args.outDir.or config.outDir).map cwd.appendString).getD
                (d.parent?.getD ⟨Path.dot⟩))) = .ok text) descriptors texts ∧
          String.join texts = after.transcript.out) := by
  intro after sources
  obtain ⟨p, hplan, hmade, hoptions, rfl⟩ := exists_plan hresolved runner
  have htoStdout := hmade.toStdout.trans hstdout
  have hrefusal : p.refusal? = none :=
    refusal?_of_toStdout htoStdout (by rwa [hmade.unit, Option.isSome_map])
  have hafter : after = _ := run_eq_carryOut hplan hne hrefusal colored
  obtain ⟨htree, hshows, hresult⟩ := carryOut_of_toStdout htoStdout colored tree
  rw [hoptions, hmade.unit] at hshows hresult
  have hout : after.transcript.out = String.join (p.descriptors.filterMap sources) := by
    rw [hafter]
    exact hshows.out
  refine ⟨?_, ⟨?_, run_congr_runner hstdout colored⟩, hout, ?_, ?_⟩
  · rw [hafter]
    exact htree
  · rw [hafter]
    exact hshows.formatted
  · rw [hafter]
    exact hresult
  · intro hroot runner' colored' written hwritten
    have hresolved' : Resolved tree cwd { args with toStdout := false, noFormat := true } config
        variant p.descriptors :=
      ⟨hresolved.load, hresolved.choose, hresolved.find⟩
    obtain ⟨texts, hread, rfl⟩ := exists_texts_of_run hresolved' rfl rfl hroot hwritten
    exact ⟨_, hread, hout.symm⟩

end

end

theorem run_toStdout_pair :
    let runner : Runner := fun _ _ tree => ⟨tree, "", "", .exited 0⟩
    let after := run pair runner false (Path.ofString "/") { toStdout := true }
    let written := run pair runner false (Path.ofString "/") { noFormat := true }
    after.tree = pair ∧ after.result = .ok () ∧
      after.transcript.out = Dart.generateUnit {} ⟨"first"⟩ ⟨[]⟩ ++
        Dart.generateUnit {} ⟨"second"⟩ ⟨[]⟩ ∧
      ∃ texts, List.Forall₂ (fun d text => ∃ unit, UnitName.ofPath? d = some unit ∧
          written.tree.readText (unitFile {} unit (d.parent?.getD ⟨Path.dot⟩)) = .ok text)
        [Path.ofString "/./first.trigger.json", Path.ofString "/./second.trigger.json"] texts ∧
        String.join texts = after.transcript.out := by
  intro runner after written
  have hresolved : Resolved pair (Path.ofString "/") { toStdout := true } {} .extended
      [Path.ofString "/./first.trigger.json", Path.ofString "/./second.trigger.json"] :=
    ⟨rfl, rfl, rfl⟩
  obtain ⟨htree, -, hout, hresult, hwritten⟩ :=
    run_toStdout hresolved runner false (List.cons_ne_nil _ _) nofun rfl
  refine ⟨htree, hresult.mpr (by decide +kernel), hout.trans (by decide +kernel), ?_⟩
  exact hwritten rfl runner false (by decide +kernel)

end DartTriggers.Generate
