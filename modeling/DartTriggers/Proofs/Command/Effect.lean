import DartTriggers.Proofs.Command.Generate
import DartTriggers.Proofs.Command.Plan
/-!
The effect of the command that generates units: which files are written, what is in them, and
what the command answers.
-/

namespace DartTriggers.Generate

/-- How many descriptors fail. -/
def Plan.failures (p : Plan) (before : FileTree) (descriptors : List Path) : Nat :=
  descriptors.countP fun d => (p.output? before d).isNone

theorem Plan.failures_concat (p : Plan) (before : FileTree) (done : List Path) (d : Path) :
    p.failures before (done ++ [d]) =
      p.failures before done + if (p.output? before d).isSome then 0 else 1 := by
  rw [failures, List.countP_append, List.countP_singleton]
  cases p.output? before d <;> rfl

section

variable {p : Plan} (colored : Bool) {before : FileTree} (Holds : List Path → FileTree → Prop)
  (hstep : ∀ done tree d, Holds done tree → (∀ d' ∈ done, d' ∈ p.descriptors) →
    d ∈ p.descriptors → Holds (done ++ [d]) (p.generate tree d).tree ∧
      (p.generate tree d).result.toOption.isSome = (p.output? before d).isSome)

include hstep

theorem Plan.foldl_advance {done rest : List Path} (hsplit : p.descriptors = done ++ rest)
    {progress : Progress} (hholds : Holds done progress.tree)
    (hfailed : progress.failed = p.failures before done) :
    Holds p.descriptors (rest.foldl (p.advance colored) progress).tree ∧
      (rest.foldl (p.advance colored) progress).failed = p.failures before p.descriptors := by
  -- On the descriptors to come; the progress is always that of those that are done.
  induction rest generalizing done progress with
  | nil =>
      rw [List.append_nil] at hsplit
      rw [hsplit]
      exact ⟨hholds, hfailed⟩
  | cons d rest ih =>
      have hdone : ∀ d' ∈ done, d' ∈ p.descriptors := by
        intro d' hd'
        rw [hsplit]
        exact List.mem_append_left _ hd'
      have hd : d ∈ p.descriptors := by
        rw [hsplit]
        exact List.mem_append_right _ List.mem_cons_self
      obtain ⟨hnext, hresult⟩ := hstep done progress.tree d hholds hdone hd
      rw [List.foldl_cons]
      refine ih (by rw [hsplit, List.append_assoc, List.singleton_append]) hnext ?_
      rw [p.failures_concat, ← hresult, ← hfailed]
      rfl

/-- What each descriptor keeps holds when all of them are done, and the failures are counted. -/
theorem Plan.generateAll_of_step (hholds : Holds [] before) :
    Holds p.descriptors (p.generateAll colored before).tree ∧
      (p.generateAll colored before).failed = p.failures before p.descriptors :=
  Plan.foldl_advance colored Holds hstep (List.nil_append _).symm hholds rfl

end

/-- Where the descriptors without a source are those that fail, a plan succeeds if all have one. -/
theorem Plan.result_carryOut_eq_ok_iff {p : Plan} {colored : Bool} {tree : FileTree}
    {sources : Path → Option String} (h : (p.generateAll colored tree).failed =
      p.descriptors.countP fun d => (sources d).isNone) :
    (p.carryOut colored tree).result = .ok () ↔
      ∀ d ∈ p.descriptors, (sources d).isSome = true := by
  have hcount : (p.generateAll colored tree).failed = 0 ↔
      ∀ d ∈ p.descriptors, (sources d).isSome = true := by
    rw [h, List.countP_eq_zero]
    simp only [Option.isNone_iff_eq_none, ← ne_eq, Option.isSome_iff_ne_none]
  rw [← hcount]
  by_cases hfailed : (p.generateAll colored tree).failed = 0
  · refine iff_of_true ?_ hfailed
    simp only [carryOut, if_pos hfailed]
  · refine iff_of_false ?_ hfailed
    simp only [carryOut, if_neg hfailed, reduceCtorEq, not_false_eq_true]

/-- What a plan that is carried out does. -/
structure Plan.Effect (p : Plan) (before : FileTree) (after : Attempt Refusal Unit) : Prop where
  target_ne : ∀ d ∈ p.descriptors, ∀ d' ∈ p.descriptors, d ≠ d' → ∀ unit unit',
    UnitName.ofPath? d = some unit → UnitName.ofPath? d' = some unit' →
      (p.target d unit).location ≠ (p.target d' unit').location
  written : ∀ d ∈ p.descriptors, ∀ loaded unit, Registry.load before d = .ok loaded →
    UnitName.ofPath? d = some unit → p.canWrite before d unit = true →
      after.tree.content? (p.target d unit).location =
        some (Dart.generateUnit p.options unit loaded.value).toUTF8
  failed : ∀ d ∈ p.descriptors, p.output? before d = none → ∀ unit,
    UnitName.ofPath? d = some unit →
      after.tree.content? (p.target d unit).location =
        before.content? (p.target d unit).location
  result : after.result =
    if p.failures before p.descriptors = 0 then .ok ()
    else .error (.failedDescriptors (p.failures before p.descriptors))

theorem Plan.carryOut_of_none {p : Plan} (hnamed : p.unit = none) {before : FileTree}
    (hnone : ∀ d ∈ p.descriptors, UnitName.ofPath? d = none) (colored : Bool) :
    (p.carryOut colored before).tree = before ∧
      p.Effect before (p.carryOut colored before) := by
  have hstep : ∀ (done : List Path) (tree : FileTree) (d : Path), tree = before →
      (∀ d' ∈ done, d' ∈ p.descriptors) → d ∈ p.descriptors → (p.generate tree d).tree = before ∧
        (p.generate tree d).result.toOption.isSome = (p.output? before d).isSome := by
    rintro done tree d rfl - hd
    obtain ⟨hsame, hresult⟩ := generate_of_none hnamed fun _ _ => hnone d hd
    have houtput : p.output? tree d = none := by
      unfold Plan.output?
      rw [hnone d hd]
      cases Registry.load tree d <;> rfl
    rw [hresult, houtput]
    exact ⟨hsame, rfl⟩
  obtain ⟨htree, hfailed⟩ :=
    Plan.generateAll_of_step colored (fun _ tree => tree = before) hstep rfl
  have hnothing : ∀ d ∈ p.descriptors, ∀ unit, UnitName.ofPath? d ≠ some unit := by
    intro d hd unit hunit
    rw [hnone d hd] at hunit
    cases hunit
  refine ⟨htree, ?_, ?_, ?_, ?_⟩
  · exact fun d hd _ _ _ unit _ hunit => absurd hunit (hnothing d hd unit)
  · exact fun d hd _ unit _ hunit => absurd hunit (hnothing d hd unit)
  · exact fun d hd _ unit hunit => absurd hunit (hnothing d hd unit)
  · rw [← hfailed]
    rfl

theorem Plan.Plain.carryOut {p : Plan} {before : FileTree} (h : p.Plain before) (colored : Bool) :
    (∀ location, (∀ d ∈ p.descriptors, ∀ unit, UnitName.ofPath? d = some unit →
        (p.target d unit).location ≠ location) →
      (p.carryOut colored before).tree.content? location = before.content? location) ∧
      p.Effect before (p.carryOut colored before) := by
  obtain ⟨hreached, hfailed⟩ := Plan.generateAll_of_step colored (p.Reached before)
    (fun done tree d hreached hdone hd => hreached.generate h hdone hd) (.nil p before)
  have htarget_ne : ∀ d ∈ p.descriptors, ∀ d' ∈ p.descriptors, d ≠ d' → ∀ unit unit',
      UnitName.ofPath? d = some unit → UnitName.ofPath? d' = some unit' →
        (p.target d unit).location ≠ (p.target d' unit').location :=
    fun d hd d' hd' hne unit unit' hunit hunit' heq =>
      hne (location_target_inj h.extension h.found h.apart hd hd' hunit hunit' heq)
  refine ⟨fun location hlocation => hreached.kept location
    fun d hd unit hunit _ => hlocation d hd unit hunit, htarget_ne, ?_, ?_, ?_⟩
  · intro d hd loaded unit hload hunit hcanWrite
    refine hreached.written d hd unit _ hunit ?_
    rw [p.output?_eq hload hunit, if_pos hcanWrite]
  · intro d hd houtput unit hunit
    refine hreached.kept _ fun d' hd' unit' hunit' hsome => htarget_ne d' hd' d hd ?_ unit' unit
      hunit' hunit
    rintro rfl
    rw [houtput] at hsome
    cases hsome
  · rw [← hfailed]
    rfl

section

variable {tree : FileTree} {runner : Runner} {cwd : Path} {args : Args} {p : Plan}

theorem Plan.Effect.congr {before : FileTree} {after after' : Attempt Refusal Unit}
    (h : p.Effect before after) (htree : after'.tree = after.tree)
    (hresult : after'.result = after.result) : p.Effect before after' := by
  refine ⟨h.target_ne, ?_, ?_, hresult.trans h.result⟩
  · rw [htree]
    exact h.written
  · rw [htree]
    exact h.failed

/-- What a plan does is known from its options, its descriptors and where its units go. -/
theorem Plan.Effect.of_plan {p' : Plan} {before : FileTree} {after : Attempt Refusal Unit}
    (h : p'.Effect before after) (hoptions : p'.options = p.options)
    (houtDir : p'.outDir = p.outDir) (hdescriptors : p'.descriptors = p.descriptors) :
    p.Effect before after := by
  obtain ⟨input, options, formatter, outDir, descriptors, unit, toStdout, base⟩ := p
  subst hoptions houtDir hdescriptors
  exact ⟨h.target_ne, h.written, h.failed, h.result⟩

section

variable (hunit : args.unit = none) (hstdout : args.toStdout = false)
  (hformat : args.noFormat = true)

include hunit hstdout hformat

theorem plain_of_plan (h : plan tree runner cwd args = .ok p) (hrefusal : p.refusal? = none)
    (hroot : tree.kind? [] = some .directory) : p.Plain tree := by
  obtain ⟨config, hmade⟩ := exists_made h
  have hformatter := hmade.formatter
  rw [hformat, if_pos rfl] at hformatter
  have hnamed := hmade.unit
  rw [hunit, Option.map_none] at hnamed
  have htoStdout := hmade.toStdout.trans hstdout
  exact ⟨hnamed, htoStdout, hformatter, hmade.extension, found_of_descriptors? hroot hmade.find,
    Plan.pairwise_of_refusal? hmade.extension htoStdout hrefusal⟩

/-- A plan that is not refused is carried out, and one that is refused changes nothing. -/
theorem run_of_plan (colored : Bool) (h : plan tree runner cwd args = .ok p) :
    (∀ location, (∀ d ∈ p.descriptors, ∀ unit, UnitName.ofPath? d = some unit →
        (p.target d unit).location ≠ location) →
      (run tree runner colored cwd args).tree.content? location = tree.content? location) ∧
      (p.refusal? = none → p.Effect tree (run tree runner colored cwd args)) := by
  rcases run_eq_of_plan colored h with ⟨hrefusal, htree, hresult⟩ | ⟨e, hrefusal, htree, -⟩
  · rw [htree]
    by_cases hroot : tree.kind? [] = some .directory
    · obtain ⟨hkept, heffect⟩ :=
        (plain_of_plan hunit hstdout hformat h hrefusal hroot).carryOut colored
      exact ⟨hkept, fun _ => heffect.congr htree hresult⟩
    · -- The tree is a single file, and its path has no name.
      obtain ⟨_, hmade⟩ := exists_made h
      have hnamed := hmade.unit
      rw [hunit, Option.map_none] at hnamed
      obtain ⟨hsame, heffect⟩ := Plan.carryOut_of_none hnamed
        (ofPath?_of_kind?_root hroot hmade.find) colored
      rw [hsame]
      exact ⟨fun _ _ => rfl, fun _ => heffect.congr htree hresult⟩
  · rw [htree]
    refine ⟨fun _ _ => rfl, fun hnone => ?_⟩
    rw [hrefusal] at hnone
    cases hnone

/-- What is not the file of a unit that is asked for stays as it is. -/
theorem content?_run (colored : Bool) {location : List Bytes}
    (h : ∀ (p : Plan) config, p.Answers tree cwd args config → ∀ d ∈ p.descriptors, ∀ unit,
      UnitName.ofPath? d = some unit → (p.target d unit).location ≠ location) :
    (run tree runner colored cwd args).tree.content? location = tree.content? location := by
  cases hplan : plan tree runner cwd args with
  | error e =>
      unfold run
      rw [hplan]
  | ok p =>
      obtain ⟨config, hmade⟩ := exists_made hplan
      exact (run_of_plan hunit hstdout hformat colored hplan).1 location
        (h p config hmade.answers)

/-- Every unit that can be generated is written to a file of its own, as if it were the only one,
and no other file is changed: neither the configuration nor a descriptor. The answer tells how many
descriptors failed. The variant and the place for the units are those of the arguments or else of
the configuration. -/
theorem run_effect (colored : Bool) :
    let after := run tree runner colored cwd args
    (∀ location, (∀ (p : Plan) config, p.Answers tree cwd args config → ∀ d ∈ p.descriptors,
        ∀ unit, UnitName.ofPath? d = some unit → (p.target d unit).location ≠ location) →
      after.tree.content? location = tree.content? location) ∧
    after.tree.content? (cwd.appendString "trigger.config.json").location =
      tree.content? (cwd.appendString "trigger.config.json").location ∧
    ∀ (p : Plan) config, p.Answers tree cwd args config →
      (∀ d unit, p.target d unit = (p.outDir.getD (d.parent?.getD ⟨Path.dot⟩)).appendString
        (unit.text ++ ".g.dart")) ∧
      (∀ d ∈ p.descriptors, after.tree.content? d.location = tree.content? d.location) ∧
      ((p.outDir.isSome → p.descriptors.Pairwise Apart) → p.Effect tree after) := by
  intro after
  refine ⟨fun location => content?_run hunit hstdout hformat colored, ?_, ?_⟩
  · refine content?_run hunit hstdout hformat colored fun p config h d _ unit hunit => ?_
    exact location_target_ne_config h.extension hunit cwd
  · intro p config h
    obtain ⟨made, hplan, hoptions, houtDir, hdescriptors⟩ := h.exists_plan runner
    obtain ⟨hkept, heffect⟩ := run_of_plan hunit hstdout hformat colored hplan
    have hextension : made.options.extension = "dart" := by rw [hoptions, h.extension]
    refine ⟨fun d unit => ?_, fun d hd => ?_, fun hapart => ?_⟩
    · rw [Plan.target, unitFile, h.extension, UnitName.generatedFile, String.append_assoc]
      rfl
    · rw [← hdescriptors] at hd
      refine hkept _ fun d' hd' unit hunit => ?_
      have hfind : tree.descriptors? (inputPath config args cwd) = some made.descriptors := by
        rw [hdescriptors, h.resolved.find]
      by_cases hroot : tree.kind? [] = some .directory
      · exact location_target_ne hextension (found_of_descriptors? hroot hfind) hd' hd hunit
      · rw [ofPath?_of_kind?_root hroot hfind d' hd'] at hunit
        cases hunit
    · have hnamed : made.unit = none := by
        obtain ⟨_, hmade⟩ := exists_made hplan
        rw [hmade.unit, hunit, Option.map_none]
      have hrefusal : made.refusal? = none :=
        Plan.refusal?_eq_none hextension hnamed (by rwa [houtDir, hdescriptors])
      exact (heffect hrefusal).of_plan hoptions houtDir hdescriptors

end

end

/-- A tree with a descriptor and one that is cut short. -/
def halfWritten : FileTree :=
  (FileTree.empty.putFile [⟨Bytes.ofString "a.trigger.json", by decide⟩]
    "\x7b\"entities\":[]\x7d".toUTF8).putFile [⟨Bytes.ofString "b.trigger.json", by decide⟩]
    "\x7b".toUTF8

/-- The same tree with a configuration. -/
def configured : FileTree :=
  halfWritten.putFile [⟨Bytes.ofString "trigger.config.json", by decide⟩]
    "\x7b\"variant\":\"basic\",\"outDir\":\"out\"\x7d".toUTF8

def configuredPlan (variant : Variant) (outDir : String) : Plan where
  input := Path.ofString "/."
  options := { variant }
  formatter := .none
  outDir := some ((Path.ofString "/").appendString outDir)
  descriptors := [Path.ofString "/./a.trigger.json", Path.ofString "/./b.trigger.json"]
  unit := none
  toStdout := false
  base := Path.ofString "/."

/-- The unit of the first descriptor is written, and the other descriptor fails. -/
theorem Plan.Effect.of_configured {variant : Variant} {outDir : String}
    {after : Attempt Refusal Unit}
    (h : (configuredPlan variant outDir).Effect configured after)
    (hcanWrite : (configuredPlan variant outDir).canWrite configured
      (Path.ofString "/./a.trigger.json") ⟨"a"⟩ = true) :
    let p := configuredPlan variant outDir
    after.tree.content? (p.target (Path.ofString "/./a.trigger.json") ⟨"a"⟩).location =
        some (Dart.generateUnit { variant } ⟨"a"⟩ ⟨[]⟩).toUTF8 ∧
      after.tree.content? (p.target (Path.ofString "/./b.trigger.json") ⟨"b"⟩).location =
        configured.content? (p.target (Path.ofString "/./b.trigger.json") ⟨"b"⟩).location ∧
      after.result = .error (.failedDescriptors 1) := by
  intro p
  have hunit : UnitName.ofPath? (Path.ofString "/./a.trigger.json") = some ⟨"a"⟩ := by
    decide +kernel
  have hload : ((Registry.load configured (Path.ofString "/./a.trigger.json")).toOption.map
      Logged.value) = some ⟨[]⟩ := by
    decide +kernel
  obtain ⟨loaded, hloaded, hvalue⟩ := Option.map_eq_some_iff.mp hload
  rw [Json.toOption_eq_some] at hloaded
  have hfirst := p.output?_eq hloaded hunit
  rw [if_pos hcanWrite] at hfirst
  have hsecond : p.output? configured (Path.ofString "/./b.trigger.json") = none := by
    have hcut : (Registry.load configured (Path.ofString "/./b.trigger.json")).toOption.isNone := by
      decide +kernel
    unfold Plan.output?
    cases hload : Registry.load configured (Path.ofString "/./b.trigger.json") with
    | error e => rfl
    | ok loaded =>
        rw [hload] at hcut
        cases hcut
  refine ⟨?_, ?_, ?_⟩
  · rw [← hvalue]
    exact h.written _ List.mem_cons_self loaded ⟨"a"⟩ hloaded hunit hcanWrite
  · exact h.failed _ (.tail _ List.mem_cons_self) hsecond ⟨"b"⟩ (by decide +kernel)
  · have hfailures : p.failures configured p.descriptors = 1 := by
      change [Path.ofString "/./a.trigger.json", Path.ofString "/./b.trigger.json"].countP _ = 1
      simp [hfirst, hsecond]
    rw [h.result]
    change (if p.failures configured p.descriptors = 0 then _ else _) = _
    rw [hfailures]
    rfl

theorem run_effect_configured :
    let runner : Runner := fun _ _ tree => ⟨tree, "", "", .exited 0⟩
    let asConfigured := run configured runner false (Path.ofString "/") { noFormat := true }
    let asGiven := run configured runner false (Path.ofString "/")
      { noFormat := true, variant := some "extended", outDir := some "gen" }
    (asConfigured.tree.content? [Bytes.ofString "out", Bytes.ofString "a.g.dart"] =
        some (Dart.generateUnit { variant := .basic } ⟨"a"⟩ ⟨[]⟩).toUTF8 ∧
      asConfigured.tree.content? [Bytes.ofString "out", Bytes.ofString "b.g.dart"] = none ∧
      asConfigured.result = .error (.failedDescriptors 1)) ∧
    (asGiven.tree.content? [Bytes.ofString "gen", Bytes.ofString "a.g.dart"] =
        some (Dart.generateUnit { variant := .extended } ⟨"a"⟩ ⟨[]⟩).toUTF8 ∧
      asGiven.tree.content? [Bytes.ofString "gen", Bytes.ofString "b.g.dart"] = none ∧
      asGiven.result = .error (.failedDescriptors 1)) := by
  intro runner asConfigured asGiven
  have hload : Config.load configured (Path.ofString "/") =
      .ok { variant := .basic, outDir := some "out" } := by
    decide +kernel
  have hapart : [Path.ofString "/./a.trigger.json", Path.ofString "/./b.trigger.json"].Pairwise
      Apart :=
    (@collisionAfter_eq_none_iff {} rfl ⟨Path.dot⟩ _).mp (by decide +kernel)
  constructor
  · have hanswers : (configuredPlan .basic "out").Answers configured (Path.ofString "/")
        { noFormat := true } { variant := .basic, outDir := some "out" } :=
      ⟨hload, rfl, nofun, fun _ => rfl, rfl, nofun, fun _ => rfl⟩
    obtain ⟨-, -, heffects⟩ := @run_effect configured runner (Path.ofString "/")
      { noFormat := true } rfl rfl rfl false
    obtain ⟨-, -, heffect⟩ := heffects _ _ hanswers
    exact (heffect fun _ => hapart).of_configured (by decide +kernel)
  · have hanswers : (configuredPlan .extended "gen").Answers configured (Path.ofString "/")
        { noFormat := true, variant := some "extended", outDir := some "gen" }
        { variant := .basic, outDir := some "out" } :=
      ⟨hload, rfl, fun _ h => Option.some.inj h, nofun, rfl, nofun, fun _ => rfl⟩
    obtain ⟨-, -, heffects⟩ := @run_effect configured runner (Path.ofString "/")
      { noFormat := true, variant := some "extended", outDir := some "gen" } rfl rfl rfl false
    obtain ⟨-, -, heffect⟩ := heffects _ _ hanswers
    exact (heffect fun _ => hapart).of_configured (by decide +kernel)

end DartTriggers.Generate
