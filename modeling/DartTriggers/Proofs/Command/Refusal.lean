import DartTriggers.Proofs.Command.Plan
import DartTriggers.Proofs.FileTree.Walk
/-!
Why the command is refused before its first descriptor. Such a run leaves the tree as it is. Where
output goes to one directory, it is refused exactly if two descriptors have one unit, and the first
repeat is the one that is named.
-/

namespace DartTriggers.Generate

/-- Why a run is refused before its first descriptor. -/
inductive Refused (tree : FileTree) (cwd : Path) (args : Args) : Refusal → Prop
  | config {e : Config.LoadError} (hconfig : Config.load tree cwd = .error e) :
      Refused tree cwd args (.config e)
  | unknownVariant {config : Config} {name : String} (hconfig : Config.load tree cwd = .ok config)
      (hname : args.variant = some name) (hvariant : Variant.ofName? name = none) :
      Refused tree cwd args (.unknownVariant name)
  | missingInput {config : Config} {variant : Variant} (hconfig : Config.load tree cwd = .ok config)
      (hvariant : chooseVariant config args = .ok variant)
      (hinput : tree.descriptors? (inputPath config args cwd) = none) :
      Refused tree cwd args (.missingInput (inputPath config args cwd))
  | severalDescriptors {config : Config} {variant : Variant} {descriptors : List Path}
      (hresolved : Resolved tree cwd args config variant descriptors) (hunit : args.unit.isSome)
      (hcount : 1 < descriptors.length) :
      Refused tree cwd args (.severalDescriptors descriptors.length)
  | collision {config : Config} {variant : Variant} {descriptors : List Path} {out : String}
      {earlier later : Path} {unit : UnitName}
      (hresolved : Resolved tree cwd args config variant descriptors) (hunit : args.unit = none)
      (hstdout : args.toStdout = false) (houtDir : args.outDir.or config.outDir = some out)
      (hrepeat : FirstRepeat descriptors earlier later unit) :
      Refused tree cwd args
        (.collision earlier later (unitFile { variant } unit (cwd.appendString out)))

/-- Why a run is refused before its first descriptor, if it is. -/
def refusal? (tree : FileTree) (runner : Runner) (cwd : Path) (args : Args) : Option Refusal :=
  match plan tree runner cwd args with
  | .error e => some e
  | .ok p => p.refusal?

section

variable {tree : FileTree} {runner : Runner} {cwd : Path} {args : Args}

theorem refusal?_of_resolved {config : Config} {variant : Variant} {descriptors : List Path}
    (h : Resolved tree cwd args config variant descriptors) :
    refusal? tree runner cwd args =
      if args.unit.isSome ∧ 1 < descriptors.length then
        some (.severalDescriptors descriptors.length)
      else
        match args.outDir.or config.outDir with
        | none => none
        | some out =>
            if args.toStdout then none
            else
              (collisionAfter { variant } (cwd.appendString out) [] descriptors).map
                fun (earlier, later, target) => .collision earlier later target := by
  unfold refusal? plan Plan.refusal?
  simp only [h.load, h.choose, h.find, Option.isSome_map]
  cases args.outDir.or config.outDir <;> rfl

theorem refusal?_eq_some_of_refused {e : Refusal} (h : Refused tree cwd args e) :
    refusal? tree runner cwd args = some e := by
  cases h with
  | config hconfig => simp only [refusal?, plan, hconfig]
  | unknownVariant hconfig hname hvariant =>
      simp only [refusal?, plan, hconfig, chooseVariant, hname, hvariant]
  | missingInput hconfig hvariant hinput => simp only [refusal?, plan, hconfig, hvariant, hinput]
  | severalDescriptors hresolved hunit hcount =>
      rw [refusal?_of_resolved hresolved, if_pos ⟨hunit, hcount⟩]
  | collision hresolved hunit hstdout houtDir hrepeat =>
      rw [refusal?_of_resolved hresolved, if_neg (by simp [hunit]), houtDir]
      simp only [hstdout, Bool.false_eq_true, if_false, Option.map_eq_some_iff]
      exact ⟨_, (collisionAfter_eq_some_iff rfl).mpr ⟨_, hrepeat, rfl⟩, rfl⟩

theorem refused_of_resolved {config : Config} {variant : Variant} {descriptors : List Path}
    (hresolved : Resolved tree cwd args config variant descriptors) {e : Refusal}
    (h : refusal? tree runner cwd args = some e) : Refused tree cwd args e := by
  rw [refusal?_of_resolved hresolved] at h
  by_cases hseveral : args.unit.isSome ∧ 1 < descriptors.length
  · rw [if_pos hseveral] at h
    obtain rfl := Option.some.inj h
    exact .severalDescriptors hresolved hseveral.1 hseveral.2
  · rw [if_neg hseveral] at h
    cases houtDir : args.outDir.or config.outDir with
    | none =>
        rw [houtDir] at h
        cases h
    | some out =>
        cases hstdout : args.toStdout with
        | true => simp [houtDir, hstdout] at h
        | false =>
            simp only [houtDir, hstdout, Bool.false_eq_true, if_false,
              Option.map_eq_some_iff] at h
            obtain ⟨⟨earlier, later, target⟩, hcollision, rfl⟩ := h
            obtain ⟨unit, hrepeat, rfl⟩ := (collisionAfter_eq_some_iff rfl).mp hcollision
            -- A repeat takes two descriptors, so no unit is named.
            have hunit : args.unit = none := by
              by_contra hne
              exact hseveral ⟨Option.isSome_iff_ne_none.mpr hne, hrepeat.one_lt_length⟩
            exact .collision hresolved hunit hstdout houtDir hrepeat

theorem refused_iff {e : Refusal} :
    Refused tree cwd args e ↔ refusal? tree runner cwd args = some e := by
  refine ⟨refusal?_eq_some_of_refused, fun h => ?_⟩
  cases hconfig : Config.load tree cwd with
  | error loadError =>
      simp only [refusal?, plan, hconfig] at h
      obtain rfl := Option.some.inj h
      exact .config hconfig
  | ok config =>
      cases hvariant : chooseVariant config args with
      | error refusal =>
          simp only [refusal?, plan, hconfig, hvariant] at h
          obtain rfl := Option.some.inj h
          unfold chooseVariant at hvariant
          split at hvariant
          · cases hvariant
          · rename_i name hname
            split at hvariant
            · cases hvariant
            · rename_i hunknown
              cases hvariant
              exact .unknownVariant hconfig hname hunknown
      | ok variant =>
          cases hinput : tree.descriptors? (inputPath config args cwd) with
          | none =>
              simp only [refusal?, plan, hconfig, hvariant, hinput] at h
              obtain rfl := Option.some.inj h
              exact .missingInput hconfig hvariant hinput
          | some descriptors => exact refused_of_resolved ⟨hconfig, hvariant, hinput⟩ h

theorem run_of_refusal?_eq_some {e : Refusal} (colored : Bool)
    (h : refusal? tree runner cwd args = some e) :
    (run tree runner colored cwd args).result = .error e ∧
      (run tree runner colored cwd args).tree = tree := by
  unfold refusal? at h
  cases hplan : plan tree runner cwd args with
  | error e' =>
      rw [hplan] at h
      obtain rfl := Option.some.inj h
      simp only [run, hplan, and_self]
  | ok p =>
      simp only [hplan] at h
      rcases run_eq_of_plan colored hplan with ⟨hnone, -⟩ | ⟨e', hrefusal, htree, hresult⟩
      · rw [hnone] at h
        cases h
      · rw [hrefusal] at h
        obtain rfl := Option.some.inj h
        exact ⟨hresult, htree⟩

theorem failedDescriptors_of_refusal?_eq_none {e : Refusal} (colored : Bool)
    (h : refusal? tree runner cwd args = none)
    (hresult : (run tree runner colored cwd args).result = .error e) :
    ∃ count, e = .failedDescriptors count := by
  unfold refusal? at h
  cases hplan : plan tree runner cwd args with
  | error e' =>
      rw [hplan] at h
      cases h
  | ok p =>
      simp only [hplan] at h
      rcases run_eq_of_plan colored hplan with ⟨-, -, hcarryOut⟩ | ⟨e', hrefusal, -⟩
      · rw [hcarryOut, Plan.carryOut] at hresult
        simp only at hresult
        split at hresult
        · cases hresult
        · exact ⟨_, (Except.error.inj hresult).symm⟩
      · rw [h] at hrefusal
        cases hrefusal

/-- The refusals before the first descriptor are exactly those that there are reasons for, and each
of them leaves the tree as it is. Where output goes to one directory, a run is refused for a
collision exactly if two descriptors have one unit; it names the first repeat, the earlier
descriptor with this unit, and the file that both would write. -/
theorem run_refused (tree : FileTree) (runner : Runner) (colored : Bool) (cwd : Path)
    (args : Args) :
    let after := run tree runner colored cwd args
    (∀ e, Refused tree cwd args e ↔
      after.result = .error e ∧ ∀ count, e ≠ .failedDescriptors count) ∧
    (∀ e, Refused tree cwd args e → after.tree = tree) ∧
    ∀ config variant descriptors out, Resolved tree cwd args config variant descriptors →
      args.unit = none → args.toStdout = false → args.outDir.or config.outDir = some out →
      ((∃ earlier later target, after.result = .error (.collision earlier later target)) ↔
        ∃ d ∈ descriptors, ∃ d' ∈ descriptors, d ≠ d' ∧ ∃ unit,
          UnitName.ofPath? d = some unit ∧ UnitName.ofPath? d' = some unit) ∧
      (∀ earlier later target,
        after.result = .error (.collision earlier later target) ↔ ∃ unit,
          FirstRepeat descriptors earlier later unit ∧
            target = unitFile { variant } unit (cwd.appendString out)) ∧
      ∀ earlier later unit, FirstRepeat descriptors earlier later unit →
        after.result.mapError Refusal.message =
          .error (earlier.display ++ " and " ++ later.display ++ " would both write " ++
            (unitFile { variant } unit (cwd.appendString out)).display) := by
  intro after
  have hrefused : ∀ e, Refused tree cwd args e → after.result = .error e ∧ after.tree = tree :=
    fun e h => run_of_refusal?_eq_some colored (refused_iff.mp h)
  have hreason : ∀ e, Refused tree cwd args e ↔
      after.result = .error e ∧ ∀ count, e ≠ .failedDescriptors count := by
    intro e
    constructor
    · intro h
      refine ⟨(hrefused e h).1, fun count => ?_⟩
      rintro rfl
      cases h
    · rintro ⟨hresult, hother⟩
      cases h : refusal? tree runner cwd args with
      | none =>
          obtain ⟨count, hcount⟩ := failedDescriptors_of_refusal?_eq_none colored h hresult
          exact absurd hcount (hother count)
      | some e' =>
          have hresult' := (run_of_refusal?_eq_some colored h).1
          rw [← Except.error.inj (hresult'.symm.trans hresult)]
          exact refused_iff.mpr h
  refine ⟨hreason, fun e h => (hrefused e h).2, ?_⟩
  intro config variant descriptors out hresolved hunit hstdout houtDir
  have hrepeated : ∀ earlier later unit, FirstRepeat descriptors earlier later unit →
      after.result =
        .error (.collision earlier later (unitFile { variant } unit (cwd.appendString out))) :=
    fun earlier later unit hrepeat =>
      (hrefused _ (.collision hresolved hunit hstdout houtDir hrepeat)).1
  have hcollision : ∀ earlier later target,
      after.result = .error (.collision earlier later target) ↔ ∃ unit,
        FirstRepeat descriptors earlier later unit ∧
          target = unitFile { variant } unit (cwd.appendString out) := by
    intro earlier later target
    constructor
    · intro hresult
      have h := (hreason _).mpr ⟨hresult, fun count => nofun⟩
      cases h with
      | collision hresolved' _ _ houtDir' hrepeat =>
          obtain ⟨rfl, rfl, rfl⟩ := hresolved.unique hresolved'
          rw [houtDir] at houtDir'
          rw [← Option.some.inj houtDir']
          exact ⟨_, hrepeat, rfl⟩
    · rintro ⟨unit, hrepeat, rfl⟩
      exact hrepeated earlier later unit hrepeat
  refine ⟨?_, hcollision, fun earlier later unit hrepeat => ?_⟩
  · rw [← exists_firstRepeat_iff (FileTree.nodup_descriptors? hresolved.find)]
    constructor
    · rintro ⟨earlier, later, target, hresult⟩
      obtain ⟨unit, hrepeat, -⟩ := (hcollision earlier later target).mp hresult
      exact ⟨earlier, later, unit, hrepeat⟩
    · rintro ⟨earlier, later, unit, hrepeat⟩
      exact ⟨earlier, later, _, hrepeated earlier later unit hrepeat⟩
  · rw [hrepeated earlier later unit hrepeat]
    rfl

end

/-- A tree with two descriptors of one unit, in two directories. -/
def twins : FileTree :=
  let file : Name := ⟨Bytes.ofString "u.trigger.json", by decide⟩
  let left : Name := ⟨Bytes.ofString "a", by decide⟩
  let right : Name := ⟨Bytes.ofString "b", by decide⟩
  (((FileTree.empty.putDirectory [left]).putFile [left, file] "\x7b\x7d".toUTF8).putDirectory
    [right]).putFile [right, file] "\x7b\x7d".toUTF8

theorem run_refused_twins :
    let runner : Runner := fun _ _ tree => ⟨tree, "", "", .exited 0⟩
    let after := run twins runner false (Path.ofString "/") { outDir := some "gen" }
    after.result.mapError Refusal.message = .error
        "/./a/u.trigger.json and /./b/u.trigger.json would both write /gen/u.g.dart" ∧
      after.tree = twins := by
  intro runner after
  have hresolved : Resolved twins (Path.ofString "/") { outDir := some "gen" } {} .extended
      [Path.ofString "/./a/u.trigger.json", Path.ofString "/./b/u.trigger.json"] :=
    ⟨rfl, rfl, rfl⟩
  obtain ⟨-, hunchanged, hcollisions⟩ :=
    run_refused twins runner false (Path.ofString "/") { outDir := some "gen" }
  obtain ⟨-, -, hmessage⟩ := hcollisions _ _ _ "gen" hresolved rfl rfl rfl
  have hcollision : collisionAfter {} ((Path.ofString "/").appendString "gen") []
      [Path.ofString "/./a/u.trigger.json", Path.ofString "/./b/u.trigger.json"] =
        some (Path.ofString "/./a/u.trigger.json", Path.ofString "/./b/u.trigger.json",
          Path.ofString "/gen/u.g.dart") := by
    decide +kernel
  obtain ⟨unit, hrepeat, htarget⟩ := (collisionAfter_eq_some_iff rfl).mp hcollision
  refine ⟨?_, hunchanged _ (.collision hresolved rfl rfl rfl hrepeat)⟩
  rw [hmessage _ _ _ hrepeat]
  rw [← htarget]
  decide +kernel

end DartTriggers.Generate
