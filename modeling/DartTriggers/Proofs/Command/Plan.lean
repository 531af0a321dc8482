import DartTriggers.Proofs.Command.Collision
/-!
Which plan is made, and what comes of it. The arguments come before the configuration; a plan that
is refused changes nothing, and any other is carried out.
-/

namespace DartTriggers

theorem Variant.ofName?_eq_some_iff {name : String} {v : Variant} :
    Variant.ofName? name = some v ↔ v.name = name := by
  constructor
  · intro h
    unfold ofName? names at h
    simp only [List.lookup_cons, List.lookup_nil] at h
    split at h
    · rename_i hname
      obtain rfl := Option.some.inj h
      exact (beq_iff_eq.mp hname).symm
    · split at h
      · rename_i hname
        obtain rfl := Option.some.inj h
        exact (beq_iff_eq.mp hname).symm
      · cases h
  · rintro rfl
    exact v.ofName?_name

namespace Generate

theorem chooseVariant_eq_ok_iff {config : Config} {args : Args} {variant : Variant} :
    chooseVariant config args = .ok variant ↔
      (args.variant = none → variant = config.variant) ∧
        ∀ name, args.variant = some name → variant.name = name := by
  unfold chooseVariant
  cases hgiven : args.variant with
  | none => simp [eq_comm]
  | some name =>
      simp only [reduceCtorEq, false_implies, true_and, Option.some.injEq, forall_eq',
        ← Variant.ofName?_eq_some_iff]
      cases Variant.ofName? name <;> simp

/-- A plan that is made of a configuration. -/
structure Plan.Made (p : Plan) (tree : FileTree) (runner : Runner) (cwd : Path) (args : Args)
    (config : Config) : Prop where
  load : Config.load tree cwd = .ok config
  choose : chooseVariant config args = .ok p.options.variant
  extension : p.options.extension = "dart"
  formatter : p.formatter = if args.noFormat then .none else config.formatter runner
  outDir : p.outDir = (args.outDir.or config.outDir).map cwd.appendString
  find : tree.descriptors? (inputPath config args cwd) = some p.descriptors
  unit : p.unit = args.unit.map UnitName.mk
  toStdout : p.toStdout = args.toStdout

/-- A configuration that is loaded, a variant that there is, and the descriptors of an input that
is there. -/
structure Resolved (tree : FileTree) (cwd : Path) (args : Args) (config : Config)
    (variant : Variant) (descriptors : List Path) : Prop where
  load : Config.load tree cwd = .ok config
  choose : chooseVariant config args = .ok variant
  find : tree.descriptors? (inputPath config args cwd) = some descriptors

/-- A plan with the units that are asked for: the variant, the place for units and the descriptors
are those of the arguments or else of the configuration. -/
structure Plan.Answers (p : Plan) (tree : FileTree) (cwd : Path) (args : Args) (config : Config) :
    Prop where
  load : Config.load tree cwd = .ok config
  extension : p.options.extension = "dart"
  variant_given : ∀ name, args.variant = some name → p.options.variant.name = name
  variant_configured : args.variant = none → p.options.variant = config.variant
  outDir : p.outDir = (args.outDir.or config.outDir).map cwd.appendString
  find_given : ∀ path, args.path = some path →
    tree.descriptors? (cwd.appendString path) = some p.descriptors
  find_configured : args.path = none →
    tree.descriptors? (cwd.appendString config.srcDir) = some p.descriptors

section

variable {tree : FileTree} {runner : Runner} {cwd : Path} {args : Args} {config : Config}
  {variant : Variant} {descriptors : List Path} {p : Plan}

theorem exists_made (h : plan tree runner cwd args = .ok p) :
    ∃ config, p.Made tree runner cwd args config := by
  unfold plan at h
  cases hconfig : Config.load tree cwd with
  | error e =>
      rw [hconfig] at h
      cases h
  | ok config =>
      simp only [hconfig] at h
      cases hvariant : chooseVariant config args with
      | error e =>
          rw [hvariant] at h
          cases h
      | ok variant =>
          simp only [hvariant] at h
          cases hdescriptors : tree.descriptors? (inputPath config args cwd) with
          | none =>
              rw [hdescriptors] at h
              cases h
          | some descriptors =>
              simp only [hdescriptors] at h
              obtain rfl := Except.ok.inj h
              exact ⟨config, hconfig, hvariant, rfl, rfl, rfl, hdescriptors, rfl, rfl⟩

theorem Plan.Made.resolved (h : p.Made tree runner cwd args config) :
    Resolved tree cwd args config p.options.variant p.descriptors :=
  ⟨h.load, h.choose, h.find⟩

theorem Resolved.unique {config' : Config} {variant' : Variant} {descriptors' : List Path}
    (h : Resolved tree cwd args config variant descriptors)
    (h' : Resolved tree cwd args config' variant' descriptors') :
    config = config' ∧ variant = variant' ∧ descriptors = descriptors' := by
  have hconfig := h'.load
  rw [h.load] at hconfig
  obtain rfl := Except.ok.inj hconfig
  have hvariant := h'.choose
  rw [h.choose] at hvariant
  have hdescriptors := h'.find
  rw [h.find] at hdescriptors
  exact ⟨rfl, Except.ok.inj hvariant, Option.some.inj hdescriptors⟩

/-- A plan is made of what is resolved. -/
theorem exists_plan (h : Resolved tree cwd args config variant descriptors) (runner : Runner) :
    ∃ p, plan tree runner cwd args = .ok p ∧ p.Made tree runner cwd args config ∧
      p.options = { variant } ∧ p.descriptors = descriptors := by
  cases hplan : plan tree runner cwd args with
  | error e =>
      simp only [plan, h.load, h.choose, h.find] at hplan
      cases hplan
  | ok p =>
      obtain ⟨_, hmade⟩ := exists_made hplan
      obtain ⟨rfl, rfl, rfl⟩ := h.unique hmade.resolved
      refine ⟨p, rfl, hmade, ?_, rfl⟩
      rw [← hmade.extension]

theorem Plan.Made.answers (h : p.Made tree runner cwd args config) :
    p.Answers tree cwd args config := by
  obtain ⟨hconfigured, hgiven⟩ := chooseVariant_eq_ok_iff.mp h.choose
  have hfind := h.find
  unfold inputPath at hfind
  refine ⟨h.load, h.extension, hgiven, hconfigured, h.outDir, ?_, ?_⟩
  · intro path hpath
    rwa [hpath] at hfind
  · intro hpath
    rwa [hpath] at hfind

theorem Plan.Answers.resolved (h : p.Answers tree cwd args config) :
    Resolved tree cwd args config p.options.variant p.descriptors := by
  refine ⟨h.load, chooseVariant_eq_ok_iff.mpr ⟨h.variant_configured, h.variant_given⟩, ?_⟩
  unfold inputPath
  cases hpath : args.path with
  | none => exact h.find_configured hpath
  | some path => exact h.find_given path hpath

/-- The plan that is made has the units of every plan with those that are asked for. -/
theorem Plan.Answers.exists_plan (h : p.Answers tree cwd args config) (runner : Runner) :
    ∃ made, plan tree runner cwd args = .ok made ∧ made.options = p.options ∧
      made.outDir = p.outDir ∧ made.descriptors = p.descriptors := by
  obtain ⟨made, hplan, hmade, hoptions, hdescriptors⟩ := Generate.exists_plan h.resolved runner
  refine ⟨made, hplan, ?_, hmade.outDir.trans h.outDir.symm, hdescriptors⟩
  rw [hoptions, ← h.extension]

theorem Plan.pairwise_of_refusal? (hextension : p.options.extension = "dart")
    (htoStdout : p.toStdout = false) (h : p.refusal? = none) (houtDir : p.outDir.isSome) :
    p.descriptors.Pairwise Apart := by
  obtain ⟨dir, hdir⟩ := Option.isSome_iff_exists.mp houtDir
  unfold Plan.refusal? at h
  split at h
  · cases h
  · rw [← collisionAfter_eq_none_iff hextension]
    simpa only [hdir, htoStdout, Bool.false_eq_true, if_false, Option.map_eq_none_iff] using h

/-- A plan for units named after their descriptors is not refused where these are apart. -/
theorem Plan.refusal?_eq_none (hextension : p.options.extension = "dart") (hnamed : p.unit = none)
    (hapart : p.outDir.isSome → p.descriptors.Pairwise Apart) : p.refusal? = none := by
  unfold Plan.refusal?
  rw [if_neg (by simp [hnamed])]
  cases houtDir : p.outDir with
  | none => rfl
  | some dir =>
      have hnone : collisionAfter p.options dir [] p.descriptors = none :=
        (collisionAfter_eq_none_iff hextension).mpr (hapart (by rw [houtDir]; rfl))
      simp [hnone]

theorem run_eq_of_plan (colored : Bool) (h : plan tree runner cwd args = .ok p) :
    (p.refusal? = none ∧
      (run tree runner colored cwd args).tree = (p.carryOut colored tree).tree ∧
      (run tree runner colored cwd args).result = (p.carryOut colored tree).result) ∨
    ∃ e, p.refusal? = some e ∧ (run tree runner colored cwd args).tree = tree ∧
      (run tree runner colored cwd args).result = .error e := by
  by_cases hempty : p.descriptors.isEmpty
  · have hnil := List.isEmpty_iff.mp hempty
    have hrefusal : p.refusal? = none := by
      unfold Plan.refusal?
      rw [hnil]
      cases p.outDir <;> simp [collisionAfter]
    have hdone : p.generateAll colored tree = ⟨tree, [], 0, 0⟩ := by
      rw [Plan.generateAll, hnil, List.foldl_nil]
    refine .inl ⟨hrefusal, ?_⟩
    simp only [run, h, hempty, if_true, Plan.carryOut, hdone, and_self]
  · cases hrefusal : p.refusal? with
    | none =>
        refine .inl ⟨rfl, ?_⟩
        simp only [run, h, hempty, hrefusal, Bool.false_eq_true, if_false, and_self]
    | some e =>
        refine .inr ⟨e, rfl, ?_⟩
        simp only [run, h, hempty, hrefusal, Bool.false_eq_true, if_false, and_self]

end

end Generate

end DartTriggers
