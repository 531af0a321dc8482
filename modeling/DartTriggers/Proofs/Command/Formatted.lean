import DartTriggers.Proofs.Command.Plan
import DartTriggers.Proofs.WriteUnit
/-!
Runs whose formatter leaves the tree as it is. Such a run leaves the same files behind as a run
without formatter and comes to the same result; only what is shown can be different.
-/

namespace DartTriggers

/-- A formatter that leaves every tree as it is. -/
def Formatter.Inert (formatter : Formatter) : Prop :=
  ∀ file tree, (formatter file tree).tree = tree

/-- A program that leaves every tree as it is, whatever its arguments are. -/
def Runner.Inert (runner : Runner) (program : String) : Prop :=
  ∀ args tree, (runner program args tree).tree = tree

theorem Formatter.inert_none : Formatter.none.Inert :=
  fun _ _ => rfl

theorem Formatter.inert_ofCommand {runner : Runner} {command : Command}
    (h : Runner.Inert runner command.program) : (Formatter.ofCommand runner command).Inert :=
  fun _ tree => h _ tree

/-- Where the program of the formatter leaves every tree as it is, so does the formatter. -/
theorem Config.inert_formatter {config : Config} {runner : Runner}
    (h : ∀ command, config.formatterCommand? = some command →
      Runner.Inert runner command.program) : (config.formatter runner).Inert := by
  unfold formatter
  cases hcommand : config.formatterCommand? with
  | none => exact Formatter.inert_none
  | some command => exact Formatter.inert_ofCommand (h command hcommand)

section

variable {formatter : Formatter} (hinert : formatter.Inert)

include hinert

theorem writeUnit_of_inert (tree : FileTree) (options : Options) (unit : UnitName) (dir : Path)
    (r : Registry) :
    (writeUnit tree formatter options unit dir r).tree =
        (writeUnit tree .none options unit dir r).tree ∧
      (writeUnit tree formatter options unit dir r).result =
        (writeUnit tree .none options unit dir r).result := by
  cases hwrite : tree.writeText (unitFile options unit dir) (Dart.generateUnit options unit r) with
  | error e =>
      rw [writeUnit_of_error _ _ _ _ hwrite, writeUnit_of_error _ _ _ _ hwrite]
      exact ⟨rfl, rfl⟩
  | ok written =>
      rw [writeUnit_of_ok _ _ _ _ hwrite, writeUnit_of_ok _ _ _ _ hwrite]
      exact ⟨hinert _ written, rfl⟩

end

namespace Generate

/-- A plan without its formatter. -/
def Plan.unformatted (p : Plan) : Plan :=
  { p with formatter := .none }

/-- What is to be formatted is planned as what is not, up to the formatter. -/
theorem plan_noFormat (tree : FileTree) (runner runner' : Runner) (cwd : Path) (args : Args) :
    plan tree runner' cwd { args with noFormat := true } =
      (plan tree runner cwd args).map Plan.unformatted := by
  have hchoose : ∀ config, chooseVariant config { args with noFormat := true } =
      chooseVariant config args := fun _ => rfl
  have hinput : ∀ config, inputPath config { args with noFormat := true } cwd =
      inputPath config args cwd := fun _ => rfl
  unfold plan
  simp only [hchoose, hinput]
  cases Config.load tree cwd with
  | error e => rfl
  | ok config =>
      cases hvariant : chooseVariant config args with
      | error e => simp only [hvariant, Except.map]
      | ok variant =>
          simp only [hvariant]
          cases tree.descriptors? (inputPath config args cwd) <;> rfl

/-- Progress of two runs that have come to the same, whatever they have shown. -/
structure Progress.Level (a b : Progress) : Prop where
  tree : a.tree = b.tree
  succeeded : a.succeeded = b.succeeded
  failed : a.failed = b.failed

section

variable {p : Plan} (hinert : p.formatter.Inert)

include hinert

theorem Plan.generate_of_inert (tree : FileTree) (d : Path) :
    (p.generate tree d).tree = (p.unformatted.generate tree d).tree ∧
      (p.generate tree d).result = (p.unformatted.generate tree d).result := by
  have hmake : p.unformatted.makeDirectory = p.makeDirectory := rfl
  have hunit : p.unformatted.unitOf = p.unitOf := rfl
  unfold generate
  cases Registry.load tree d with
  | error e => exact ⟨rfl, rfl⟩
  | ok loaded =>
      simp only [hunit]
      cases p.unitOf d with
      | error e => exact ⟨rfl, rfl⟩
      | ok unit =>
          simp only [emit, hmake]
          by_cases hstdout : p.toStdout = true
          · simp only [unformatted, hstdout, if_true, and_self]
          · simp only [unformatted, hstdout]
            rcases p.makeDirectory tree d with ⟨made, e | dir⟩
            · exact ⟨rfl, rfl⟩
            · obtain ⟨htree, hresult⟩ := writeUnit_of_inert hinert made p.options unit dir loaded.value
              simp only [htree, hresult]
              exact ⟨rfl, rfl⟩

theorem Plan.advance_of_inert (colored colored' : Bool) {a b : Progress} (h : a.Level b)
    (d : Path) : (p.advance colored a d).Level (p.unformatted.advance colored' b d) := by
  obtain ⟨htree, hresult⟩ := p.generate_of_inert hinert b.tree d
  refine ⟨?_, ?_, ?_⟩
  · simp only [advance, h.tree, htree]
  · simp only [advance, h.tree, h.succeeded, hresult]
  · simp only [advance, h.tree, h.failed, hresult]

theorem Plan.foldl_advance_of_inert (colored colored' : Bool) (descriptors : List Path)
    {a b : Progress} (h : a.Level b) :
    (descriptors.foldl (p.advance colored) a).Level
      (descriptors.foldl (p.unformatted.advance colored') b) := by
  induction descriptors generalizing a b with
  | nil => exact h
  | cons d descriptors ih => exact ih (p.advance_of_inert hinert colored colored' h d)

theorem Plan.carryOut_of_inert (colored colored' : Bool) (tree : FileTree) :
    (p.carryOut colored tree).tree = (p.unformatted.carryOut colored' tree).tree ∧
      (p.carryOut colored tree).result = (p.unformatted.carryOut colored' tree).result := by
  have hlevel : (p.generateAll colored tree).Level (p.unformatted.generateAll colored' tree) :=
    p.foldl_advance_of_inert hinert colored colored' p.descriptors ⟨rfl, rfl, rfl⟩
  refine ⟨hlevel.tree, ?_⟩
  simp only [carryOut, hlevel.failed]

end

/-- A run whose formatter leaves every tree as it is writes the same files as one without formatter
and comes to the same result, whichever programs there are then. -/
theorem run_of_inert {tree : FileTree} {runner : Runner} {cwd : Path} {args : Args}
    (hinert : ∀ config command, Config.load tree cwd = .ok config →
      config.formatterCommand? = some command → Runner.Inert runner command.program)
    (runner' : Runner) (colored colored' : Bool) :
    let formatted := run tree runner colored cwd args
    let plain := run tree runner' colored' cwd { args with noFormat := true }
    formatted.tree = plain.tree ∧ formatted.result = plain.result := by
  intro formatted plain
  have hplan' := plan_noFormat tree runner runner' cwd args
  cases hplan : plan tree runner cwd args with
  | error e =>
      rw [hplan] at hplan'
      simp only [formatted, plain, run, hplan, hplan', Except.map, and_self]
  | ok p =>
      rw [hplan] at hplan'
      obtain ⟨config, hmade⟩ := exists_made hplan
      have hformatter : p.formatter.Inert := by
        rw [hmade.formatter]
        split
        · exact Formatter.inert_none
        · exact Config.inert_formatter fun command => hinert config command hmade.load
      obtain ⟨htree, hresult⟩ := p.carryOut_of_inert hformatter colored colored' tree
      have hrefusal : p.unformatted.refusal? = p.refusal? := rfl
      rcases run_eq_of_plan colored hplan with
        ⟨hnone, hrun, hcame⟩ | ⟨e, hsome, hrun, hcame⟩ <;>
      rcases run_eq_of_plan colored' hplan' with
        ⟨hnone', hrun', hcame'⟩ | ⟨e', hsome', hrun', hcame'⟩
      · exact ⟨hrun.trans (htree.trans hrun'.symm), hcame.trans (hresult.trans hcame'.symm)⟩
      · rw [hrefusal, hnone] at hsome'
        cases hsome'
      · rw [hrefusal, hsome] at hnone'
        cases hnone'
      · rw [hrefusal, hsome] at hsome'
        obtain rfl := Option.some.inj hsome'
        exact ⟨hrun.trans hrun'.symm, hcame.trans hcame'.symm⟩

end Generate

end DartTriggers
