import DartTriggers.Toolbox
import DartTriggers.Proofs.Command.Formatted
import DartTriggers.Proofs.Toolbox.Readers
/-!
Which programs change the tree. A formatter that is none of them, or that is not there at all, has
no bearing on the files that a run writes.
-/

namespace DartTriggers.Toolbox

/-- The programs that can change the tree, those that run others among them. -/
def changers : List String :=
  ["rm", "rmdir", "touch", "mkdir", "cp", "mv", "sort", "uniq", "tee", "sed", "sh", "dash", "env"]

theorem inert_calledAs {run : Program} (h : run.Inert) (name called : String) :
    (calledAs name called run).Inert := by
  intro args s
  unfold calledAs
  split
  · exact h args s
  · exact h args s

/-- The programs by their names, each of which changes nothing or is one of those that can. -/
theorem inert_of_mem_plainPrograms {names : List String} {name : String} {run : Program}
    (h : (name, run) ∈ plainPrograms names) (hname : name ∉ changers) : run.Inert := by
  have hstart : Program.Inert fun _ s => s.start := fun _ _ => rfl
  have hexit : Program.Inert fun _ s => s.start.exit 1 := fun _ _ => rfl
  have hall : ∀ e ∈ plainPrograms names, e.1 ∉ changers → e.2.Inert := by
    simp only [plainPrograms, changers, List.forall_mem_cons, List.not_mem_nil, false_implies,
      implies_true, and_true]
    simp [hstart, hexit, inert_sleep, inert_cat, inert_echo, inert_printf, inert_chmod, inert_ls,
      inert_testAs, inert_bracketTest, inert_head, inert_tail, inert_tac, inert_rev, inert_wc,
      inert_cut, inert_tr, inert_grepAs, inert_basename, inert_dirname, inert_workingDirectory,
      inert_seq]
  exact hall _ h hname

theorem inert_program? {room : Nat} {name called : String} {run : Program}
    (h : program? room name called = some run) (hname : name ∉ changers) : run.Inert := by
  have hplain : ∀ {run}, program? 0 name called = some run → run.Inert := by
    intro run hrun
    rw [program?] at hrun
    obtain ⟨plain, hlookup, rfl⟩ := Option.map_eq_some_iff.mp hrun
    obtain ⟨before, after, heq, -⟩ := List.lookup_eq_some_iff.mp hlookup
    have hmem : (name, plain) ∈ plainPrograms programNames := by
      rw [heq]
      exact List.mem_append_right before (List.mem_cons_self ..)
    exact inert_calledAs (inert_of_mem_plainPrograms hmem hname) name called
  cases room with
  | zero => exact hplain h
  | succ room =>
      simp only [changers, List.mem_cons, List.not_mem_nil, or_false, not_or] at hname
      rw [program?, if_neg (by tauto), if_neg (by tauto), if_neg (by tauto)] at h
      exact hplain h

/-- A name that stands for no program, or for one that changes nothing, wherever it is started. -/
theorem inert_runner {cwd : Path} {name : String}
    (h : ∀ tree base, programName? tree cwd name = some base → base ∉ changers) :
    Runner.Inert (runner cwd) name := by
  intro args tree
  unfold runner
  split
  · rfl
  · split
    · rfl
    · rename_i run hrun
      obtain ⟨base, hbase, hprogram⟩ := Option.bind_eq_some_iff.mp hrun
      exact inert_program? hprogram (h tree base hbase) _ _

theorem inert_runner_of_name (cwd : Path) {name : String} (hslash : '/' ∉ name.toList)
    (hname : name ∉ changers) : Runner.Inert (runner cwd) name := by
  refine inert_runner fun tree base hbase => ?_
  have hplain : name.toList.contains '/' = false := by simpa using hslash
  rw [programName?, hplain] at hbase
  obtain rfl := Option.some.inj hbase
  exact hname

/-- A run whose formatter is called by the name of a program that changes nothing, or of none that
is there, writes the same files as one without formatter and comes to the same result. -/
theorem run_of_formatter_name {tree : FileTree} {cwd : Path} {args : Generate.Args}
    (h : ∀ config command, Config.load tree cwd = .ok config →
      config.formatterCommand? = some command →
        '/' ∉ command.program.toList ∧ command.program ∉ changers)
    (runner' : Runner) (colored colored' : Bool) :
    let formatted := Generate.run tree (runner cwd) colored cwd args
    let plain := Generate.run tree runner' colored' cwd { args with noFormat := true }
    formatted.tree = plain.tree ∧ formatted.result = plain.result := by
  refine Generate.run_of_inert (fun config command hload hcommand => ?_) runner' colored colored'
  obtain ⟨hslash, hname⟩ := h config command hload hcommand
  exact inert_runner_of_name cwd hslash hname

end DartTriggers.Toolbox
