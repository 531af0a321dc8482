import DartTriggers.Toolbox.Programs
import DartTriggers.Proofs.Toolbox.Process
/-!
The programs that show files, names and texts. None of them changes the tree.
-/

namespace DartTriggers.Toolbox

/-! ### Words, names and conditions -/

theorem inert_echo : Program.Inert echo := by
  intro args s
  unfold echo
  simp

theorem inert_printf : Program.Inert printf := by
  intro args s
  unfold printf
  split
  · simp
  · rw [Outcome.tree_exit, Outcome.tree_say]
    exact tree_foldl Outcome.tree (fun o _ => o.tree_warn _) _ s.start

theorem inert_testAs (name : String) (programs : List String) :
    Program.Inert (testAs name programs) := by
  intro words s
  unfold testAs
  split <;> simp

theorem inert_bracketTest (programs : List String) : Program.Inert (bracketTest programs) := by
  intro args s
  unfold bracketTest
  split
  · exact inert_testAs "[" programs _ s
  · simp

theorem inert_basename : Program.Inert basename := by
  refine inert_withOptionsAt fun a s => ?_
  dsimp only
  split
  · simp
  · split
    · simp
    · split <;> simp

theorem inert_dirname : Program.Inert dirname := by
  refine inert_withOptionsAt fun a s => ?_
  dsimp only
  split <;> simp

theorem inert_workingDirectory : Program.Inert workingDirectory := by
  refine inert_withOptionsAt fun a s => ?_
  dsimp only
  split <;> simp

theorem inert_sleep : Program.Inert sleep := by
  refine inert_withOptionsAt fun a s => ?_
  dsimp only
  split
  · simp
  · simp
  · rw [Outcome.tree_complain]
    exact tree_foldl Outcome.tree (fun o _ => o.tree_warn _) _ s.start

theorem inert_seq : Program.Inert Sequence.seq := by
  intro args s
  refine inert_withOptionsAt (fun a s => ?_) _ s
  dsimp only
  split
  · split <;> simp
  · simp
  · split
    · simp
    · simp
    · split
      · simp
      · split <;> simp

/-! ### Texts of files -/

theorem tree_showFiles (d : Display) (s : Setting) (names : List String) (st : DisplayState)
    (o : Outcome) : (showFiles d s names st o).tree = o.tree := by
  induction names generalizing st o with
  | nil => rfl
  | cons name rest ih =>
      have hinput : (if name = "-" then { o with input := "" } else o).tree = o.tree :=
        Outcome.tree_ite rfl rfl
      rw [showFiles]
      split
      · rw [ih, Outcome.tree_complain, hinput]
      · refine Outcome.tree_ite ?_ (Outcome.tree_ite ?_ ?_)
        · rw [ih, Outcome.tree_complain, hinput]
        · rw [ih, Outcome.tree_say, hinput]
        · rw [ih, Outcome.tree_say, hinput]

theorem inert_cat : Program.Inert cat :=
  inert_withOptionsAt fun _ _ => tree_showFiles _ _ _ _ _

theorem tree_showPortions (name : String) (a : Arguments) (part : String → String) (reads : Bool)
    (s : Setting) : (showPortions name a part reads s).tree = s.tree := by
  refine tree_foldl (fun b : Outcome × Bool => b.1.tree) (fun b operand => ?_) _
    (s.start, true)
  obtain ⟨o, isFirst⟩ := b
  dsimp only
  split
  · rename_i o' hread
    dsimp only
    split
    · rw [Outcome.tree_complain, Outcome.tree_say, tree_of_readOperand hread]
    · rw [Outcome.tree_say, tree_of_readOperand hread]
  · rename_i o' e _ hread
    exact (o'.tree_complain _ _).trans (tree_of_readOperand hread)
  · rename_i o' text hread
    exact (o'.tree_say _).trans (tree_of_readOperand hread)

theorem inert_head : Program.Inert head := by
  intro args s
  unfold head
  split
  · simp
  · refine inert_withOptionsAt (fun a s => ?_) _ s
    split
    · simp
    · exact tree_showPortions _ _ _ _ s

theorem inert_tail : Program.Inert tail := by
  intro args s
  refine inert_withOptionsAt (fun a s => ?_) _ s
  split
  · simp
  · split
    · rfl
    · exact tree_showPortions _ _ _ _ s

theorem inert_tac : Program.Inert tac := by
  refine inert_withOptionsAt fun a s => tree_forEach (fun name o => ?_) _ s.start
  split
  · rename_i o' text hread
    exact (o'.tree_say _).trans (tree_of_readOperand hread)
  · rename_i o' hread
    exact (o'.tree_complain _ _).trans (tree_of_readOperand hread)
  · rename_i o' e _ hread
    exact (o'.tree_complain _ _).trans (tree_of_readOperand hread)

theorem inert_rev : Program.Inert rev := by
  refine inert_withOptionsAt fun a s => ?_
  split
  · simp
  · refine tree_forEach (fun name o => ?_) _ s.start
    split <;> simp

theorem inert_wc : Program.Inert wc := by
  refine inert_withOptionsAt fun a s => ?_
  refine Eq.trans (Outcome.tree_ite (Outcome.tree_say _ _) rfl) ?_
  refine tree_foldl (fun b : Outcome × Tally => b.1.tree) (fun b name => ?_) _ (s.start, _)
  obtain ⟨o, total⟩ := b
  dsimp only
  split
  · rename_i o' text hread
    exact (o'.tree_say _).trans (tree_of_readOperand hread)
  · rename_i o' e hread
    refine Outcome.tree_ite ?_ ?_
    · rw [Outcome.tree_say, Outcome.tree_complain, tree_of_readOperand hread]
    · rw [Outcome.tree_complain, tree_of_readOperand hread]

theorem inert_cut : Program.Inert cut := by
  refine inert_withOptionsAt fun a s => ?_
  split
  · simp
  · exact tree_eachOperand _ _ _ _ s.start

theorem inert_tr : Program.Inert CharMap.tr := by
  refine inert_withOptionsAt fun a s => ?_
  split
  · simp
  · dsimp only
    split
    · rw [Outcome.tree_complain]
      exact tree_foldl Outcome.tree (fun o _ => o.tree_warn _) _ s.start
    · rw [Outcome.tree_say]
      exact tree_foldl Outcome.tree (fun o _ => o.tree_warn _) _ s.start

/-! ### Directories and modes -/

theorem inert_ls : Program.Inert ls := by
  refine inert_withOptionsAt fun a s => ?_
  dsimp only
  refine (tree_foldl (fun b : Outcome × Bool => b.1.tree) (fun b name => ?_) _ _).trans ?_
  · exact b.1.tree_say _
  · rw [Outcome.tree_say]
    refine tree_forEach (fun name o => ?_) _ s.start
    split <;> simp

theorem inert_chmod : Program.Inert Mode.chmod := by
  intro args s
  refine inert_withOptionsAt (fun a s => ?_) _ s
  dsimp only
  split
  · simp
  · split <;> simp
  · split
    · simp
    · refine tree_forEach (fun name o => ?_) _ s.start
      split
      · rfl
      · split <;> simp

/-! ### Searching -/

theorem SearchTask.tree_text (t : SearchTask) (a : Arguments) (titled : Bool) (title text : String)
    (p : SearchProgress) : (t.text a titled title text p).outcome.tree = p.outcome.tree := by
  unfold SearchTask.text
  dsimp only
  split
  · simp
  · split
    · simp
    · split
      · simp
      · split <;> simp

theorem SearchTask.tree_file (t : SearchTask) (a : Arguments) (s : Setting) (titled : Bool)
    (name : String) (p : SearchProgress) :
    (t.file a s titled name p).outcome.tree = p.outcome.tree := by
  have hcomplained (o : Outcome) (text : String) :
      (if a.has 's' then o else o.warn text).tree = o.tree := by
    split <;> simp
  unfold SearchTask.file
  split
  · rfl
  · dsimp only
    split
    · rename_i o text hread
      rw [t.tree_text, tree_of_readOperand hread]
    · rename_i o hread
      split
      · rfl
      · rw [t.tree_text, hcomplained, tree_of_readOperand hread]
    · rename_i o e _ hread
      rw [hcomplained, tree_of_readOperand hread]

theorem inert_grepAs (way : Option Spelling) : Program.Inert (grepAs way) := by
  intro args s
  unfold grepAs
  split
  · simp
  · split
    · simp
    · split
      · simp
      · rename_i a _ _ _ t _
        have hwarned : (t.idle.foldl (fun o text =>
            o.warn ("grep: warning: " ++ text ++ " at start of expression\n")) s.start).tree =
              s.tree := tree_foldl Outcome.tree (fun o _ => o.tree_warn _) _ s.start
        refine Eq.trans (Outcome.tree_ite (Outcome.tree_exit _ _) (Outcome.tree_exit _ _)) ?_
        refine (tree_foldl (fun p : SearchProgress => p.outcome.tree) ?_ _ _).trans hwarned
        intro p file
        exact t.tree_file a s _ _ p

end DartTriggers.Toolbox
