import DartTriggers.Toolbox.Input
/-!
Programs that leave the tree as it is. Whatever is only said, counted or taken from the input does
not touch the tree; programs are put together of such steps.
-/

namespace DartTriggers.Toolbox

/-- A program that leaves the tree as it is, whatever its arguments are. -/
def Program.Inert (run : Program) : Prop :=
  ∀ args s, (run args s).tree = s.tree

@[simp]
theorem Setting.tree_start (s : Setting) : s.start.tree = s.tree :=
  rfl

namespace Outcome

@[simp]
theorem tree_say (o : Outcome) (text : String) : (o.say text).tree = o.tree := by
  unfold say
  split <;> rfl

@[simp]
theorem tree_warn (o : Outcome) (text : String) : (o.warn text).tree = o.tree := by
  unfold warn
  split <;> rfl

@[simp]
theorem tree_exit (o : Outcome) (code : Nat) : (o.exit code).tree = o.tree :=
  rfl

@[simp]
theorem tree_complain (o : Outcome) (code : Nat) (text : String) :
    (o.complain code text).tree = o.tree := by
  rw [complain, tree_exit, tree_warn]

@[simp]
theorem tree_misused (o : Outcome) (code : Nat) (name message : String) :
    (o.misused code name message).tree = o.tree :=
  o.tree_complain code _

theorem tree_ite {p : Prop} [Decidable p] {o o' : Outcome} {tree : FileTree} (h : o.tree = tree)
    (h' : o'.tree = tree) : (if p then o else o').tree = tree := by
  split
  · exact h
  · exact h'

end Outcome

/-- Steps that leave the tree as it is do so one after the other. -/
theorem tree_foldl {α β : Type} (view : β → FileTree) {step : β → α → β}
    (h : ∀ b a, view (step b a) = view b) (l : List α) (b : β) :
    view (l.foldl step b) = view b := by
  apply List.foldlRecOn (motive := fun b' => view b' = view b) l step rfl
  intro b' hb' a _
  rw [h, hb']

theorem tree_forEach {act : String → Outcome → Outcome}
    (h : ∀ arg o, (act arg o).tree = o.tree) (args : List String) (o : Outcome) :
    (forEach act args o).tree = o.tree :=
  tree_foldl Outcome.tree (fun o arg => h arg o) args o

/-- Reading takes from the input at most. -/
theorem tree_of_readOperand {s : Setting} {name : String} {o o' : Outcome}
    {read : Except FileError String} (h : readOperand s name o = (o', read)) :
    o'.tree = o.tree := by
  unfold readOperand at h
  split at h
  · obtain ⟨rfl, -⟩ := Prod.mk.inj h
    rfl
  · obtain ⟨rfl, -⟩ := Prod.mk.inj h
    rfl

theorem tree_eachOperand (program : String) (s : Setting) (shown : String → String)
    (operands : List String) (o : Outcome) :
    (eachOperand program s shown operands o).tree = o.tree := by
  refine tree_forEach (fun name o => ?_) _ o
  split
  · rename_i o' text hread
    exact (o'.tree_say _).trans (tree_of_readOperand hread)
  · rename_i o' e hread
    exact (o'.tree_complain _ _).trans (tree_of_readOperand hread)

theorem inert_withOptionsAt {optionsFirst : Bool} {name : String} {known : List Choice} {code : Nat}
    {run : Arguments → Setting → Outcome} (h : ∀ a s, (run a s).tree = s.tree) :
    Program.Inert (withOptionsAt optionsFirst name known code run) := by
  intro args s
  unfold withOptionsAt
  split
  · exact h _ s
  · exact s.start.tree_complain _ _

end DartTriggers.Toolbox
