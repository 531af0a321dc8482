import Mathlib.Data.List.Infix
import DartTriggers.Proofs.Dart.Lines
/-!
The same steps at another level. Steps that never go back behind the level they start from write at
each level what they write at the outermost one, only with a wider margin, and a step back from the
outermost level does nothing.
-/

namespace DartTriggers.Dart

/-- What a step writes at a level when a gap is left before the text of a line and before an
indented text. -/
def LayoutStep.written (gap : String) (level : Nat) : LayoutStep → String
  | .add text => text
  | .line text => Layout.margin level ++ gap ++ text ++ "\n"
  | .indented text => Layout.margin level ++ gap ++ text
  | .blank => "\n"
  | .indent | .dedent => ""

theorem Layout.margin_add (n level : Nat) : margin (n + level) = margin level ++ margin n := by
  rw [← String.toList_inj]
  simp [margin, Nat.mul_add, Nat.add_comm]

theorem LayoutStep.written_add (n level : Nat) (s : LayoutStep) :
    s.written "" (n + level) = s.written (Layout.margin n) level := by
  cases s <;> simp [written, Layout.margin_add]

namespace Layout

/-- What some steps write from a level on, with such a gap in each of them. -/
def written (gap : String) (level : Nat) : List LayoutStep → String
  | [] => ""
  | s :: steps => s.written gap level ++ written gap (levelAfter level [s]) steps

theorem step_eq (w : Layout) (s : LayoutStep) :
    step w s = ⟨w.text ++ s.written "" w.level, levelAfter w.level [s]⟩ := by
  cases s <;> simp [step, LayoutStep.written, levelAfter, String.append_assoc]

theorem run_eq_written (w : Layout) (steps : List LayoutStep) :
    run w steps = ⟨w.text ++ written "" w.level steps, levelAfter w.level steps⟩ := by
  induction steps generalizing w with
  | nil => simp [run, written, levelAfter]
  | cons s steps ih =>
      have hlevel : levelAfter w.level (s :: steps) = levelAfter (levelAfter w.level [s]) steps :=
        levelAfter_append w.level [s] steps
      change run (step w s) steps = _
      rw [ih, step_eq, written, hlevel, String.append_assoc]

theorem run_append (w : Layout) (steps steps' : List LayoutStep) :
    run w (steps ++ steps') = run (run w steps) steps' :=
  List.foldl_append

theorem step_dedent {w : Layout} (h : w.level = 0) : step w .dedent = w := by
  cases w with
  | mk text level =>
      obtain rfl : level = 0 := h
      rfl

/-- Steps that go back behind the level they start from by at most `depth` levels: each beginning of
them has at most `depth` more steps back than steps ahead. -/
def DescendsAtMost (depth : Nat) (steps : List LayoutStep) : Prop :=
  ∀ before, before <+: steps → before.count .dedent ≤ depth + before.count .indent

instance (depth : Nat) (steps : List LayoutStep) : Decidable (DescendsAtMost depth steps) :=
  decidable_of_iff
    (∀ before ∈ steps.inits, before.count .dedent ≤ depth + before.count .indent)
    (by simp only [DescendsAtMost, List.mem_inits])

namespace DescendsAtMost

theorem add {depth : Nat} {steps : List LayoutStep} (h : DescendsAtMost depth steps) (n : Nat) :
    DescendsAtMost (n + depth) steps := by
  intro before hbefore
  have hcount := h before hbefore
  omega

theorem head {depth : Nat} {s : LayoutStep} {steps : List LayoutStep}
    (h : DescendsAtMost depth (s :: steps)) : DescendsAtMost depth [s] := by
  intro before hbefore
  apply h before
  exact hbefore.trans (List.prefix_append [s] steps)

/-- A step back counts where there is a level to go back to. -/
theorem levelAfter_singleton {level : Nat} {s : LayoutStep} (h : DescendsAtMost level [s]) :
    levelAfter level [s] + [s].count .dedent = level + [s].count .indent := by
  cases s with
  | dedent =>
      have hlevel : 1 ≤ level := by simpa using h [.dedent] List.prefix_rfl
      simpa [levelAfter] using Nat.sub_add_cancel hlevel
  | _ => simp [levelAfter]

theorem tail {level : Nat} {s : LayoutStep} {steps : List LayoutStep}
    (h : DescendsAtMost level (s :: steps)) : DescendsAtMost (levelAfter level [s]) steps := by
  intro before hbefore
  have hlevel := h.head.levelAfter_singleton
  have hcount := h (s :: before) (List.cons_prefix_cons.mpr ⟨rfl, hbefore⟩)
  rw [← List.singleton_append, List.count_append, List.count_append] at hcount
  omega

theorem levelAfter_eq {level : Nat} {steps : List LayoutStep} (h : DescendsAtMost level steps) :
    levelAfter level steps + steps.count .dedent = level + steps.count .indent := by
  induction steps generalizing level with
  | nil => rfl
  | cons s steps ih =>
      have hfirst := h.head.levelAfter_singleton
      have hrest := ih h.tail
      rw [← List.singleton_append, levelAfter_append, List.count_append, List.count_append]
      omega

theorem levelAfter_add {level : Nat} {steps : List LayoutStep} (h : DescendsAtMost level steps)
    (n : Nat) : levelAfter (n + level) steps = n + levelAfter level steps := by
  have hlow := h.levelAfter_eq
  have hhigh := (h.add n).levelAfter_eq
  omega

end DescendsAtMost

/-- The level is general, as the steps after the first one may start further in. -/
theorem written_add {level : Nat} {steps : List LayoutStep} (h : DescendsAtMost level steps)
    (n : Nat) : written "" (n + level) steps = written (margin n) level steps := by
  induction steps generalizing level with
  | nil => rfl
  | cons s steps ih =>
      rw [written, written, s.written_add, h.head.levelAfter_add, ih h.tail]

/-- Steps that never go back behind the level they start from write at every level what they write
at the outermost one, with two more blanks for each level before the text of each line and before
each indented text, and come out as many levels further in. In whatever steps, one that goes back
from the outermost level can be left out. -/
theorem run_shift :
    (∀ (w : Layout) (steps : List LayoutStep), DescendsAtMost 0 steps →
      (run {} steps).text = written "" 0 steps ∧
      run w steps = ⟨w.text ++ written (.ofList (List.replicate (2 * w.level) ' ')) 0 steps,
        w.level + (run {} steps).level⟩) ∧
    ∀ (w : Layout) (before after : List LayoutStep), (run w before).level = 0 →
      run w (before ++ .dedent :: after) = run w (before ++ after) := by
  constructor
  · intro w steps h
    have houter : run {} steps = ⟨written "" 0 steps, levelAfter 0 steps⟩ := by
      rw [run_eq_written, String.empty_append]
    have htext : written "" w.level steps = written (margin w.level) 0 steps :=
      written_add h w.level
    have hlevel : levelAfter w.level steps = w.level + levelAfter 0 steps :=
      h.levelAfter_add w.level
    refine ⟨by rw [houter], ?_⟩
    rw [run_eq_written, htext, hlevel, houter, margin]
  · intro w before after h
    rw [run_append, run_append]
    change run (step (run w before) .dedent) after = _
    rw [step_dedent h]

/-- The margin stands once before a line that goes on, before each line of a class, and not before
the empty lines. A class that is left twice comes out as if it had been left once. -/
theorem run_shift_nested :
    let steps : List LayoutStep := [.indented "final x", .add " = 1;", .blank,
      .line "class A \x7b", .indent, .line "int x;", .blank, .dedent, .line "\x7d", .indent]
    let body : List LayoutStep := [.line "class A \x7b", .indent, .line "int x;", .dedent]
    DescendsAtMost 0 steps ∧
    run ⟨"//\n", 2⟩ steps =
      ⟨"//\n    final x = 1;\n    class A \x7b\n      int x;\n\n    \x7d\n", 3⟩ ∧
    (run {} body).level = 0 ∧
    run {} (body ++ [.dedent, .line "\x7d"]) = ⟨"class A \x7b\n  int x;\n\x7d\n", 0⟩ := by
  intro steps body
  have hsteps : DescendsAtMost 0 steps := by decide
  have hbody : (run {} body).level = 0 := by decide
  refine ⟨hsteps, ?_, hbody, ?_⟩
  · rw [(run_shift.1 ⟨"//\n", 2⟩ steps hsteps).2]
    decide
  · rw [run_shift.2 {} body [.line "\x7d"] hbody]
    decide

end Layout

end DartTriggers.Dart
