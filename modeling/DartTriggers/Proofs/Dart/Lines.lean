import Mathlib.Data.List.Basic
import DartTriggers.Dart.Print
/-!
Printed source as a list of lines. The printer only writes whole lines, and comes back to the level
it started from after each declaration and each member.
-/

namespace DartTriggers.Dart

def OneLine (text : String) : Prop :=
  '\n' ∉ text.toList

instance (text : String) : Decidable (OneLine text) :=
  inferInstanceAs (Decidable (¬ _))

theorem oneLine_append {s t : String} : OneLine (s ++ t) ↔ OneLine s ∧ OneLine t := by
  simp [OneLine]

/-- Lines below each other, each with its line feed. -/
def unlines (ls : List String) : List Char :=
  ls.flatMap fun l => l.toList ++ ['\n']

theorem unlines_cons (l : String) (ls : List String) :
    unlines (l :: ls) = l.toList ++ '\n' :: unlines ls := by
  simp [unlines]

theorem unlines_append (ls ls' : List String) :
    unlines (ls ++ ls') = unlines ls ++ unlines ls' :=
  List.flatMap_append

/-- What stands before the first occurrence of a character is known from the text. -/
theorem append_cons_inj {c : Char} {l l' r r' : List Char} (hl : c ∉ l) (hl' : c ∉ l')
    (h : l ++ c :: r = l' ++ c :: r') : l = l' ∧ r = r' := by
  induction l generalizing l' with
  | nil =>
      cases l' with
      | nil => exact ⟨rfl, (List.cons.inj h).2⟩
      | cons d l' =>
          have hd : c = d := (List.cons.inj h).1
          exact absurd (by rw [hd]; exact List.mem_cons_self) hl'
  | cons d l ih =>
      cases l' with
      | nil =>
          have hd : d = c := (List.cons.inj h).1
          exact absurd (by rw [hd]; exact List.mem_cons_self) hl
      | cons d' l' =>
          obtain ⟨hd, htail⟩ := List.cons.inj h
          obtain ⟨hline, hrest⟩ := ih (List.not_mem_of_not_mem_cons hl)
            (List.not_mem_of_not_mem_cons hl') htail
          exact ⟨by rw [hd, hline], hrest⟩

theorem unlines_inj {ls ls' : List String} (hls : ∀ l ∈ ls, OneLine l)
    (hls' : ∀ l ∈ ls', OneLine l) (h : unlines ls = unlines ls') : ls = ls' := by
  induction ls generalizing ls' with
  | nil =>
      cases ls' with
      | nil => rfl
      | cons l' ls' => simp [unlines] at h
  | cons l ls ih =>
      cases ls' with
      | nil => simp [unlines] at h
      | cons l' ls' =>
          rw [List.forall_mem_cons] at hls hls'
          rw [unlines_cons, unlines_cons] at h
          obtain ⟨hline, hrest⟩ := append_cons_inj hls.1 hls'.1 h
          rw [String.toList_inj.mp hline, ih hls.2 hls'.2 hrest]

/-- The lines of a text of which each line ends in a line feed. -/
def textLines (text : String) : List String :=
  (List.splitOn '\n' text.toList).dropLast.map .ofList

theorem splitOn_unlines {ls : List String} (h : ∀ l ∈ ls, OneLine l) :
    List.splitOn '\n' (unlines ls) = ls.map String.toList ++ [[]] := by
  induction ls with
  | nil => rfl
  | cons l ls ih =>
      rw [List.forall_mem_cons] at h
      have hfirst : List.splitOn '\n' l.toList = [l.toList] := List.splitOn_eq_singleton h.1
      rw [unlines_cons, List.splitOn_append_cons_self, hfirst, ih h.2]
      rfl

theorem textLines_eq {text : String} {ls : List String} (htext : text.toList = unlines ls)
    (h : ∀ l ∈ ls, OneLine l) : textLines text = ls := by
  rw [textLines, htext, splitOn_unlines h, List.dropLast_concat, List.map_map]
  have hsame : String.ofList ∘ String.toList = id := by
    funext l
    exact String.ofList_toList
  rw [hsame, List.map_id]

theorem head?_unlines {l : String} (hne : l ≠ "") (h : OneLine l) (ls : List String) :
    (unlines (l :: ls)).head? ≠ some '\n' := by
  have hchars : l.toList ≠ [] := mt String.toList_eq_nil_iff.mp hne
  rw [unlines_cons, List.head?_append_of_ne_nil _ hchars]
  intro hhead
  exact h (List.mem_of_head? hhead)

theorem exists_unlines_concat {l : String} (hne : l ≠ "") (h : OneLine l) (ls : List String) :
    ∃ text last, unlines (ls ++ [l]) = text ++ [last, '\n'] ∧ last ≠ '\n' := by
  have hchars : l.toList ≠ [] := mt String.toList_eq_nil_iff.mp hne
  refine ⟨unlines ls ++ l.toList.dropLast, l.toList.getLast hchars, ?_, ?_⟩
  · have hsplit := List.dropLast_append_getLast hchars
    rw [unlines_append, unlines_cons, List.append_assoc]
    congr 1
    conv_lhs => rw [← hsplit]
    simp [unlines]
  · intro hlast
    exact h (hlast ▸ List.getLast_mem hchars)

/-- A step that writes a whole line or nothing. -/
def LayoutStep.IsWhole : LayoutStep → Prop
  | .line _ | .blank | .indent | .dedent => True
  | .add _ | .indented _ => False

namespace Layout

def levelAfter (level : Nat) : List LayoutStep → Nat
  | [] => level
  | .indent :: steps => levelAfter (level + 1) steps
  | .dedent :: steps => levelAfter (level - 1) steps
  | _ :: steps => levelAfter level steps

/-- The lines that some steps write. -/
def lines (level : Nat) : List LayoutStep → List String
  | [] => []
  | .line text :: steps => (margin level ++ text) :: lines level steps
  | .blank :: steps => "" :: lines level steps
  | .indent :: steps => lines (level + 1) steps
  | .dedent :: steps => lines (level - 1) steps
  | .add _ :: steps | .indented _ :: steps => lines level steps

theorem levelAfter_append (level : Nat) (steps steps' : List LayoutStep) :
    levelAfter level (steps ++ steps') = levelAfter (levelAfter level steps) steps' := by
  induction steps generalizing level with
  | nil => rfl
  | cons s steps ih => cases s <;> exact ih _

theorem lines_append (level : Nat) (steps steps' : List LayoutStep) :
    lines level (steps ++ steps') = lines level steps ++ lines (levelAfter level steps) steps' := by
  induction steps generalizing level with
  | nil => rfl
  | cons s steps ih => cases s <;> simp [lines, levelAfter, ih]

/-- Steps that write whole lines add those lines to the text. -/
theorem toList_text_run (w : Layout) (steps : List LayoutStep) (h : ∀ s ∈ steps, s.IsWhole) :
    (run w steps).text.toList = w.text.toList ++ unlines (lines w.level steps) := by
  induction steps generalizing w with
  | nil => simp [run, lines, unlines]
  | cons s steps ih =>
      rw [List.forall_mem_cons] at h
      change (run (step w s) steps).text.toList = _
      rw [ih (step w s) h.2]
      cases s with
      | add text => exact absurd h.1 id
      | indented text => exact absurd h.1 id
      | line text => simp [step, lines, unlines_cons]
      | blank => simp [step, lines, unlines_cons]
      | indent => simp [step, lines]
      | dedent => simp [step, lines]

theorem oneLine_margin (level : Nat) : OneLine (margin level) := by
  simp [OneLine, margin]

theorem oneLine_of_mem_lines {level : Nat} {steps : List LayoutStep}
    (h : ∀ text, .line text ∈ steps → OneLine text) : ∀ l ∈ lines level steps, OneLine l := by
  have hempty : OneLine "" := by decide
  induction steps generalizing level with
  | nil => simp [lines]
  | cons s steps ih =>
      have hsteps : ∀ text, .line text ∈ steps → OneLine text :=
        fun text htext => h text (List.mem_cons_of_mem _ htext)
      cases s with
      | line text =>
          have htext : OneLine text := h text List.mem_cons_self
          exact List.forall_mem_cons.mpr
            ⟨oneLine_append.mpr ⟨oneLine_margin level, htext⟩, ih hsteps⟩
      | blank => exact List.forall_mem_cons.mpr ⟨hempty, ih hsteps⟩
      | _ => exact ih hsteps

end Layout

end DartTriggers.Dart
