import DartTriggers.Proofs.Dart.Lines
/-!
The lines of printed members, classes and declarations. When none of their texts has a line feed,
neither has any of these lines.
-/

namespace DartTriggers.Dart

open Layout (lines levelAfter lines_append levelAfter_append)

namespace Body

/-- The texts in a body. -/
def texts : Body → List String
  | .arrow expression => [expression]
  | .block statements => statements

theorem isWhole_of_mem_steps {signature : String} {body : Body} :
    ∀ s ∈ body.steps signature, s.IsWhole := by
  rcases body with expression | ⟨_ | ⟨first, rest⟩⟩
  · simp [steps, LayoutStep.IsWhole]
  · simp [steps, LayoutStep.IsWhole]
  · have hstatements : ∀ s ∈ (first :: rest).map LayoutStep.line, s.IsWhole := by
      rw [List.forall_mem_map]
      exact fun _ _ => trivial
    rw [steps, List.forall_mem_append, List.forall_mem_append]
    refine ⟨⟨?_, hstatements⟩, ?_⟩ <;> simp [LayoutStep.IsWhole]

theorem levelAfter_map_line (level : Nat) (statements : List String) :
    levelAfter level (statements.map .line) = level := by
  induction statements with
  | nil => rfl
  | cons statement statements ih => exact ih

theorem lines_map_line (level : Nat) (statements : List String) :
    lines level (statements.map .line) = statements.map (Layout.margin level ++ ·) := by
  induction statements with
  | nil => rfl
  | cons statement statements ih => simp [lines, ih]

theorem levelAfter_steps (level : Nat) (signature : String) (body : Body) :
    levelAfter level (body.steps signature) = level := by
  rcases body with expression | ⟨_ | ⟨first, rest⟩⟩
  · rfl
  · rfl
  · rw [steps, levelAfter_append, levelAfter_append, levelAfter_map_line]
    rfl

theorem oneLine_of_mem_steps {signature : String} {body : Body} (hsignature : OneLine signature)
    (hbody : ∀ t ∈ body.texts, OneLine t) {text : String} (h : .line text ∈ body.steps signature) :
    OneLine text := by
  rcases body with expression | ⟨_ | ⟨first, rest⟩⟩
  · have hexpression : OneLine expression := hbody _ (by simp [texts])
    obtain rfl : text = signature ++ " => " ++ expression ++ ";" := by simpa [steps] using h
    simp_all [OneLine]
  · obtain rfl : text = signature ++ " \x7b\x7d" := by simpa [steps] using h
    simp_all [OneLine]
  · have hcases : text = signature ++ " \x7b" ∨ text ∈ first :: rest ∨ text = "\x7d" := by
      simpa [steps, or_assoc] using h
    rcases hcases with rfl | htext | rfl
    · simp_all [OneLine]
    · exact hbody text htext
    · decide

end Body

namespace Member

def texts : Member → List String
  | .comment text => [text]
  | .field modifiers type name init => modifiers.toList ++ type.toList ++ [name] ++ init.toList
  | .constructor name body | .factory name body => name :: body.texts
  | .getter type name body => type :: name :: body.texts
  | .setter name type param body => name :: type :: param :: body.texts
  | .method modifiers returns name params body =>
      modifiers.toList ++ [returns, name, params] ++ body.texts

theorem isWhole_of_mem_steps (m : Member) : ∀ s ∈ m.steps, s.IsWhole := by
  cases m with
  | comment text => simp [steps, LayoutStep.IsWhole]
  | field modifiers type name init => simp [steps, LayoutStep.IsWhole]
  | _ => exact Body.isWhole_of_mem_steps

theorem levelAfter_steps (level : Nat) (m : Member) : levelAfter level m.steps = level := by
  cases m with
  | comment text => rfl
  | field modifiers type name init => rfl
  | _ => exact Body.levelAfter_steps level _ _

end Member

theorem oneLine_spaced {word : Option String} (h : ∀ t ∈ word.toList, OneLine t) :
    OneLine (spaced word) := by
  cases word with
  | none => decide
  | some word =>
      have hword : OneLine word := h word (by simp)
      simp_all [spaced, OneLine]

namespace Member

theorem oneLine_of_mem_steps {m : Member} (hm : ∀ t ∈ m.texts, OneLine t) {text : String}
    (h : .line text ∈ m.steps) : OneLine text := by
  cases m with
  | comment comment =>
      obtain rfl : text = "// " ++ comment := by simpa [steps] using h
      simp_all [texts, OneLine]
  | field modifiers type name init =>
      simp only [texts, List.forall_mem_append, List.forall_mem_singleton] at hm
      obtain ⟨⟨⟨hmodifiers, htype⟩, hname⟩, hinit⟩ := hm
      have hspaced := oneLine_spaced hmodifiers
      have hspaced' := oneLine_spaced htype
      cases init with
      | none =>
          obtain rfl : text = spaced modifiers ++ spaced type ++ name ++ "" ++ ";" := by
            simpa [steps] using h
          simp_all [OneLine]
      | some value =>
          obtain rfl :
              text = spaced modifiers ++ spaced type ++ name ++ (" = " ++ value) ++ ";" := by
            simpa [steps] using h
          simp_all [OneLine]
  | constructor name body | factory name body =>
      simp only [texts, List.forall_mem_cons] at hm
      refine Body.oneLine_of_mem_steps ?_ hm.2 h
      simp_all [OneLine]
  | getter type name body =>
      simp only [texts, List.forall_mem_cons] at hm
      refine Body.oneLine_of_mem_steps ?_ hm.2.2 h
      simp_all [OneLine]
  | setter name type param body =>
      simp only [texts, List.forall_mem_cons] at hm
      refine Body.oneLine_of_mem_steps ?_ hm.2.2.2 h
      simp_all [OneLine]
  | method modifiers returns name params body =>
      simp only [texts, List.forall_mem_append, List.forall_mem_cons] at hm
      obtain ⟨⟨hmodifiers, hreturns, hname, hparams, -⟩, hbody⟩ := hm
      have hspaced := oneLine_spaced hmodifiers
      refine Body.oneLine_of_mem_steps ?_ hbody h
      simp_all [OneLine]

theorem mem_stepsAfter {s : LayoutStep} {previous : Member} {ms : List Member}
    (h : s ∈ stepsAfter previous ms) : s = .blank ∨ ∃ m ∈ ms, s ∈ m.steps := by
  induction ms generalizing previous with
  | nil => simp [stepsAfter] at h
  | cons next rest ih =>
      rw [stepsAfter, List.mem_append, List.mem_append] at h
      rcases h with (h | h) | h
      · left
        split at h
        · exact List.mem_singleton.mp h
        · exact absurd h List.not_mem_nil
      · exact .inr ⟨next, List.mem_cons_self, h⟩
      · rcases ih h with rfl | ⟨m, hm, hs⟩
        · exact .inl rfl
        · exact .inr ⟨m, List.mem_cons_of_mem _ hm, hs⟩

theorem mem_allSteps {s : LayoutStep} {ms : List Member} (h : s ∈ allSteps ms) :
    s = .blank ∨ ∃ m ∈ ms, s ∈ m.steps := by
  cases ms with
  | nil => exact absurd h List.not_mem_nil
  | cons first rest =>
      rw [allSteps, List.mem_append] at h
      rcases h with h | h
      · exact .inr ⟨first, List.mem_cons_self, h⟩
      · rcases mem_stepsAfter h with rfl | ⟨m, hm, hs⟩
        · exact .inl rfl
        · exact .inr ⟨m, List.mem_cons_of_mem _ hm, hs⟩

theorem levelAfter_stepsAfter (level : Nat) (previous : Member) (ms : List Member) :
    levelAfter level (stepsAfter previous ms) = level := by
  induction ms generalizing previous with
  | nil => rfl
  | cons next rest ih =>
      have hblank : levelAfter level (if needsSeparator previous next then [.blank] else []) =
          level := by
        split <;> rfl
      rw [stepsAfter, levelAfter_append, levelAfter_append, hblank, levelAfter_steps, ih]

theorem levelAfter_allSteps (level : Nat) (ms : List Member) :
    levelAfter level (allSteps ms) = level := by
  cases ms with
  | nil => rfl
  | cons first rest => rw [allSteps, levelAfter_append, levelAfter_steps, levelAfter_stepsAfter]

end Member

theorem lines_stepsAfter_cons (previous next : Member) (rest : List Member) :
    lines 1 (Member.stepsAfter previous (next :: rest)) =
      (if Member.needsSeparator previous next then [""] else []) ++ (lines 1 next.steps ++
        lines 1 (Member.stepsAfter next rest)) := by
  rw [Member.stepsAfter, List.append_assoc, lines_append, lines_append]
  cases Member.needsSeparator previous next with
  | false => simp [lines, levelAfter, Member.levelAfter_steps]
  | true => simp [lines, levelAfter, Member.levelAfter_steps]

namespace ClassDecl

def texts (c : ClassDecl) : List String :=
  c.modifier.toList ++ [c.name] ++ c.superclass.toList ++ c.members.flatMap Member.texts

theorem isWhole_of_mem_steps (c : ClassDecl) : ∀ s ∈ c.steps, s.IsWhole := by
  have hmembers : ∀ s ∈ Member.allSteps c.members, s.IsWhole := by
    intro s hs
    rcases Member.mem_allSteps hs with rfl | ⟨m, -, hm⟩
    · trivial
    · exact m.isWhole_of_mem_steps s hm
  rw [steps]
  split
  · simp [LayoutStep.IsWhole]
  · simp only [List.forall_mem_append, List.forall_mem_cons]
    simpa [LayoutStep.IsWhole] using hmembers

theorem levelAfter_steps (level : Nat) (c : ClassDecl) : levelAfter level c.steps = level := by
  rw [steps]
  split
  · rfl
  · rw [levelAfter_append, levelAfter_append, Member.levelAfter_allSteps]
    rfl

theorem lines_steps {c : ClassDecl} (h : c.members ≠ []) :
    lines 0 c.steps =
      (c.header ++ " \x7b") :: lines 1 (Member.allSteps c.members) ++ ["\x7d"] := by
  have hmargin : Layout.margin 0 = "" := by decide
  have hempty : ¬ c.members.isEmpty = true := mt List.isEmpty_iff.mp h
  rw [steps, if_neg hempty, lines_append, lines_append, levelAfter_append]
  simp only [levelAfter, lines, Member.levelAfter_allSteps, hmargin, String.empty_append]
  rfl

theorem oneLine_header {c : ClassDecl} (h : ∀ t ∈ c.texts, OneLine t) : OneLine c.header := by
  simp only [texts, List.forall_mem_append, List.forall_mem_singleton] at h
  obtain ⟨⟨⟨hmodifier, hname⟩, hsuperclass⟩, -⟩ := h
  have hspaced := oneLine_spaced hmodifier
  cases hc : c.superclass with
  | none => simp_all [header, OneLine]
  | some superclass => simp_all [header, OneLine]

theorem oneLine_of_mem_steps {c : ClassDecl} (h : ∀ t ∈ c.texts, OneLine t) {text : String}
    (hs : .line text ∈ c.steps) : OneLine text := by
  have hheader := oneLine_header h
  rw [steps] at hs
  split at hs
  · obtain rfl : text = c.header ++ " \x7b\x7d" := by simpa using hs
    simp_all [OneLine]
  · have hcases : text = c.header ++ " \x7b" ∨ .line text ∈ Member.allSteps c.members ∨
        text = "\x7d" := by
      simpa [or_assoc] using hs
    rcases hcases with rfl | htext | rfl
    · simp_all [OneLine]
    · rcases Member.mem_allSteps htext with hblank | ⟨m, hm, hs⟩
      · cases hblank
      · refine Member.oneLine_of_mem_steps (fun t ht => h t ?_) hs
        exact List.mem_append_right _ (List.mem_flatMap.mpr ⟨m, hm, ht⟩)
    · decide

end ClassDecl

namespace Declaration

def texts : Declaration → List String
  | .comment text => [text]
  | .partOf library => [library]
  | .classDecl decl => decl.texts

theorem isWhole_of_mem_steps (d : Declaration) : ∀ s ∈ d.steps, s.IsWhole := by
  cases d with
  | classDecl decl => exact decl.isWhole_of_mem_steps
  | _ => simp [steps, LayoutStep.IsWhole]

theorem levelAfter_steps (level : Nat) (d : Declaration) : levelAfter level d.steps = level := by
  cases d with
  | classDecl decl => exact decl.levelAfter_steps level
  | _ => rfl

/-- The lines of a declaration. -/
def lines (d : Declaration) : List String :=
  Layout.lines 0 d.steps

theorem oneLine_of_mem_lines {d : Declaration} (h : ∀ t ∈ d.texts, OneLine t) :
    ∀ l ∈ d.lines, OneLine l := by
  refine Layout.oneLine_of_mem_lines fun text hs => ?_
  cases d with
  | comment comment =>
      obtain rfl : text = "// " ++ comment := by simpa [steps] using hs
      simp_all [texts, OneLine]
  | partOf library =>
      obtain rfl : text = "part of '" ++ library ++ "';" := by simpa [steps] using hs
      simp_all [texts, OneLine]
  | classDecl decl => exact decl.oneLine_of_mem_steps h hs

theorem isWhole_of_mem_allSteps (ds : List Declaration) : ∀ s ∈ allSteps ds, s.IsWhole := by
  cases ds with
  | nil => exact List.forall_mem_nil _
  | cons first rest =>
      rw [allSteps, List.forall_mem_append, List.forall_mem_flatMap]
      exact ⟨first.isWhole_of_mem_steps, fun d _ =>
        List.forall_mem_cons.mpr ⟨trivial, d.isWhole_of_mem_steps⟩⟩

theorem allSteps_append {ds : List Declaration} (h : ds ≠ []) (ds' : List Declaration) :
    allSteps (ds ++ ds') = allSteps ds ++ ds'.flatMap fun d => .blank :: d.steps := by
  cases ds with
  | nil => exact absurd rfl h
  | cons first rest => simp [allSteps]

end Declaration

theorem levelAfter_flatMap_steps (ds : List Declaration) :
    levelAfter 0 (ds.flatMap fun d => .blank :: d.steps) = 0 := by
  induction ds with
  | nil => rfl
  | cons d ds ih =>
      have hlevel : levelAfter 0 (.blank :: d.steps) = 0 := d.levelAfter_steps 0
      rw [List.flatMap_cons, levelAfter_append, hlevel, ih]

theorem levelAfter_allSteps (ds : List Declaration) :
    levelAfter 0 (Declaration.allSteps ds) = 0 := by
  cases ds with
  | nil => rfl
  | cons first rest =>
      rw [Declaration.allSteps, levelAfter_append, Declaration.levelAfter_steps,
        levelAfter_flatMap_steps]

theorem lines_flatMap_steps (ds : List Declaration) :
    lines 0 (ds.flatMap fun d => .blank :: d.steps) = ds.flatMap fun d => "" :: d.lines := by
  induction ds with
  | nil => rfl
  | cons d ds ih =>
      have hlevel : levelAfter 0 (.blank :: d.steps) = 0 := d.levelAfter_steps 0
      rw [List.flatMap_cons, lines_append, hlevel, ih, List.flatMap_cons]
      rfl

theorem lines_allSteps_cons (first : Declaration) (rest : List Declaration) :
    lines 0 (Declaration.allSteps (first :: rest)) =
      first.lines ++ rest.flatMap fun d => "" :: d.lines := by
  rw [Declaration.allSteps, lines_append, first.levelAfter_steps, lines_flatMap_steps]
  rfl

theorem toList_print (ds : List Declaration) :
    (print ds).toList = unlines (lines 0 (Declaration.allSteps ds)) := by
  have hrun := Layout.toList_text_run {} _ (Declaration.isWhole_of_mem_allSteps ds)
  simpa [print, Layout.render] using hrun

/-- Declarations that follow others are added, each after an empty line. -/
theorem toList_print_append {ds : List Declaration} (h : ds ≠ []) (ds' : List Declaration) :
    (print (ds ++ ds')).toList =
      (print ds).toList ++ unlines (ds'.flatMap fun d => "" :: d.lines) := by
  rw [toList_print, toList_print, Declaration.allSteps_append h, lines_append,
    levelAfter_allSteps, lines_flatMap_steps, unlines_append]

end DartTriggers.Dart
