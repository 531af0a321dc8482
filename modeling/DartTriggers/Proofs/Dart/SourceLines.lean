import Mathlib.Data.List.Chain
import DartTriggers.Proofs.Dart.Printed
/-!
The lines of printed source and what they are there for, by which it is said which lines may stand
below each other. Every line but a separator has text, if only its indentation.
-/

namespace DartTriggers.Dart

open Layout (lines levelAfter lines_append levelAfter_append)

/-- What a line of printed source is there for. -/
inductive LineRole where
  | plain
  /-- It opens the body of a class or of a function. -/
  | opening
  | closing
  /-- A comment among the members of a class. -/
  | remark
  | separator
deriving DecidableEq, Repr

/-- What a line looks like in its role. -/
def LineRole.Fits : LineRole → String → Prop
  | .plain, text => text ≠ ""
  | .opening, text => ∃ start, text = start ++ " \x7b"
  | .closing, text => ∃ level, text = Layout.margin level ++ "\x7d"
  | .remark, text => ∃ comment, text = Layout.margin 1 ++ ("// " ++ comment)
  | .separator, text => text = ""

structure SourceLine where
  role : LineRole
  text : String
deriving DecidableEq, Repr

def SourceLine.separator : SourceLine :=
  ⟨.separator, ""⟩

def SourceLine.Fits (l : SourceLine) : Prop :=
  l.role.Fits l.text

/-- The lines of a body have their roles in the order in which they are printed. -/
def Body.roles : Body → List LineRole
  | .arrow _ | .block [] => [.plain]
  | .block (first :: rest) =>
      .opening :: (first :: rest).map (fun _ => .plain) ++ [.closing]

namespace Member

def roles : Member → List LineRole
  | .comment _ => [.remark]
  | .field .. => [.plain]
  | .constructor _ body | .factory _ body | .getter _ _ body | .setter _ _ _ body
  | .method _ _ _ _ body => body.roles

/-- The lines of a member, as they are printed in a class. -/
def sourceLines (m : Member) : List SourceLine :=
  List.zipWith .mk m.roles (lines 1 m.steps)

def sourceLinesAfter (previous : Member) : List Member → List SourceLine
  | [] => []
  | next :: rest =>
      (if needsSeparator previous next then [.separator] else []) ++
        (next.sourceLines ++ sourceLinesAfter next rest)

def allSourceLines : List Member → List SourceLine
  | [] => []
  | first :: rest => first.sourceLines ++ sourceLinesAfter first rest

end Member

def ClassDecl.sourceLines (c : ClassDecl) : List SourceLine :=
  if c.members.isEmpty then [⟨.plain, c.header ++ " \x7b\x7d"⟩]
  else ⟨.opening, c.header ++ " \x7b"⟩ :: Member.allSourceLines c.members ++ [⟨.closing, "\x7d"⟩]

def Declaration.sourceLines : Declaration → List SourceLine
  | .classDecl decl => decl.sourceLines
  | d => d.lines.map (.mk .plain)

def sourceLines : List Declaration → List SourceLine
  | [] => []
  | first :: rest => first.sourceLines ++ rest.flatMap fun d => .separator :: d.sourceLines

theorem append_ne_empty {s t : String} (h : t ≠ "") : s ++ t ≠ "" := by
  rw [Ne, String.append_eq_empty_iff]
  exact fun hboth => h hboth.2

theorem margin_append_ne_empty (level : Nat) (text : String) :
    Layout.margin (level + 1) ++ text ≠ "" := by
  intro h
  have hlength := congrArg String.length h
  simp [Layout.margin] at hlength

theorem SourceLine.Fits.text_ne_empty {l : SourceLine} (h : l.Fits) (hrole : l.role ≠ .separator) :
    l.text ≠ "" := by
  obtain ⟨role, text⟩ := l
  cases role with
  | plain => exact h
  | opening | closing | remark =>
      obtain ⟨_, rfl⟩ := h
      exact append_ne_empty (by simp)
  | separator => exact absurd rfl hrole

namespace Body

theorem lines_steps_block (level : Nat) (signature first : String) (rest : List String) :
    lines level ((Body.block (first :: rest)).steps signature) =
      (Layout.margin level ++ (signature ++ " \x7b")) ::
        (first :: rest).map (Layout.margin (level + 1) ++ ·) ++ [Layout.margin level ++ "\x7d"] := by
  rw [steps, lines_append, lines_append, levelAfter_append]
  simp only [levelAfter, levelAfter_map_line, lines_map_line, lines]
  simp

/-- The indentation keeps the lines of empty statements from being empty. -/
theorem fits_roles (level : Nat) (signature : String) (body : Body) :
    List.Forall₂ LineRole.Fits body.roles (lines (level + 1) (body.steps signature)) := by
  rcases body with expression | ⟨_ | ⟨first, rest⟩⟩
  · exact .cons (margin_append_ne_empty level _) .nil
  · exact .cons (margin_append_ne_empty level _) .nil
  · rw [lines_steps_block]
    refine List.rel_append (.cons ⟨_, String.append_assoc.symm⟩ ?_) (.cons ⟨level + 1, rfl⟩ .nil)
    rw [List.forall₂_map_left_iff, List.forall₂_map_right_iff, List.forall₂_same]
    intro statement _
    exact margin_append_ne_empty (level + 1) statement

end Body

theorem map_text_zipWith {roles : List LineRole} {ls : List String}
    (h : List.Forall₂ LineRole.Fits roles ls) :
    (List.zipWith SourceLine.mk roles ls).map (·.text) = ls := by
  induction h with
  | nil => rfl
  | cons _ _ ih => rw [List.zipWith_cons_cons, List.map_cons, ih]

theorem map_role_zipWith {roles : List LineRole} {ls : List String}
    (h : List.Forall₂ LineRole.Fits roles ls) :
    (List.zipWith SourceLine.mk roles ls).map (·.role) = roles := by
  induction h with
  | nil => rfl
  | cons _ _ ih => rw [List.zipWith_cons_cons, List.map_cons, ih]

theorem fits_zipWith {roles : List LineRole} {ls : List String}
    (h : List.Forall₂ LineRole.Fits roles ls) :
    ∀ l ∈ List.zipWith SourceLine.mk roles ls, l.Fits := by
  induction h with
  | nil => exact List.forall_mem_nil _
  | cons hfits _ ih =>
      rw [List.zipWith_cons_cons, List.forall_mem_cons]
      exact ⟨hfits, ih⟩

namespace Member

theorem fits_roles (m : Member) : List.Forall₂ LineRole.Fits m.roles (lines 1 m.steps) := by
  cases m with
  | comment text => exact .cons ⟨text, rfl⟩ .nil
  | field modifiers type name init => exact .cons (margin_append_ne_empty 0 _) .nil
  | _ => exact Body.fits_roles 0 _ _

theorem map_text_sourceLines (m : Member) : m.sourceLines.map (·.text) = lines 1 m.steps :=
  map_text_zipWith m.fits_roles

theorem map_role_sourceLines (m : Member) : m.sourceLines.map (·.role) = m.roles :=
  map_role_zipWith m.fits_roles

theorem map_text_sourceLinesAfter (previous : Member) (ms : List Member) :
    (sourceLinesAfter previous ms).map (·.text) = lines 1 (stepsAfter previous ms) := by
  induction ms generalizing previous with
  | nil => rfl
  | cons next rest ih =>
      rw [sourceLinesAfter, lines_stepsAfter_cons, List.map_append, List.map_append,
        map_text_sourceLines, ih]
      split <;> rfl

theorem map_text_allSourceLines (ms : List Member) :
    (allSourceLines ms).map (·.text) = lines 1 (allSteps ms) := by
  cases ms with
  | nil => rfl
  | cons first rest =>
      rw [allSourceLines, allSteps, List.map_append, map_text_sourceLines,
        map_text_sourceLinesAfter, lines_append, levelAfter_steps]

end Member

theorem ClassDecl.map_text_sourceLines (c : ClassDecl) :
    c.sourceLines.map (·.text) = lines 0 c.steps := by
  have hmargin : Layout.margin 0 = "" := by decide
  by_cases h : c.members = []
  · simp [sourceLines, steps, h, lines, hmargin]
  · have hempty : ¬ c.members.isEmpty = true := mt List.isEmpty_iff.mp h
    rw [sourceLines, if_neg hempty, lines_steps h, List.map_append, List.map_cons,
      Member.map_text_allSourceLines]
    rfl

theorem Declaration.map_text_sourceLines (d : Declaration) :
    d.sourceLines.map (·.text) = d.lines := by
  cases d with
  | classDecl decl => exact decl.map_text_sourceLines
  | comment text | partOf library => rfl

theorem map_text_sourceLines (ds : List Declaration) :
    (sourceLines ds).map (·.text) = lines 0 (Declaration.allSteps ds) := by
  cases ds with
  | nil => rfl
  | cons first rest =>
      rw [sourceLines, lines_allSteps_cons, List.map_append, first.map_text_sourceLines,
        List.map_flatMap]
      simp only [List.map_cons, Declaration.map_text_sourceLines]
      rfl

/-- Lines that an empty line may follow. -/
def SourceLine.MayBreakAfter (l : SourceLine) : Prop :=
  l.text ≠ "" ∧ l.role ≠ .opening ∧ l.role ≠ .remark

/-- Lines that an empty line may precede. -/
def SourceLine.MayBreakBefore (l : SourceLine) : Prop :=
  l.text ≠ "" ∧ l.role ≠ .closing

/-- Whether two lines may stand below each other, if one of them is empty. -/
def Spaced (above below : SourceLine) : Prop :=
  (below.text = "" → above.MayBreakAfter) ∧ (above.text = "" → below.MayBreakBefore)

theorem Spaced.of_ne {above below : SourceLine} (habove : above.text ≠ "")
    (hbelow : below.text ≠ "") : Spaced above below :=
  ⟨fun h => absurd h hbelow, fun h => absurd h habove⟩

theorem isChain_append {ls ls' : List SourceLine} {last first : SourceLine}
    (h : ls.IsChain Spaced) (h' : ls'.IsChain Spaced) (hlast : ls.getLast? = some last)
    (hfirst : ls'.head? = some first) (hspaced : Spaced last first) :
    (ls ++ ls').IsChain Spaced := by
  rw [List.isChain_append]
  refine ⟨h, h', ?_⟩
  intro above habove below hbelow
  rw [hlast, Option.mem_some_iff] at habove
  rw [hfirst, Option.mem_some_iff] at hbelow
  subst habove hbelow
  exact hspaced

/-- Lines that keep the rules, with text in the first and the last of them. -/
structure Tidy (ls : List SourceLine) : Prop where
  fits : ∀ l ∈ ls, l.Fits
  chain : ls.IsChain Spaced
  first : ∃ l, ls.head? = some l ∧ l.MayBreakBefore
  last : ∃ l, ls.getLast? = some l ∧ l.text ≠ ""

namespace Tidy

theorem ne_nil {ls : List SourceLine} (h : Tidy ls) : ls ≠ [] := by
  obtain ⟨l, hl, -⟩ := h.first
  rintro rfl
  cases hl

theorem of_forall {ls : List SourceLine} (hfits : ∀ l ∈ ls, l.Fits)
    (hrole : ∀ l ∈ ls, l.role ≠ .separator)
    (hfirst : ∃ l, ls.head? = some l ∧ l.role ≠ .closing) : Tidy ls := by
  have hne : ∀ l ∈ ls, l.text ≠ "" := fun l hl => (hfits l hl).text_ne_empty (hrole l hl)
  obtain ⟨first, hfirst, hclosing⟩ := hfirst
  have hls : ls ≠ [] := List.ne_nil_of_mem (List.mem_of_head? hfirst)
  refine ⟨hfits, ?_, ⟨first, hfirst, hne first (List.mem_of_head? hfirst), hclosing⟩, ?_⟩
  · rw [List.isChain_iff_forall_rel_of_append_cons_cons]
    rintro above below before after rfl
    exact Spaced.of_ne (hne above (by simp)) (hne below (by simp))
  · exact ⟨ls.getLast hls, List.getLast?_eq_some_getLast hls, hne _ (List.getLast_mem hls)⟩

theorem append {ls ls' : List SourceLine} (h : Tidy ls) (h' : Tidy ls') : Tidy (ls ++ ls') := by
  obtain ⟨last, hlast, hlastText⟩ := h.last
  obtain ⟨first, hfirst, hfirstText, -⟩ := h'.first
  refine ⟨List.forall_mem_append.mpr ⟨h.fits, h'.fits⟩, ?_, ?_, ?_⟩
  · exact isChain_append h.chain h'.chain hlast hfirst (Spaced.of_ne hlastText hfirstText)
  · rw [List.head?_append_of_ne_nil _ h.ne_nil]
    exact h.first
  · rw [List.getLast?_append_of_ne_nil _ h'.ne_nil]
    exact h'.last

theorem append_separator {ls ls' : List SourceLine} (h : Tidy ls)
    (hafter : ∀ l ∈ ls.getLast?, l.MayBreakAfter) (h' : Tidy ls') :
    Tidy (ls ++ .separator :: ls') := by
  obtain ⟨last, hlast, -⟩ := h.last
  obtain ⟨first, hfirst, hbefore⟩ := h'.first
  have hbelow : Spaced .separator first :=
    ⟨fun hempty => absurd hempty hbefore.1, fun _ => hbefore⟩
  have habove : Spaced last .separator :=
    ⟨fun _ => hafter last hlast, fun hempty => absurd hempty (hafter last hlast).1⟩
  have hchain : (SourceLine.separator :: ls').IsChain Spaced :=
    isChain_append (List.isChain_singleton _) h'.chain rfl hfirst hbelow
  refine ⟨?_, isChain_append h.chain hchain hlast rfl habove, ?_, ?_⟩
  · rw [List.forall_mem_append, List.forall_mem_cons]
    exact ⟨h.fits, rfl, h'.fits⟩
  · rw [List.head?_append_of_ne_nil _ h.ne_nil]
    exact h.first
  · rw [List.append_cons, List.getLast?_append_of_ne_nil _ h'.ne_nil]
    exact h'.last

/-- Neither below the opening of a body nor above its end is an empty line. -/
theorem enclose {ls : List SourceLine} (h : Tidy ls) {opening closing : String}
    (hopening : LineRole.opening.Fits opening) (hclosing : LineRole.closing.Fits closing) :
    Tidy (⟨.opening, opening⟩ :: ls ++ [⟨.closing, closing⟩]) := by
  obtain ⟨first, hfirst, hfirstText, -⟩ := h.first
  obtain ⟨last, hlast, hlastText⟩ := h.last
  have hopeningText : opening ≠ "" :=
    SourceLine.Fits.text_ne_empty (l := ⟨.opening, opening⟩) hopening (by simp)
  have hclosingText : closing ≠ "" :=
    SourceLine.Fits.text_ne_empty (l := ⟨.closing, closing⟩) hclosing (by simp)
  have hchain : (⟨.opening, opening⟩ :: ls).IsChain Spaced :=
    isChain_append (List.isChain_singleton _) h.chain rfl hfirst
      (Spaced.of_ne hopeningText hfirstText)
  have hlast' : (⟨.opening, opening⟩ :: ls).getLast? = some last := by
    rw [← List.singleton_append, List.getLast?_append_of_ne_nil _ h.ne_nil, hlast]
  refine ⟨?_, ?_, ⟨⟨.opening, opening⟩, rfl, hopeningText, by simp⟩,
    ⟨⟨.closing, closing⟩, List.getLast?_concat .., hclosingText⟩⟩
  · rw [List.forall_mem_append, List.forall_mem_cons, List.forall_mem_singleton]
    exact ⟨⟨hopening, h.fits⟩, hclosing⟩
  · exact isChain_append hchain (List.isChain_singleton _) hlast' rfl
      (Spaced.of_ne hlastText hclosingText)

end Tidy

theorem Body.head?_roles (body : Body) :
    ∃ role, body.roles.head? = some role ∧ role ≠ .closing := by
  rcases body with expression | ⟨_ | ⟨first, rest⟩⟩
  · exact ⟨.plain, rfl, by decide⟩
  · exact ⟨.plain, rfl, by decide⟩
  · exact ⟨.opening, rfl, by decide⟩

theorem Body.getLast?_roles (body : Body) :
    ∃ role, body.roles.getLast? = some role ∧ role ≠ .opening ∧ role ≠ .remark := by
  rcases body with expression | ⟨_ | ⟨first, rest⟩⟩
  · exact ⟨.plain, rfl, by decide⟩
  · exact ⟨.plain, rfl, by decide⟩
  · exact ⟨.closing, List.getLast?_concat .., by decide⟩

theorem Body.separator_not_mem_roles (body : Body) : .separator ∉ body.roles := by
  rcases body with expression | ⟨_ | ⟨first, rest⟩⟩ <;> simp [roles]

namespace Member

theorem fits_sourceLines (m : Member) : ∀ l ∈ m.sourceLines, l.Fits :=
  fits_zipWith m.fits_roles

theorem role_ne_separator {m : Member} : ∀ l ∈ m.sourceLines, l.role ≠ .separator := by
  have hroles : .separator ∉ m.roles := by
    cases m with
    | comment text => simp [roles]
    | field modifiers type name init => simp [roles]
    | _ => exact Body.separator_not_mem_roles _
  intro l hl hrole
  apply hroles
  rw [← hrole, ← map_role_sourceLines]
  exact List.mem_map_of_mem hl

theorem text_ne_empty {m : Member} : ∀ l ∈ m.sourceLines, l.text ≠ "" := by
  intro l hl
  exact (m.fits_sourceLines l hl).text_ne_empty (role_ne_separator l hl)

theorem tidy_sourceLines (m : Member) : Tidy m.sourceLines := by
  have hrole : ∃ role, m.roles.head? = some role ∧ role ≠ .closing := by
    cases m with
    | comment text => exact ⟨.remark, rfl, by decide⟩
    | field modifiers type name init => exact ⟨.plain, rfl, by decide⟩
    | _ => exact Body.head?_roles _
  obtain ⟨role, hrole, hne⟩ := hrole
  rw [← map_role_sourceLines, List.head?_map, Option.map_eq_some_iff] at hrole
  obtain ⟨l, hl, rfl⟩ := hrole
  exact .of_forall m.fits_sourceLines role_ne_separator ⟨l, hl, hne⟩

theorem mayBreakAfter_of_getLast? {m : Member} (h : m.kind ≠ .comment) :
    ∀ l ∈ m.sourceLines.getLast?, l.MayBreakAfter := by
  have hrole : ∃ role, m.roles.getLast? = some role ∧ role ≠ .opening ∧ role ≠ .remark := by
    cases m with
    | comment text => exact absurd rfl h
    | field modifiers type name init => exact ⟨.plain, rfl, by decide⟩
    | _ => exact Body.getLast?_roles _
  obtain ⟨role, hrole, hne⟩ := hrole
  intro l hl
  have hlast := congrArg (Option.map SourceLine.role) (Option.mem_def.mp hl)
  rw [← List.getLast?_map, map_role_sourceLines, hrole] at hlast
  obtain rfl := Option.some.inj hlast
  exact ⟨text_ne_empty l (List.mem_of_getLast? hl), hne⟩

theorem kind_ne_comment_of_needsSeparator {previous next : Member}
    (h : needsSeparator previous next = true) : previous.kind ≠ .comment := by
  intro hcomment
  rw [needsSeparator, if_pos hcomment] at h
  cases h

theorem needsSeparator_of_not_compact {previous next : Member} (hcomment : previous.kind ≠ .comment)
    (h : ¬ (previous.isCompact = true ∧ next.isCompact = true)) :
    needsSeparator previous next = true := by
  rw [needsSeparator, if_neg hcomment]
  split
  · rfl
  · split
    · rfl
    · rwa [Bool.not_eq_true', Bool.and_eq_false_iff, ← Bool.not_eq_true, ← Bool.not_eq_true,
        ← not_and_or]

/-- The induction goes on with the next member as the one before. -/
theorem tidy_sourceLinesAfter (previous : Member) (ms : List Member) :
    Tidy (previous.sourceLines ++ sourceLinesAfter previous ms) := by
  induction ms generalizing previous with
  | nil =>
      rw [sourceLinesAfter, List.append_nil]
      exact previous.tidy_sourceLines
  | cons next rest ih =>
      rw [sourceLinesAfter]
      split
      · next hseparator =>
          have hlast := mayBreakAfter_of_getLast? (kind_ne_comment_of_needsSeparator hseparator)
          exact previous.tidy_sourceLines.append_separator hlast (ih next)
      · exact previous.tidy_sourceLines.append (ih next)

theorem tidy_allSourceLines {ms : List Member} (h : ms ≠ []) : Tidy (allSourceLines ms) := by
  cases ms with
  | nil => exact absurd rfl h
  | cons first rest => exact first.tidy_sourceLinesAfter rest

end Member

theorem tidy_singleton {text : String} (h : text ≠ "") :
    Tidy [⟨.plain, text⟩] ∧ ∀ l ∈ [SourceLine.mk .plain text].getLast?, l.MayBreakAfter := by
  constructor
  · apply Tidy.of_forall
    · rw [List.forall_mem_singleton]
      exact h
    · rw [List.forall_mem_singleton]
      simp
    · exact ⟨_, rfl, by simp⟩
  · intro l hl
    rw [List.getLast?_singleton, Option.mem_some_iff] at hl
    subst hl
    exact ⟨h, by simp, by simp⟩

theorem ClassDecl.tidy_sourceLines (c : ClassDecl) :
    Tidy c.sourceLines ∧ ∀ l ∈ c.sourceLines.getLast?, l.MayBreakAfter := by
  rw [sourceLines]
  split
  · exact tidy_singleton (append_ne_empty (by decide))
  · next hmembers =>
      have hmembers' : c.members ≠ [] := mt List.isEmpty_iff.mpr hmembers
      constructor
      · exact (Member.tidy_allSourceLines hmembers').enclose ⟨c.header, rfl⟩ ⟨0, rfl⟩
      · intro l hl
        rw [List.getLast?_concat, Option.mem_some_iff] at hl
        subst hl
        exact ⟨by decide, by decide, by decide⟩

theorem Declaration.tidy_sourceLines (d : Declaration) :
    Tidy d.sourceLines ∧ ∀ l ∈ d.sourceLines.getLast?, l.MayBreakAfter := by
  have hmargin : Layout.margin 0 = "" := by decide
  cases d with
  | classDecl decl => exact decl.tidy_sourceLines
  | comment text =>
      apply tidy_singleton
      simp [hmargin]
  | partOf library =>
      apply tidy_singleton
      simp [hmargin]

theorem tidy_sourceLines {ds : List Declaration} (h : ds ≠ []) : Tidy (sourceLines ds) := by
  obtain ⟨first, rest, rfl⟩ := List.exists_cons_of_ne_nil h
  clear h
  induction rest generalizing first with
  | nil =>
      rw [sourceLines, List.flatMap_nil, List.append_nil]
      exact first.tidy_sourceLines.1
  | cons next rest ih =>
      obtain ⟨htidy, hlast⟩ := first.tidy_sourceLines
      exact htidy.append_separator hlast (ih next)

end DartTriggers.Dart
