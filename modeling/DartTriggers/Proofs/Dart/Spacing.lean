import Mathlib.Algebra.GroupWithZero.Nat
import DartTriggers.Proofs.Dart.SourceLines
/-!
Where the empty lines of printed source stand, and how many there are. They come from the separators
between declarations and between members only.
-/

namespace DartTriggers.Dart

open Layout (lines lines_append)

/-- How many members are apart from the one before them. -/
def Member.separatorCount (ms : List Member) : Nat :=
  (ms.zip ms.tail).countP fun pair => needsSeparator pair.1 pair.2

def Declaration.separatorCount : Declaration → Nat
  | .classDecl decl => Member.separatorCount decl.members
  | .comment _ | .partOf _ => 0

namespace Member

theorem separatorCount_cons_cons (previous next : Member) (rest : List Member) :
    separatorCount (previous :: next :: rest) =
      (if needsSeparator previous next then 1 else 0) + separatorCount (next :: rest) := by
  simp only [separatorCount, List.tail_cons, List.zip_cons_cons, List.countP_cons]
  exact Nat.add_comm _ _

theorem count_lines_steps (m : Member) : (lines 1 m.steps).count "" = 0 := by
  rw [List.count_eq_zero, ← map_text_sourceLines, List.mem_map]
  rintro ⟨l, hl, hempty⟩
  exact text_ne_empty l hl hempty

theorem count_lines_stepsAfter (previous : Member) (ms : List Member) :
    (lines 1 (stepsAfter previous ms)).count "" = separatorCount (previous :: ms) := by
  induction ms generalizing previous with
  | nil => rfl
  | cons next rest ih =>
      rw [lines_stepsAfter_cons, List.count_append, List.count_append, count_lines_steps, ih,
        separatorCount_cons_cons, Nat.zero_add]
      split <;> rfl

theorem count_lines_allSteps (ms : List Member) :
    (lines 1 (allSteps ms)).count "" = separatorCount ms := by
  cases ms with
  | nil => rfl
  | cons first rest =>
      rw [allSteps, lines_append, levelAfter_steps, List.count_append, count_lines_steps,
        count_lines_stepsAfter, Nat.zero_add]

end Member

theorem Declaration.count_lines (d : Declaration) : d.lines.count "" = d.separatorCount := by
  have hmargin : Layout.margin 0 = "" := by decide
  cases d with
  | comment text | partOf library =>
      apply List.count_eq_zero.mpr
      simp [lines, steps, Layout.lines, hmargin]
  | classDecl decl =>
      change (Layout.lines 0 decl.steps).count "" = Member.separatorCount decl.members
      by_cases h : decl.members = []
      · have hheader : decl.header ++ " \x7b\x7d" ≠ "" := append_ne_empty (by decide)
        simp [ClassDecl.steps, Layout.lines, hmargin, h, Member.separatorCount]
      · have hheader : decl.header ++ " \x7b" ≠ "" := append_ne_empty (by decide)
        rw [ClassDecl.lines_steps h, List.count_append, List.count_cons_of_ne hheader,
          Member.count_lines_allSteps]
        rfl

theorem count_lines_flatMap (ds : List Declaration) :
    (ds.flatMap fun d => "" :: d.lines).count "" =
      ds.length + (ds.map Declaration.separatorCount).sum := by
  induction ds with
  | nil => rfl
  | cons d ds ih =>
      rw [List.flatMap_cons, List.count_append, ih, List.count_cons_self, d.count_lines,
        List.length_cons, List.map_cons, List.sum_cons]
      omega

theorem count_lines_allSteps (ds : List Declaration) :
    (lines 0 (Declaration.allSteps ds)).count "" =
      ds.length - 1 + (ds.map Declaration.separatorCount).sum := by
  cases ds with
  | nil => rfl
  | cons first rest =>
      rw [lines_allSteps_cons, List.count_append, first.count_lines, count_lines_flatMap,
        List.map_cons, List.sum_cons, List.length_cons]
      omega

/-- The first of two members that follow each other does not know of the second. -/
theorem Member.lines_stepsAfter_cut (previous m next : Member) (ms ms' : List Member) :
    lines 1 (stepsAfter previous (ms ++ m :: next :: ms')) =
      lines 1 (stepsAfter previous (ms ++ [m])) ++
        (if needsSeparator m next then [""] else []) ++ lines 1 (allSteps (next :: ms')) := by
  induction ms generalizing previous with
  | nil =>
      simp only [List.nil_append, lines_stepsAfter_cons, allSteps, lines_append, levelAfter_steps]
      simp [stepsAfter, lines]
  | cons first ms ih =>
      rw [List.cons_append, List.cons_append, lines_stepsAfter_cons, lines_stepsAfter_cons, ih]
      simp only [List.append_assoc]

theorem Member.lines_allSteps_cut (m next : Member) (ms ms' : List Member) :
    lines 1 (allSteps (ms ++ m :: next :: ms')) = lines 1 (allSteps (ms ++ [m])) ++
      (if needsSeparator m next then [""] else []) ++ lines 1 (allSteps (next :: ms')) := by
  cases ms with
  | nil =>
      simp only [List.nil_append, allSteps, lines_append, levelAfter_steps, lines_stepsAfter_cons]
      simp [stepsAfter, lines]
  | cons first ms =>
      change lines 1 (first.steps ++ stepsAfter first (ms ++ m :: next :: ms')) =
        lines 1 (first.steps ++ stepsAfter first (ms ++ [m])) ++ _ ++ _
      rw [lines_append, lines_append, levelAfter_steps, lines_stepsAfter_cut]
      simp only [List.append_assoc]

/-- What is printed above a declaration does not depend on it. -/
theorem exists_lines_above (before : List Declaration) : ∃ above, ∀ d after,
    lines 0 (Declaration.allSteps (before ++ d :: after)) =
      above ++ (d.lines ++ after.flatMap fun d => "" :: d.lines) := by
  cases before with
  | nil =>
      refine ⟨[], ?_⟩
      intro d after
      exact lines_allSteps_cons d after
  | cons first before =>
      refine ⟨lines 0 (Declaration.allSteps (first :: before)) ++ [""], ?_⟩
      intro d after
      rw [List.cons_append, lines_allSteps_cons, lines_allSteps_cons, List.flatMap_append,
        List.flatMap_cons]
      simp only [List.append_assoc, List.cons_append, List.nil_append]

theorem oneLine_of_mem_lines_allSteps {ds : List Declaration}
    (h : ∀ d ∈ ds, ∀ t ∈ d.texts, OneLine t) :
    ∀ l ∈ lines 0 (Declaration.allSteps ds), OneLine l := by
  cases ds with
  | nil => exact List.forall_mem_nil _
  | cons first rest =>
      rw [List.forall_mem_cons] at h
      rw [lines_allSteps_cons, List.forall_mem_append, List.forall_mem_flatMap]
      refine ⟨first.oneLine_of_mem_lines h.1, ?_⟩
      intro d hd
      rw [List.forall_mem_cons]
      exact ⟨by decide, d.oneLine_of_mem_lines (h.2 d hd)⟩

theorem textLines_print {ds : List Declaration} (h : ∀ d ∈ ds, ∀ t ∈ d.texts, OneLine t) :
    textLines (print ds) = lines 0 (Declaration.allSteps ds) :=
  textLines_eq (toList_print ds) (oneLine_of_mem_lines_allSteps h)

theorem print_eq_empty_iff (ds : List Declaration) : print ds = "" ↔ ds = [] := by
  constructor
  · intro h
    by_contra hds
    obtain ⟨l, rest, hsplit⟩ := List.exists_cons_of_ne_nil (tidy_sourceLines hds).ne_nil
    have hprint := toList_print ds
    rw [← map_text_sourceLines, hsplit, List.map_cons, unlines_cons, h] at hprint
    simp at hprint
  · rintro rfl
    rfl

/-- Printed source begins with text and ends in one line feed. -/
theorem print_ends {ds : List Declaration} (hds : ds ≠ [])
    (h : ∀ d ∈ ds, ∀ t ∈ d.texts, OneLine t) :
    (print ds).toList.head? ≠ some '\n' ∧
      ∃ text last, (print ds).toList = text ++ [last, '\n'] ∧ last ≠ '\n' := by
  have hprint := toList_print ds
  have hone := oneLine_of_mem_lines_allSteps h
  rw [← map_text_sourceLines] at hprint hone
  rw [List.forall_mem_map] at hone
  obtain ⟨first, hfirst, hfirstText, -⟩ := (tidy_sourceLines hds).first
  obtain ⟨last, hlast, hlastText⟩ := (tidy_sourceLines hds).last
  constructor
  · obtain ⟨rest, hrest⟩ := List.head?_eq_some_iff.mp hfirst
    rw [hprint, hrest, List.map_cons]
    exact head?_unlines hfirstText (hone first (List.mem_of_head? hfirst)) _
  · obtain ⟨before, hbefore⟩ := List.getLast?_eq_some_iff.mp hlast
    rw [hprint, hbefore, List.map_append]
    exact exists_unlines_concat hlastText (hone last (List.mem_of_getLast? hlast)) _

theorem ClassDecl.mem_texts_of_subset {c : ClassDecl} {ms : List Member} (h : ms ⊆ c.members) :
    ∀ t ∈ texts { c with members := ms }, t ∈ c.texts := by
  intro t ht
  rw [texts, List.mem_append] at ht ⊢
  apply ht.imp_right
  intro hmembers
  obtain ⟨m, hm, ht⟩ := List.mem_flatMap.mp hmembers
  exact List.mem_flatMap.mpr ⟨m, h hm, ht⟩

/-- Printing stops and goes on between two members of a class: above stands what is printed of all
up to the first of them, below what is printed from the second on. -/
theorem textLines_print_cut {before after : List Declaration} {c : ClassDecl} {m next : Member}
    {ms ms' : List Member} (hmembers : c.members = ms ++ m :: next :: ms')
    (h : ∀ d ∈ before ++ .classDecl c :: after, ∀ t ∈ d.texts, OneLine t) :
    ∃ above below,
      textLines (print (before ++ [.classDecl { c with members := ms ++ [m] }])) =
        above ++ ["\x7d"] ∧
      textLines (print (.classDecl { c with members := next :: ms' } :: after)) =
        (c.header ++ " \x7b") :: below ∧
      textLines (print (before ++ .classDecl c :: after)) =
        above ++ (if Member.needsSeparator m next then [""] else []) ++ below := by
  have hc : ∀ ms, ms ⊆ c.members →
      ∀ t ∈ ClassDecl.texts { c with members := ms }, OneLine t := by
    intro ms hms t ht
    exact h (.classDecl c) (by simp) t (ClassDecl.mem_texts_of_subset hms t ht)
  have habove : ∀ d ∈ before ++ [.classDecl { c with members := ms ++ [m] }],
      ∀ t ∈ d.texts, OneLine t := by
    rw [List.forall_mem_append, List.forall_mem_singleton]
    refine ⟨fun d hd => h d (List.mem_append_left _ hd), hc (ms ++ [m]) ?_⟩
    rw [hmembers]
    simp
  have hbelow : ∀ d ∈ .classDecl { c with members := next :: ms' } :: after,
      ∀ t ∈ d.texts, OneLine t := by
    rw [List.forall_mem_cons]
    refine ⟨hc (next :: ms') ?_, fun d hd => h d ?_⟩
    · rw [hmembers]
      simp
    · exact List.mem_append_right _ (List.mem_cons_of_mem _ hd)
  have hlines : ∀ ms ≠ [], (Declaration.classDecl { c with members := ms }).lines =
      (c.header ++ " \x7b") :: lines 1 (Member.allSteps ms) ++ ["\x7d"] :=
    fun ms hms => ClassDecl.lines_steps (c := { c with members := ms }) hms
  have hwhole : (Declaration.classDecl c).lines =
      (c.header ++ " \x7b") :: lines 1 (Member.allSteps c.members) ++ ["\x7d"] :=
    ClassDecl.lines_steps (by simp [hmembers])
  obtain ⟨lead, hlead⟩ := exists_lines_above before
  refine ⟨lead ++ (c.header ++ " \x7b") :: lines 1 (Member.allSteps (ms ++ [m])),
    lines 1 (Member.allSteps (next :: ms')) ++ "\x7d" :: after.flatMap fun d => "" :: d.lines,
    ?_, ?_, ?_⟩
  · rw [textLines_print habove, hlead, hlines _ (by simp), List.flatMap_nil]
    simp only [List.append_nil, List.append_assoc]
  · rw [textLines_print hbelow, lines_allSteps_cons, hlines _ (by simp)]
    simp
  · rw [textLines_print h, hlead, hwhole, hmembers, Member.lines_allSteps_cut]
    simp

/-- Printed source begins with text, ends in one line feed and has empty lines only between
declarations and between members that are apart, never two of them and never at the inner side of
a brace or below a comment. Between two members stands one exactly if they are apart, as they are
unless both fit on a line or the first is a comment. -/
theorem print_spacing {ds : List Declaration} (h : ∀ d ∈ ds, ∀ t ∈ d.texts, OneLine t) :
    (print ds = "" ↔ ds = []) ∧
    (ds ≠ [] → (print ds).toList.head? ≠ some '\n' ∧
      ∃ text last, (print ds).toList = text ++ [last, '\n'] ∧ last ≠ '\n') ∧
    textLines (print ds) = (sourceLines ds).map (·.text) ∧
    (∀ l ∈ sourceLines ds, l.Fits) ∧ (sourceLines ds).IsChain Spaced ∧
    (textLines (print ds)).count "" =
      ds.length - 1 + (ds.map Declaration.separatorCount).sum ∧
    ∀ before c after ms m next ms', ds = before ++ .classDecl c :: after →
      c.members = ms ++ m :: next :: ms' →
        (m.kind ≠ .comment → ¬ (m.isCompact = true ∧ next.isCompact = true) →
          Member.needsSeparator m next = true) ∧
        ∃ above below,
          textLines (print (before ++ [.classDecl { c with members := ms ++ [m] }])) =
            above ++ ["\x7d"] ∧
          textLines (print (.classDecl { c with members := next :: ms' } :: after)) =
            (c.header ++ " \x7b") :: below ∧
          textLines (print ds) =
            above ++ (if Member.needsSeparator m next then [""] else []) ++ below := by
  have htidy : (∀ l ∈ sourceLines ds, l.Fits) ∧ (sourceLines ds).IsChain Spaced := by
    cases ds with
    | nil => exact ⟨List.forall_mem_nil _, .nil⟩
    | cons first rest =>
        have htidy := tidy_sourceLines (List.cons_ne_nil first rest)
        exact ⟨htidy.fits, htidy.chain⟩
  refine ⟨print_eq_empty_iff ds, fun hds => print_ends hds h, ?_, htidy.1, htidy.2, ?_, ?_⟩
  · rw [textLines_print h, map_text_sourceLines]
  · rw [textLines_print h, count_lines_allSteps]
  · rintro before c after ms m next ms' rfl hmembers
    exact ⟨Member.needsSeparator_of_not_compact, textLines_print_cut hmembers h⟩

/-- The statements of a body may be empty texts, and so may all names. -/
theorem print_spacing_emptyTexts :
    let members : List Member :=
      [.comment "", .method none "" "" "" (.block ["", ""]), .field none none "" none,
        .field none none "" none]
    let ds : List Declaration := [.comment "", .classDecl { name := "", members }, .partOf ""]
    (∀ d ∈ ds, ∀ t ∈ d.texts, OneLine t) ∧ (sourceLines ds).IsChain Spaced ∧
      (textLines (print ds)).count "" = 3 := by
  intro members ds
  have htexts : ∀ d ∈ ds, ∀ t ∈ d.texts, OneLine t := by decide
  obtain ⟨-, -, -, -, hchain, hcount, -⟩ := print_spacing htexts
  have hthree : ds.length - 1 + (ds.map Declaration.separatorCount).sum = 3 := by decide
  exact ⟨htexts, hchain, hcount.trans hthree⟩

end DartTriggers.Dart
