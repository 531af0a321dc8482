import DartTriggers.Proofs.FileTree.Change
/-!
Making a directory and all those above it. Only directories are added; once it has succeeded it does
so again without any change, and once it has failed it fails again.
-/

namespace DartTriggers.FileTree

/-- What holds of the paths above a path: they are beginnings of it, and lead to directories on the
way to the directory it is in. -/
def Above (p q : Path) : Prop :=
  q.bytes <+: p.bytes ∧ q.route <+: p.route.dropLast

theorem Above.trans {p q r : Path} (h : Above p q) (h' : Above q r) : Above p r :=
  ⟨h'.1.trans h.1, h'.2.trans ((List.dropLast_prefix _).trans h.2)⟩

theorem above_of_parent?_eq_some {p q : Path} (h : p.parent? = some q) : Above p q := by
  obtain ⟨hroute, hbytes⟩ := Path.route_of_parent?_eq_some h
  exact ⟨hbytes, by simp only [hroute, List.prefix_rfl]⟩

theorem mem_ancestors {p q : Path} {room : Nat} (h : q ∈ ancestors p room) :
    q.bytes ≠ [] ∧ (q = p ∨ Above p q) := by
  induction room generalizing p with
  | zero => cases h
  | succ room ih =>
      rw [ancestors] at h
      split at h
      · cases h
      · rename_i hempty
        have hbytes : p.bytes ≠ [] := by simpa using hempty
        split at h
        · obtain rfl := List.mem_singleton.mp h
          exact ⟨hbytes, .inl rfl⟩
        · rename_i above hparent
          rcases List.mem_cons.mp h with rfl | h
          · exact ⟨hbytes, .inl rfl⟩
          · have habove := above_of_parent?_eq_some hparent
            obtain ⟨hq, rfl | hcases⟩ := ih h
            · exact ⟨hq, .inr habove⟩
            · exact ⟨hq, .inr (habove.trans hcases)⟩

theorem pairwise_ancestors (p : Path) (room : Nat) : (ancestors p room).Pairwise Above := by
  induction room generalizing p with
  | zero => exact .nil
  | succ room ih =>
      rw [ancestors]
      split
      · exact .nil
      · split
        · exact List.pairwise_singleton _ _
        · rename_i above hparent
          have habove := above_of_parent?_eq_some hparent
          refine List.pairwise_cons.mpr ⟨fun q hq => ?_, ih above⟩
          rcases (mem_ancestors hq).2 with rfl | hcases
          · exact habove
          · exact habove.trans hcases

theorem exists_ancestors_eq_cons {p : Path} (hp : p.bytes ≠ []) (room : Nat) :
    ∃ more, ancestors p (room + 1) = p :: more := by
  rw [ancestors, if_neg (by simpa using hp)]
  split
  · exact ⟨_, rfl⟩
  · exact ⟨_, rfl⟩

section

variable {t : FileTree} (hroot : t.kind? [] = some .directory)

include hroot

theorem isDirectory_of_above {p q : Path} (habove : Above p q) (hq : q.bytes ≠ [])
    (h : (∃ t', t.makeDirectory p = .ok t') ∨ t.isDirectory p = true) :
    t.isDirectory q = true := by
  have henter : p.fault? = none ∧ ∃ names, t.enter [] p.route.dropLast = .ok names := by
    rcases h with ⟨t', h⟩ | h
    · obtain ⟨dir, name, hfault, ⟨parts, hroute, hdir⟩, -, -⟩ := kind?_of_makeDirectory hroot h
      refine ⟨hfault, dir, ?_⟩
      rw [hroute, List.dropLast_concat]
      exact hdir
    · obtain ⟨hfault, names, hnames⟩ := (isDirectory_iff hroot).mp h
      obtain ⟨more, hmore⟩ := List.dropLast_prefix p.route
      rw [← hmore] at hnames
      obtain ⟨there, hthere, -⟩ := enter_append.mp hnames
      exact ⟨hfault, there, hthere⟩
  obtain ⟨hfault, names, hnames⟩ := henter
  obtain ⟨more, hmore⟩ := habove.2
  rw [← hmore] at hnames
  obtain ⟨there, hthere, -⟩ := enter_append.mp hnames
  exact (isDirectory_iff hroot).mpr
    ⟨Path.fault?_of_isPrefix habove.1 hq hfault, there, hthere⟩

/-- Going up ends at a directory, or at the end of the paths; those passed are left to make. -/
theorem climb_eq_ok {t' : FileTree} {left left' paths : List Path}
    (h : t.climb left paths = .ok (t', left')) : Widens t t' ∧
      ∃ inner outer, paths = inner ++ outer ∧ left' = inner.reverse ++ left ∧
        ∀ stop ∈ outer.head?, t'.isDirectory stop = true := by
  induction paths generalizing left with
  | nil =>
      cases h
      exact ⟨.refl t, [], [], rfl, rfl, by simp⟩
  | cons p paths ih =>
      rw [climb] at h
      cases hmake : t.makeDirectory p with
      | ok made =>
          rw [hmake] at h
          cases h
          refine ⟨widens_of_makeDirectory hroot hmake, [], p :: paths, rfl, rfl, ?_⟩
          rintro stop hstop
          obtain rfl := Option.some.inj hstop
          exact isDirectory_of_makeDirectory hroot hmake
      | error e =>
          rw [hmake] at h
          cases e with
          | notFound =>
              obtain ⟨hwidens, inner, outer, rfl, rfl, hstop⟩ := ih h
              exact ⟨hwidens, p :: inner, outer, rfl, by simp, hstop⟩
          | alreadyExists =>
              simp only [true_and] at h
              split at h
              · rename_i hdirectory
                cases h
                refine ⟨.refl t, [], p :: paths, rfl, rfl, ?_⟩
                rintro stop hstop
                obtain rfl := Option.some.inj hstop
                exact hdirectory
              · cases h
          | _ => simp at h

theorem isDirectory_of_extends {t' : FileTree} (h : Extends t t') {p : Path}
    (hp : t.isDirectory p = true) : t'.isDirectory p = true := by
  obtain ⟨hfault, names, hnames⟩ := (isDirectory_iff hroot).mp hp
  exact (isDirectory_iff (h _ hroot)).mpr ⟨hfault, names, h.enter hnames⟩

/-- Going down makes a directory, unless it is there, or ends. -/
theorem descend_cons {t' : FileTree} {p : Path} {rest : List Path} {result : Except FileError Unit}
    (h : t.descend (p :: rest) = (t', result)) :
    (∃ made, Widens t made ∧ made.isDirectory p = true ∧ made.descend rest = (t', result)) ∨
      ∃ e, t' = t ∧ result = .error e ∧ t.makeDirectory p = .error e ∧
        t.isDirectory p = false := by
  rw [descend] at h
  cases hmake : t.makeDirectory p with
  | ok made =>
      rw [hmake] at h
      exact .inl ⟨made, widens_of_makeDirectory hroot hmake,
        isDirectory_of_makeDirectory hroot hmake, h⟩
  | error e =>
      rw [hmake] at h
      cases hdirectory : t.isDirectory p with
      | true =>
          rw [makeDirectory_of_isDirectory hdirectory] at hmake
          cases hmake
          simp only [hdirectory, and_self, if_true] at h
          exact .inl ⟨_, .refl _, hdirectory, h⟩
      | false =>
          simp only [hdirectory, Bool.false_eq_true, and_false, if_false] at h
          cases h
          exact .inr ⟨e, rfl, rfl, rfl, rfl⟩

theorem descend_eq_ok {t' : FileTree} {left : List Path} (h : t.descend left = (t', .ok ())) :
    Widens t t' ∧ ∀ p ∈ left, t'.isDirectory p = true := by
  induction left generalizing t with
  | nil =>
      cases h
      exact ⟨.refl _, List.forall_mem_nil _⟩
  | cons p rest ih =>
      rcases descend_cons hroot h with ⟨made, hwidens, hp, hrest⟩ | ⟨e, -, hresult, -⟩
      · have hmade := hwidens.extends_ _ hroot
        obtain ⟨hwidens', hleft⟩ := ih hmade hrest
        exact ⟨hwidens.trans hwidens', List.forall_mem_cons.mpr
          ⟨isDirectory_of_extends hmade hwidens'.extends_ hp, hleft⟩⟩
      · cases hresult

theorem descend_eq_error {t' : FileTree} {left : List Path} {e : FileError}
    (h : t.descend left = (t', .error e)) : Widens t t' ∧
      ∃ made p rest, left = made ++ p :: rest ∧ (∀ q ∈ made, t'.isDirectory q = true) ∧
        t'.makeDirectory p = .error e ∧ t'.isDirectory p = false := by
  induction left generalizing t with
  | nil => cases h
  | cons p rest ih =>
      rcases descend_cons hroot h with ⟨made, hwidens, hp, hrest⟩ | ⟨e', rfl, hresult, hmake, hp⟩
      · have hmade := hwidens.extends_ _ hroot
        obtain ⟨hwidens', before, q, after, rfl, hbefore, hq⟩ := ih hmade hrest
        refine ⟨hwidens.trans hwidens', p :: before, q, after, rfl, ?_, hq⟩
        exact List.forall_mem_cons.mpr
          ⟨isDirectory_of_extends hmade hwidens'.extends_ hp, hbefore⟩
      · cases hresult
        exact ⟨.refl t', [], p, rest, rfl, List.forall_mem_nil _, hmake, hp⟩

theorem widens_makeDirectories (p : Path) : Widens t (t.makeDirectories p).1 := by
  unfold makeDirectories
  cases hclimb : t.climb [] (ancestors p (p.bytes.length + 1)) with
  | error e => exact .refl t
  | ok climbed =>
      obtain ⟨t₁, left⟩ := climbed
      obtain ⟨hwidens, -⟩ := climb_eq_ok hroot hclimb
      refine hwidens.trans ?_
      change Widens t₁ (t₁.descend left).1
      cases hdescend : t₁.descend left with
      | mk t₂ result =>
          cases result with
          | ok _ => exact (descend_eq_ok (hwidens.extends_ _ hroot) hdescend).1
          | error e => exact (descend_eq_error (hwidens.extends_ _ hroot) hdescend).1

theorem isDirectory_of_makeDirectories {t' : FileTree} {p : Path} (hp : p.bytes ≠ [])
    (h : t.makeDirectories p = (t', .ok ())) : t'.isDirectory p = true := by
  unfold makeDirectories at h
  obtain ⟨more, hpaths⟩ := exists_ancestors_eq_cons hp p.bytes.length
  rw [hpaths] at h
  split at h
  · cases h
  · rename_i t₁ left hclimb
    obtain ⟨hwidens, inner, outer, hsplit, rfl, hstop⟩ := climb_eq_ok hroot hclimb
    have hroot₁ := hwidens.extends_ _ hroot
    obtain ⟨hwidens', hleft⟩ := descend_eq_ok hroot₁ h
    cases inner with
    | nil =>
        have hhead : outer.head? = some p := by
          rw [List.nil_append] at hsplit
          rw [← hsplit, List.head?_cons]
        exact isDirectory_of_extends hroot₁ hwidens'.extends_ (hstop p hhead)
    | cons first inner =>
        obtain ⟨rfl, -⟩ := List.cons.inj hsplit
        exact hleft p (by simp)

/-- Where the directories have been made they need not be made again. -/
theorem makeDirectories_of_extends {t' t'' : FileTree} {p : Path}
    (h : t.makeDirectories p = (t', .ok ())) (hextends : Extends t' t'') :
    t''.makeDirectories p = (t'', .ok ()) := by
  unfold makeDirectories
  by_cases hp : p.bytes = []
  · rw [ancestors, if_pos (by simp [hp])]
    rfl
  · have hroot' : t'.kind? [] = some .directory := by
      have hwidens := widens_makeDirectories hroot p
      rw [h] at hwidens
      exact hwidens.extends_ _ hroot
    have hdirectory := isDirectory_of_extends hroot' hextends
      (isDirectory_of_makeDirectories hroot hp h)
    obtain ⟨more, hpaths⟩ := exists_ancestors_eq_cons hp p.bytes.length
    rw [hpaths, climb, makeDirectory_of_isDirectory hdirectory]
    simp only [hdirectory, and_self, if_true]
    rfl

/-- Going up past a directory that cannot be made ends with an error or at that directory. -/
theorem climb_of_not_isDirectory {p : Path} {e : FileError} (left : List Path)
    {inner outer : List Path}
    (hp : p.bytes ≠ []) (hmake : t.makeDirectory p = .error e) (hnot : t.isDirectory p = false)
    (hinner : ∀ q ∈ inner, Above q p) (houter : ∀ q ∈ outer.head?, t.isDirectory q = true) :
    (∃ e', t.climb left (inner ++ p :: outer) = .error e') ∨
      t.climb left (inner ++ p :: outer) = .ok (t, p :: (inner.reverse ++ left)) := by
  induction inner generalizing left with
  | nil =>
      rw [List.nil_append, climb, hmake]
      cases e with
      | notFound =>
          right
          cases outer with
          | nil => rfl
          | cons stop outer =>
              have hstop := houter stop rfl
              rw [climb, makeDirectory_of_isDirectory hstop]
              simp only [hstop, and_self, if_true]
              rfl
      | _ => exact .inl ⟨_, by simp [hnot]; rfl⟩
  | cons q inner ih =>
      rw [List.forall_mem_cons] at hinner
      -- Nothing can stand below a path that is no directory.
      have habove : ¬ ((∃ t', t.makeDirectory q = .ok t') ∨ t.isDirectory q = true) := by
        intro h
        rw [isDirectory_of_above hroot hinner.1 hp h] at hnot
        cases hnot
      rw [not_or] at habove
      rw [List.cons_append, climb]
      cases hq : t.makeDirectory q with
      | ok t' => exact absurd ⟨t', hq⟩ habove.1
      | error e' =>
          cases e' with
          | notFound =>
              rw [List.reverse_cons, List.append_assoc]
              exact ih (q :: left) hinner.2
          | _ => exact .inl ⟨_, by simp [habove.2]; rfl⟩

/-- Where not all directories could be made they cannot be made later. -/
theorem makeDirectories_of_error {t' : FileTree} {p : Path} {e : FileError}
    (h : t.makeDirectories p = (t', .error e)) :
    ∃ e', t'.makeDirectories p = (t', .error e') := by
  have hunfold := h
  unfold makeDirectories at hunfold
  split at hunfold
  · cases hunfold
    exact ⟨e, h⟩
  · rename_i t₁ left hclimb
    obtain ⟨hwidens, inner, outer, hpaths, rfl, hstop⟩ := climb_eq_ok hroot hclimb
    have hroot₁ := hwidens.extends_ _ hroot
    obtain ⟨hwidens', made, q, rest, hleft, hmade, hmake, hnot⟩ := descend_eq_error hroot₁ hunfold
    have hroot' := hwidens'.extends_ _ hroot₁
    -- Going down stopped at `q`: what is above it has been made, and what is below it has not.
    rw [List.append_nil, List.reverse_eq_iff] at hleft
    have hsplit : ancestors p (p.bytes.length + 1) =
        rest.reverse ++ q :: (made.reverse ++ outer) := by
      rw [hpaths, hleft]
      simp
    have hmem : q ∈ ancestors p (p.bytes.length + 1) := by
      rw [hsplit]
      simp
    have hq : q.bytes ≠ [] := (mem_ancestors hmem).1
    have habove : ∀ a ∈ rest.reverse, Above a q := by
      have hpairwise := pairwise_ancestors p (p.bytes.length + 1)
      rw [hsplit, List.pairwise_append] at hpairwise
      exact fun a ha => hpairwise.2.2 a ha q List.mem_cons_self
    have houter : ∀ a ∈ (made.reverse ++ outer).head?, t'.isDirectory a = true := by
      intro a ha
      rcases List.eq_nil_or_concat' made with rfl | ⟨before, last, rfl⟩
      · exact isDirectory_of_extends hroot₁ hwidens'.extends_ (hstop a ha)
      · obtain rfl : last = a := by simpa using ha
        exact hmade last (by simp)
    unfold makeDirectories
    rw [hsplit]
    rcases climb_of_not_isDirectory hroot' [] hq hmake hnot habove houter with
      ⟨e', herror⟩ | hok
    · rw [herror]
      exact ⟨e', rfl⟩
    · rw [hok]
      refine ⟨e, ?_⟩
      change t'.descend (q :: _) = _
      rw [descend, hmake]
      simp only [hnot, Bool.false_eq_true, and_false, if_false]

end

end DartTriggers.FileTree
