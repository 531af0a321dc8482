import DartTriggers.Proofs.FileTree.Same
/-!
Trees made entry by entry. Directories come before what is in them; apart from that, the order in
which entries are made leaves no trace.
-/

namespace DartTriggers.FileTree

/-- Makes a file or directory that is not there, in a directory that is. -/
def create? (t : FileTree) (names : List Name) (kind : Kind) : Option FileTree :=
  match t.find? names.dropLast, t.find? names with
  | some (.directory _), none =>
      match kind with
      | .file content => some (t.putFile names content)
      | .directory => some (t.putDirectory names)
  | _, _ => none

/-- Makes files and directories one after the other. -/
def createAll? (t : FileTree) (made : List (List Name × Kind)) : Option FileTree :=
  made.foldlM (fun t entry => t.create? entry.1 entry.2) t

theorem kind?_of_create? {t t' : FileTree} {names : List Name} {kind : Kind}
    (h : t.create? names kind = some t') : t.kind? names = none ∧
      ∀ names', t'.kind? names' = if names = names' then some kind else t.kind? names' := by
  unfold create? at h
  split at h
  · rename_i entries hparent hnone
    have hdir : t.kind? names.dropLast = some .directory := kind?_eq_directory.mpr ⟨_, hparent⟩
    have hold : t.kind? names = none := kind?_eq_none.mpr hnone
    refine ⟨hold, ?_⟩
    rcases List.eq_nil_or_concat' names with rfl | ⟨dir, name, rfl⟩
    · -- The root is there, as it is its own parent.
      rw [List.dropLast_nil, hold] at hdir
      cases hdir
    · rw [List.dropLast_concat] at hdir
      cases kind with
      | file content =>
          obtain rfl := Option.some.inj h
          apply kind?_putFile hdir
          rw [hold]
          exact Option.some_ne_none _ |>.symm
      | directory =>
          obtain rfl := Option.some.inj h
          exact kind?_putDirectory hdir hold
  · cases h

/-- What stands in the tree afterwards is what was there and what has been made. -/
theorem kind?_of_createAll? {made : List (List Name × Kind)} {t t' : FileTree}
    (h : t.createAll? made = some t') (names : List Name) (kind : Kind) :
    t'.kind? names = some kind ↔ t.kind? names = some kind ∨ (names, kind) ∈ made := by
  induction made generalizing t with
  | nil =>
      obtain rfl : t = t' := Option.some.inj h
      simp
  | cons entry made ih =>
      rw [createAll?, List.foldlM_cons] at h
      obtain ⟨t₁, hfirst, hrest⟩ := Option.bind_eq_some_iff.mp h
      obtain ⟨hnone, hkind⟩ := kind?_of_create? hfirst
      rw [ih hrest, hkind, List.mem_cons, ← or_assoc]
      apply or_congr_left
      obtain ⟨names', kind'⟩ := entry
      by_cases hnames : names' = names
      · subst hnames
        have hold : t.kind? names' = none := hnone
        simp [hold, eq_comm]
      · simp [hnames, Ne.symm hnames]

theorem createAll?_perm {t t₁ t₂ : FileTree} {made made' : List (List Name × Kind)}
    (hperm : made.Perm made') (h₁ : t.createAll? made = some t₁)
    (h₂ : t.createAll? made' = some t₂) : t₁ = t₂ := by
  apply ext_kind?
  intro names
  apply Option.ext
  intro kind
  rw [kind?_of_createAll? h₁, kind?_of_createAll? h₂, hperm.mem_iff]

end DartTriggers.FileTree
