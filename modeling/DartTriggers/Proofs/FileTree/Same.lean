import Mathlib.Data.List.Sort
import DartTriggers.Proofs.FileTree.Walk
/-!
File trees that are the same: they have the same directories, and files with the same content. What
is at a path by its name in a directory depends on the directories and on that content only.
-/

namespace DartTriggers

namespace Node

theorem kind_eq_file {node : Node} {content : ByteArray} (h : node.kind = .file content) :
    node = .file content := by
  cases node with
  | file content' =>
      obtain rfl := Kind.file.inj h
      rfl
  | directory entries => cases h

/-- Entries in byte order are known by what each name leads to. -/
theorem entries_ext {entries entries' : List (Name × Node)}
    (sorted : entries.Pairwise fun a b => Name.Before a.1 b.1)
    (sorted' : entries'.Pairwise fun a b => Name.Before a.1 b.1)
    (h : ∀ name, child? name entries = child? name entries') : entries = entries' := by
  have hantisymm : Std.Antisymm fun a b : Name × Node => Name.Before a.1 b.1 :=
    ⟨fun a b hab hba => absurd (hab.trans hba) (List.lt_irrefl _)⟩
  have hirrefl : Std.Irrefl fun a b : Name × Node => Name.Before a.1 b.1 :=
    ⟨fun a => List.lt_irrefl _⟩
  refine sorted.eq_of_mem_iff sorted' fun e => ?_
  obtain ⟨name, node⟩ := e
  rw [← child?_eq_some_iff sorted, ← child?_eq_some_iff sorted', h]

/-- Ordered nodes are known by what stands at the end of all names. -/
theorem Ordered.ext {node : Node} (hnode : node.Ordered) {node' : Node} (hnode' : node'.Ordered)
    (h : ∀ names, (node.find? names).map kind = (node'.find? names).map kind) : node = node' := by
  induction hnode generalizing node' with
  | file content =>
      have hkind := h []
      rw [find?_nil, find?_nil, Option.map_some, Option.map_some, Option.some.injEq] at hkind
      exact (kind_eq_file hkind.symm).symm
  | directory entries sorted below ih =>
      cases hnode' with
      | file content =>
          have hkind := h []
          cases hkind
      | directory entries' sorted' below' =>
          congr 1
          refine entries_ext sorted sorted' fun name => ?_
          have hchild : ∀ names, ((child? name entries).bind (·.find? names)).map kind =
              ((child? name entries').bind (·.find? names)).map kind := by
            intro names
            rw [← find?_directory_cons, ← find?_directory_cons]
            exact h (name :: names)
          cases hfirst : child? name entries with
          | none =>
              cases hsecond : child? name entries' with
              | none => rfl
              | some node' =>
                  have hkind := hchild []
                  rw [hfirst, hsecond, Option.bind_some, find?_nil] at hkind
                  cases hkind
          | some node =>
              cases hsecond : child? name entries' with
              | none =>
                  have hkind := hchild []
                  rw [hfirst, hsecond, Option.bind_some, find?_nil] at hkind
                  cases hkind
              | some node' =>
                  have hbelow := below' _ (mem_of_child? hsecond)
                  refine congrArg some (ih _ (mem_of_child? hfirst) hbelow fun names => ?_)
                  have hnames := hchild names
                  rwa [hfirst, hsecond] at hnames

end Node

namespace FileTree

open DartTriggers.Path (IsPlain)

theorem ext_kind? {t t' : FileTree} (h : ∀ names, t.kind? names = t'.kind? names) : t = t' := by
  obtain ⟨root, ordered⟩ := t
  obtain ⟨root', ordered'⟩ := t'
  obtain rfl : root = root' := ordered.ext ordered' h
  rfl

theorem SameDirectories.kind?_eq {t t' : FileTree} (h : SameDirectories t t') {names : List Name}
    (hcontent : t.content? (names.map Name.bytes) = t'.content? (names.map Name.bytes)) :
    t.kind? names = t'.kind? names := by
  refine Option.ext fun kind => ?_
  cases kind with
  | directory => exact h names
  | file content => rw [← content?_map_bytes, hcontent, content?_map_bytes]

/-- Trees with the same directories and files are one. -/
theorem SameDirectories.eq {t t' : FileTree} (h : SameDirectories t t')
    (hcontent : ∀ location, t.content? location = t'.content? location) : t = t' :=
  ext_kind? fun _ => h.kind?_eq (hcontent _)

theorem exists?_append_plain {t : FileTree} {p : Path} {part : Bytes} (hplain : IsPlain part) :
    t.exists? (p.append ⟨part⟩) = true ↔ (p.append ⟨part⟩).fault? = none ∧
      ∃ dir name, t.enter [] p.route = .ok dir ∧ name.bytes = part ∧
        t.kind? (dir ++ [name]) ≠ none := by
  unfold exists? node
  cases hfault : (p.append ⟨part⟩).fault? with
  | some e =>
      rw [locate_of_fault hfault t]
      exact iff_of_false nofun nofun
  | none =>
      rw [locate_append_plain hplain hfault t]
      cases hlocate : t.locateEntry p.route part false with
      | error e =>
          refine iff_of_false nofun ?_
          rintro ⟨-, dir, name, hdir, hname, -⟩
          rw [locateEntry_eq_ok.mpr ⟨dir, name, hdir, hname, rfl⟩] at hlocate
          cases hlocate
      | ok target =>
          obtain ⟨dir, name, hdir, hname, rfl⟩ := locateEntry_eq_ok.mp hlocate
          have hkind : (∃ dir' name', t.enter [] p.route = .ok dir' ∧ name'.bytes = part ∧
              t.kind? (dir' ++ [name']) ≠ none) ↔ t.find? (dir ++ [name]) ≠ none := by
            rw [hdir, ← hname, ne_eq, ← kind?_eq_none]
            constructor
            · rintro ⟨dir', name', hdir', hname', hkind⟩
              rwa [← Except.ok.inj hdir', Name.bytes_injective hname'] at hkind
            · exact fun hkind => ⟨dir, name, rfl, rfl, hkind⟩
          rw [hkind]
          cases hfind : t.find? (dir ++ [name]) with
          | none => simp [hfind, Except.toOption]
          | some node => cases node <;> simp [hfind, Except.toOption]

/-- Whether there is something at the end of a path depends on the directories and on the content
there. -/
theorem SameDirectories.exists?_eq {t t' : FileTree} (h : SameDirectories t t') {p : Path}
    {part : Bytes} (hplain : IsPlain part)
    (hcontent : t.content? (p.append ⟨part⟩).location = t'.content? (p.append ⟨part⟩).location) :
    t.exists? (p.append ⟨part⟩) = t'.exists? (p.append ⟨part⟩) := by
  rw [Bool.eq_iff_iff, exists?_append_plain hplain, exists?_append_plain hplain]
  refine and_congr_right fun _ => exists_congr fun dir => exists_congr fun name => ?_
  have henter : t.enter [] p.route = .ok dir ↔ t'.enter [] p.route = .ok dir :=
    ⟨h.extends_.enter, h.symm.extends_.enter⟩
  rw [henter]
  refine and_congr_right fun hdir => and_congr_right fun hname => ?_
  rw [h.kind?_eq]
  subst hname
  rwa [Path.location_append_plain hplain, ← map_bytes_of_enter_route (h.symm.extends_.enter hdir),
    ← List.map_singleton, ← List.map_append] at hcontent

end FileTree

end DartTriggers
