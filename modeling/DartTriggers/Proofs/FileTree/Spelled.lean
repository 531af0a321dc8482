import DartTriggers.Proofs.FileTree.Walk
import DartTriggers.Proofs.UnitName
/-!
How the paths of descriptors are written. Where all names are text, each of them can be asked for by
a text of its own, and stands for itself alone.
-/

namespace DartTriggers

namespace Path

theorem eq_of_bytes {p q : Path} (h : p.bytes = q.bytes) : p = q := by
  cases p
  cases q
  cases h
  rfl

/-- What stands between a path and one that is put after it. -/
def separator (p : Path) : Bytes :=
  if p.bytes.isEmpty ∨ p.bytes.getLast? = some slash then [] else [slash]

theorem bytes_append {p q : Path} (hq : q.isAbsolute = false) :
    (p.append q).bytes = p.bytes ++ (p.separator ++ q.bytes) := by
  rw [append, if_neg (by rw [hq]; exact Bool.false_ne_true), separator]
  split <;> rfl

theorem bytes_entry (p : Path) (name : Name) :
    (p.entry name).bytes = p.bytes ++ (p.separator ++ name.bytes) :=
  bytes_append (isAbsolute_of_isPlain name.isPlain)

theorem separator_append {p q : Path} (hq : q.isAbsolute = false) :
    (p.append q).separator = if q.bytes = [] then [] else q.separator := by
  rw [separator, bytes_append hq]
  by_cases hnil : q.bytes = []
  · rw [if_pos hnil, hnil, List.append_nil, separator]
    split
    · rename_i hp
      rw [List.append_nil, if_pos hp]
    · rw [if_pos (by simp)]
  · rw [if_neg hnil, ← List.append_assoc, List.getLast?_append_of_ne_nil _ hnil, separator]
    simp [separator, hnil]

theorem isAbsolute_of_head? {p q : Path} (h : p.bytes.head? = q.bytes.head?) :
    p.isAbsolute = q.isAbsolute := by
  rw [isAbsolute, h, isAbsolute]

theorem isAbsolute_entry (p : Path) (name : Name) : (p.entry name).isAbsolute = p.isAbsolute := by
  cases hp : p.bytes with
  | nil =>
      have hentry : p.entry name = ⟨name.bytes⟩ := by
        refine eq_of_bytes ?_
        rw [bytes_entry, separator, hp]
        rfl
      rw [hentry, isAbsolute_of_isPlain name.isPlain, isAbsolute, hp]
      rfl
  | cons c rest =>
      refine isAbsolute_of_head? ?_
      rw [bytes_entry, hp]
      rfl

theorem append_entry (p q : Path) (name : Name) :
    (p.append q).entry name = p.append (q.entry name) := by
  have habsolute := isAbsolute_entry q name
  cases hq : q.isAbsolute with
  | true =>
      rw [hq] at habsolute
      rw [append, if_pos hq, append, if_pos habsolute]
  | false =>
      rw [hq] at habsolute
      refine eq_of_bytes ?_
      rw [bytes_entry, separator_append hq, bytes_append hq, bytes_append habsolute, bytes_entry]
      split
      · rename_i hnil
        have hseparator : q.separator = [] := by
          rw [separator, hnil]
          rfl
        simp [hnil, hseparator]
      · simp

theorem append_below (p q : Path) (names : List Name) :
    (p.append q).below names = p.append (q.below names) := by
  induction names generalizing q with
  | nil => rfl
  | cons name names ih =>
      change ((p.append q).entry name).below names = p.append ((q.entry name).below names)
      rw [append_entry, ih]

theorem exists_ofString_eq_below (s : String) {names : List Name}
    (h : ∀ name ∈ names, ∃ text, Bytes.ofString text = name.bytes) :
    ∃ s', ofString s' = (ofString s).below names := by
  induction names generalizing s with
  | nil => exact ⟨s, rfl⟩
  | cons name names ih =>
      rw [List.forall_mem_cons] at h
      obtain ⟨text, htext⟩ := h.1
      have hseparator : ∃ between, Bytes.ofString between = (ofString s).separator := by
        unfold separator
        split
        · exact ⟨"", rfl⟩
        · exact ⟨"/", by decide⟩
      obtain ⟨between, hbetween⟩ := hseparator
      have hentry : ofString (s ++ (between ++ text)) = (ofString s).entry name := by
        refine eq_of_bytes ?_
        rw [bytes_entry, ← hbetween, ← htext, ofString, Bytes.ofString_append,
          Bytes.ofString_append]
        rfl
      obtain ⟨s', hs'⟩ := ih (s ++ (between ++ text)) h.2
      exact ⟨s', by rw [hs', hentry]; rfl⟩

end Path

namespace FileTree

theorem isFile_of_mem_descriptors? {t : FileTree} {input : Path} {descriptors : List Path}
    (h : t.descriptors? input = some descriptors) {d : Path} (hd : d ∈ descriptors) :
    t.isFile d = true := by
  unfold descriptors? at h
  split at h
  · rename_i content hnode
    cases h
    rw [List.mem_singleton.mp hd, isFile, hnode]
  · cases h
    exact (Bool.and_eq_true_iff.mp (List.mem_filter.mp hd).2).1
  · cases h

theorem descriptors?_of_isFile {t : FileTree} {d : Path} (h : t.isFile d = true) :
    t.descriptors? d = some [d] := by
  unfold isFile at h
  unfold descriptors?
  split at h
  · rename_i content hnode
    rw [hnode]
  · cases h

theorem exists_appendString_of_mem_descriptors? {t : FileTree} {cwd : Path} {input : String}
    {descriptors : List Path} (h : t.descriptors? (cwd.appendString input) = some descriptors)
    (hnames : ∀ names, t.kind? names ≠ none → ∀ name ∈ names,
      ∃ text, Bytes.ofString text = name.bytes) :
    ∀ d ∈ descriptors, ∃ path, cwd.appendString path = d := by
  rcases descriptors?_cases h with ⟨rfl, -⟩ | ⟨here, -, -, hbelow⟩
  · intro d hd
    exact ⟨input, (List.mem_singleton.mp hd).symm⟩
  · intro d hd
    obtain ⟨-, dir, name, hstands, rfl⟩ := hbelow d hd
    obtain ⟨content, hfile⟩ := hstands.file
    have htext : ∀ part ∈ dir ++ [name], ∃ text, Bytes.ofString text = part.bytes := by
      intro part hpart
      refine hnames (here ++ dir ++ [name]) (by rw [hfile]; exact Option.some_ne_none _) part ?_
      rw [List.append_assoc]
      exact List.mem_append_right here hpart
    obtain ⟨path, hpath⟩ := Path.exists_ofString_eq_below input htext
    refine ⟨path, ?_⟩
    rw [Path.appendString, hpath, Path.appendString, Path.append_below]

end FileTree

end DartTriggers
