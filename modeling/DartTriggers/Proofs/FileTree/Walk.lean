import Mathlib.Data.List.Nodup
import DartTriggers.Descriptor.Files
import DartTriggers.Proofs.FileTree.Change
/-!
The files below a directory, and the descriptors of an input: each is a file of the tree, reached by
the names of the directories above it.
-/

namespace DartTriggers

def Path.below (p : Path) (names : List Name) : Path :=
  names.foldl Path.entry p

theorem Path.route_entry (p : Path) (name : Name) :
    (p.entry name).route = p.route ++ [name.bytes] :=
  Path.route_append_plain name.isPlain

theorem Path.location_below (p : Path) (names : List Name) :
    (p.below names).location = p.location ++ names.map Name.bytes := by
  induction names generalizing p with
  | nil => exact (List.append_nil _).symm
  | cons name names ih =>
      change ((p.entry name).below names).location = _
      rw [ih, entry, location_append_plain name.isPlain, List.map_cons, List.append_assoc]
      rfl

theorem Path.below_injective (p : Path) : Function.Injective p.below := by
  intro names names' h
  have hlocation := congrArg location h
  rw [location_below, location_below] at hlocation
  exact FileTree.map_bytes_injective (List.append_cancel_left hlocation)

namespace Node

theorem child?_eq_some_iff {name : Name} {node : Node} {entries : List (Name × Node)}
    (h : entries.Pairwise fun a b => Name.Before a.1 b.1) :
    child? name entries = some node ↔ (name, node) ∈ entries := by
  refine ⟨mem_of_child?, fun hmem => ?_⟩
  induction entries with
  | nil => cases hmem
  | cons e entries ih =>
      obtain ⟨n, old⟩ := e
      rw [List.pairwise_cons] at h
      rw [child?]
      rcases List.mem_cons.mp hmem with hfirst | hmem
      · cases hfirst
        rw [if_pos rfl]
      · have hbefore : Name.Before n name := h.1 _ hmem
        have hne : n ≠ name := by
          rintro rfl
          exact List.lt_irrefl _ hbefore
        rw [if_neg hne]
        exact ih h.2 hmem

mutual

/-- The names that lead to the files at and below a node, in the order of the walk. -/
def fileNames : Node → List (List Name)
  | .file _ => [[]]
  | .directory entries => fileNamesIn entries

def fileNamesIn : List (Name × Node) → List (List Name)
  | [] => []
  | (name, node) :: rest => (fileNames node).map (name :: ·) ++ fileNamesIn rest

end

mutual

theorem files_eq_map (p : Path) : ∀ node : Node, files p node = (fileNames node).map p.below
  | .file _ => rfl
  | .directory entries => filesIn_eq_map p entries

theorem filesIn_eq_map (p : Path) :
    ∀ entries : List (Name × Node), filesIn p entries = (fileNamesIn entries).map p.below
  | [] => rfl
  | (name, node) :: rest => by
      rw [filesIn, fileNamesIn, List.map_append, List.map_map, files_eq_map (p.entry name) node,
        filesIn_eq_map p rest]
      rfl

end

theorem mem_fileNamesIn_iff {entries : List (Name × Node)} {names : List Name} :
    names ∈ fileNamesIn entries ↔
      ∃ e ∈ entries, ∃ more ∈ fileNames e.2, names = e.1 :: more := by
  induction entries with
  | nil => simp [fileNamesIn]
  | cons e entries ih => simp [fileNamesIn, ih, eq_comm]

/-- The walk passes by all that are files at the end of their names. -/
theorem mem_fileNames_iff {node : Node} (h : node.Ordered) {names : List Name} :
    names ∈ fileNames node ↔ ∃ content, node.find? names = some (.file content) := by
  induction h generalizing names with
  | file content =>
      rw [fileNames, List.mem_singleton]
      constructor
      · rintro rfl
        exact ⟨content, rfl⟩
      · rintro ⟨_, hfind⟩
        cases names with
        | nil => rfl
        | cons name names => cases hfind
  | directory entries sorted below ih =>
      rw [fileNames, mem_fileNamesIn_iff]
      constructor
      · rintro ⟨⟨name, node⟩, he, more, hmore, rfl⟩
        obtain ⟨content, hfind⟩ := (ih _ he).mp hmore
        refine ⟨content, ?_⟩
        simp only [find?, (child?_eq_some_iff sorted).mpr he]
        exact hfind
      · rintro ⟨content, hfind⟩
        cases names with
        | nil => cases hfind
        | cons name more =>
            rw [find?] at hfind
            cases hchild : child? name entries with
            | none =>
                rw [hchild] at hfind
                cases hfind
            | some node =>
                rw [hchild] at hfind
                have he := mem_of_child? hchild
                exact ⟨(name, node), he, more, (ih _ he).mpr ⟨content, hfind⟩, rfl⟩

/-- Names are walked in byte order, the first that differ deciding. -/
def WalkedBefore (names names' : List Name) : Prop :=
  names.map Name.bytes < names'.map Name.bytes

theorem walkedBefore_irrefl (names : List Name) : ¬ WalkedBefore names names :=
  List.lt_irrefl _

theorem walkedBefore_cons_cons {name name' : Name} {names names' : List Name} :
    WalkedBefore (name :: names) (name' :: names') ↔
      Name.Before name name' ∨ name = name' ∧ WalkedBefore names names' := by
  rw [WalkedBefore, List.map_cons, List.map_cons, List.cons_lt_cons_iff, Name.bytes_injective.eq_iff]
  rfl

theorem pairwise_fileNamesIn {entries : List (Name × Node)}
    (sorted : entries.Pairwise fun a b => Name.Before a.1 b.1)
    (hfiles : ∀ e ∈ entries, (fileNames e.2).Pairwise WalkedBefore) :
    (fileNamesIn entries).Pairwise WalkedBefore := by
  induction entries with
  | nil => exact List.Pairwise.nil
  | cons e entries ih =>
      rw [List.pairwise_cons] at sorted
      rw [List.forall_mem_cons] at hfiles
      rw [fileNamesIn, List.pairwise_append]
      refine ⟨?_, ih sorted.2 hfiles.2, ?_⟩
      · rw [List.pairwise_map]
        apply hfiles.1.imp
        intro names names' hbefore
        exact walkedBefore_cons_cons.mpr (.inr ⟨rfl, hbefore⟩)
      · intro names hnames names' hnames'
        obtain ⟨more, -, rfl⟩ := List.mem_map.mp hnames
        obtain ⟨e', he', more', -, rfl⟩ := mem_fileNamesIn_iff.mp hnames'
        exact walkedBefore_cons_cons.mpr (.inl (sorted.1 e' he'))

/-- The walk goes on in order, files and directories mixed: what is below an entry comes before all
that is below the next one. -/
theorem pairwise_fileNames {node : Node} (h : node.Ordered) :
    (fileNames node).Pairwise WalkedBefore := by
  induction h with
  | file content => exact List.pairwise_singleton _ []
  | directory entries sorted below ih => exact pairwise_fileNamesIn sorted ih

end Node

namespace FileTree

theorem enter_below {t : FileTree} {p : Path} {here names : List Name}
    (hhere : t.enter [] p.route = .ok here)
    (hkind : t.kind? (here ++ names) = some .directory) :
    t.enter [] (p.below names).route = .ok (here ++ names) := by
  induction names generalizing p here with
  | nil => rwa [List.append_nil]
  | cons name names ih =>
      rw [List.append_cons] at hkind ⊢
      have hname : t.kind? (here ++ [name]) = some .directory := by
        cases names with
        | nil => rwa [List.append_nil] at hkind
        | cons second names =>
            exact kind?_eq_directory_of_append (List.cons_ne_nil _ _)
              (by rw [hkind]; exact Option.some_ne_none _)
      refine ih (p := p.entry name) ?_ hkind
      rw [Path.route_entry]
      exact enter_concat hhere hname

/-- A path of a file by its name in a directory. -/
structure Stands (t : FileTree) (p : Path) (dir : List Name) (name : Name) : Prop where
  enter : t.enter [] p.route.dropLast = .ok dir
  last : p.route.getLast? = some name.bytes
  file : ∃ content, t.kind? (dir ++ [name]) = some (.file content)
  located : p.fault? = none → t.locate p = .ok (.entry dir name false)

namespace Stands

variable {t : FileTree} {p : Path} {dir : List Name} {name : Name}

theorem route (h : Stands t p dir name) : p.route = p.route.dropLast ++ [name.bytes] :=
  (List.dropLast_append_getLast? name.bytes h.last).symm

theorem fileName? (h : Stands t p dir name) : p.fileName? = some name.bytes :=
  Path.fileName?_eq_some_iff.mpr ⟨h.last, name.isPlain.2.2⟩

theorem kind?_root (h : Stands t p dir name) : t.kind? [] = some .directory := by
  obtain ⟨content, hfile⟩ := h.file
  exact kind?_eq_directory_of_append (t := t) (List.append_ne_nil_of_right_ne_nil dir
    (List.cons_ne_nil name [])) (by rw [List.nil_append, hfile]; exact Option.some_ne_none _)

theorem exists_parent? (h : Stands t p dir name) :
    ∃ q, p.parent? = some q ∧ q.route = p.route.dropLast ∧ t.enter [] q.route = .ok dir := by
  have hne : p.route ≠ [] := by
    rw [h.route]
    exact List.append_ne_nil_of_right_ne_nil _ (List.cons_ne_nil _ _)
  obtain ⟨q, hq⟩ := Option.isSome_iff_exists.mp (Path.isSome_parent? hne)
  have hroute := (Path.route_of_parent?_eq_some hq).1
  exact ⟨q, hq, hroute, by rw [hroute]; exact h.enter⟩

theorem location (h : Stands t p dir name) : p.location = (dir ++ [name]).map Name.bytes :=
  (map_bytes_concat_of_enter h.route h.enter).symm

end Stands

theorem stands_of_node_eq_file {t : FileTree} (hroot : t.kind? [] = some .directory) {p : Path}
    {content : ByteArray} (h : t.node p = .ok (.file content)) :
    ∃ dir name, Stands t p dir name := by
  obtain ⟨dir, name, hlocate, hkind⟩ := (node_eq_file hroot).mp h
  obtain ⟨parts, hroute, hdir⟩ := enter_of_locate_entry hlocate
  refine ⟨dir, name, ?_, ?_, ⟨content, hkind⟩, fun _ => hlocate⟩
  · rw [hroute, List.dropLast_concat]
    exact hdir
  · rw [hroute, List.getLast?_concat]

theorem stands_below {t : FileTree} {p : Path} {here dir : List Name} {name : Name}
    {content : ByteArray} (hhere : t.enter [] p.route = .ok here)
    (hkind : t.kind? (here ++ (dir ++ [name])) = some (.file content)) :
    Stands t (p.below (dir ++ [name])) (here ++ dir) name := by
  rw [← List.append_assoc] at hkind
  have hdirectory : t.kind? (here ++ dir) = some .directory :=
    kind?_eq_directory_of_append (List.cons_ne_nil name [])
      (by rw [hkind]; exact Option.some_ne_none _)
  have hdir := enter_below hhere hdirectory
  have hpath : p.below (dir ++ [name]) = (p.below dir).entry name := List.foldl_concat ..
  refine ⟨?_, ?_, ⟨content, hkind⟩, fun hfault => ?_⟩
  · rw [hpath, Path.route_entry, List.dropLast_concat]
    exact hdir
  · rw [hpath, Path.route_entry, List.getLast?_concat]
  · rw [hpath] at hfault ⊢
    rw [Path.entry, locate_append_plain name.isPlain hfault]
    exact locateEntry_eq_ok.mpr ⟨here ++ dir, name, hdir, rfl, rfl⟩

/-- A file that the walk of a directory passes by stands at the end of its names. -/
theorem stands_of_mem_fileNamesIn {t : FileTree} {p : Path} {here : List Name}
    {entries : List (Name × Node)} (hhere : t.enter [] p.route = .ok here)
    (hfind : t.find? here = some (.directory entries)) {names : List Name}
    (hnames : names ∈ Node.fileNamesIn entries) :
    ∃ dir name, names = dir ++ [name] ∧ Stands t (p.below names) (here ++ dir) name := by
  obtain ⟨content, hfile⟩ := (Node.mem_fileNames_iff (t.ordered.find? hfind)).mp hnames
  rcases List.eq_nil_or_concat' names with rfl | ⟨dir, name, rfl⟩
  · cases hfile
  · have hkind : t.kind? (here ++ (dir ++ [name])) = some (.file content) := by
      rw [kind?_eq_file, find?, Node.find?_append]
      exact Option.bind_eq_some_iff.mpr ⟨_, hfind, hfile⟩
    exact ⟨dir, name, rfl, stands_below hhere hkind⟩

/-- The descriptors of an input: the input itself, or descriptors below it. -/
theorem descriptors?_cases {t : FileTree} {input : Path} {descriptors : List Path}
    (h : t.descriptors? input = some descriptors) :
    (descriptors = [input] ∧ ∃ content, t.node input = .ok (.file content)) ∨
      ∃ here, t.enter [] input.route = .ok here ∧ t.kind? here = some .directory ∧
        ∀ p ∈ descriptors, isDescriptorPath p = true ∧ ∃ dir name, Stands t p (here ++ dir) name ∧
          p = input.below (dir ++ [name]) := by
  unfold descriptors? at h
  split at h
  · rename_i content hnode
    cases h
    exact .inl ⟨rfl, content, hnode⟩
  · rename_i entries hnode
    cases h
    obtain ⟨-, here, hhere, hfind⟩ := node_eq_directory hnode
    refine .inr ⟨here, hhere, kind?_eq_directory.mpr ⟨entries, hfind⟩, fun p hp => ?_⟩
    obtain ⟨hfiles, hkept⟩ := List.mem_filter.mp hp
    rw [Node.filesIn_eq_map] at hfiles
    obtain ⟨names, hnames, rfl⟩ := List.mem_map.mp hfiles
    obtain ⟨dir, name, rfl, hstands⟩ := stands_of_mem_fileNamesIn hhere hfind hnames
    exact ⟨(Bool.and_eq_true_iff.mp hkept).2, dir, name, hstands, rfl⟩
  · cases h

/-- No descriptor is found twice. -/
theorem nodup_descriptors? {t : FileTree} {input : Path} {descriptors : List Path}
    (h : t.descriptors? input = some descriptors) : descriptors.Nodup := by
  unfold descriptors? at h
  split at h
  · cases h
    exact List.pairwise_singleton _ input
  · rename_i entries hnode
    cases h
    obtain ⟨-, here, -, hfind⟩ := node_eq_directory hnode
    have hwalked : (Node.fileNamesIn entries).Pairwise Node.WalkedBefore :=
      Node.pairwise_fileNames (t.ordered.find? hfind)
    have hnames : (Node.fileNamesIn entries).Nodup := hwalked.imp fun hbefore => by
      rintro rfl
      exact Node.walkedBefore_irrefl _ hbefore
    rw [Node.filesIn_eq_map]
    exact (List.Nodup.map input.below_injective hnames).filter _
  · cases h

end FileTree

end DartTriggers
