import DartTriggers.Proofs.FileTree.Creation
import DartTriggers.Proofs.FileTree.Spelled
/-!
Which descriptors an input stands for, and in which order. Below a directory they are all the files
that are named like a descriptor and whose path is not too long to be followed.
-/

namespace DartTriggers

namespace Path

theorem fault?_eq_none_iff {p : Path} : p.fault? = none ↔
    0 ∉ p.bytes ∧ p.bytes ≠ [] ∧ p.bytes.length ≤ FileTree.pathLimit := by
  unfold fault?
  split_ifs <;> simp_all

/-- Slashes at the end of a path lead nowhere. -/
theorem route_append_slashes (b : Bytes) (count : Nat) :
    route ⟨b ++ List.replicate count slash⟩ = route ⟨b⟩ := by
  induction count generalizing b with
  | zero => rw [List.replicate_zero, List.append_nil]
  | succ count ih =>
      have hend := ih []
      unfold route at hend ⊢
      rw [List.replicate_succ, split_append_slash, List.filter_append]
      rw [List.nil_append] at hend
      rw [hend]
      exact List.append_nil _

theorem exists_bytes_below (p : Path) (names : List Name) :
    ∃ more, (p.below names).bytes = p.bytes ++ more ∧ 0 ∉ more := by
  induction names generalizing p with
  | nil => exact ⟨[], (List.append_nil _).symm, List.not_mem_nil⟩
  | cons name names ih =>
      obtain ⟨more, hmore, hzero⟩ := ih (p.entry name)
      refine ⟨p.separator ++ name.bytes ++ more, ?_, ?_⟩
      · change ((p.entry name).below names).bytes = _
        rw [hmore, bytes_entry, List.append_assoc]
      · have hname : 0 ∉ name.bytes := by
          have hvalid := name.valid
          simp only [isFileName, Bool.and_eq_true, Bool.not_eq_true'] at hvalid
          simpa using hvalid.2
        have hseparator : 0 ∉ p.separator := by
          unfold separator
          split
          · exact List.not_mem_nil
          · decide
        simp [hseparator, hname, hzero]

/-- A path that goes on from one that can be followed is at fault only if it is too long. -/
theorem fault?_below_eq_none_iff {p : Path} (h : p.fault? = none) (names : List Name) :
    (p.below names).fault? = none ↔ (p.below names).bytes.length ≤ FileTree.pathLimit := by
  obtain ⟨more, hmore, hzero⟩ := p.exists_bytes_below names
  obtain ⟨hzero', hne, -⟩ := fault?_eq_none_iff.mp h
  rw [fault?_eq_none_iff, hmore]
  simp [hzero, hzero', hne]

end Path

namespace FileTree

theorem isFile_eq_true_iff {t : FileTree} {p : Path} :
    t.isFile p = true ↔ ∃ content, t.node p = .ok (.file content) := by
  unfold isFile
  split
  · rename_i content hnode
    exact iff_of_true rfl ⟨content, hnode⟩
  · rename_i hnot
    exact iff_of_false Bool.false_ne_true fun ⟨content, hnode⟩ => hnot content hnode

theorem Stands.isFile_iff {t : FileTree} {p : Path} {dir : List Name} {name : Name}
    (h : Stands t p dir name) : t.isFile p = true ↔ p.fault? = none := by
  rw [isFile_eq_true_iff]
  constructor
  · rintro ⟨content, hnode⟩
    obtain ⟨dir', name', hlocate, -⟩ := (node_eq_file h.kind?_root).mp hnode
    exact fault?_of_locate hlocate
  · intro hfault
    obtain ⟨content, hfile⟩ := h.file
    exact ⟨content, (node_eq_file h.kind?_root).mpr ⟨dir, name, h.located hfault, hfile⟩⟩

theorem Stands.isDescriptorPath_iff {t : FileTree} {p : Path} {dir : List Name} {name : Name}
    (h : Stands t p dir name) : isDescriptorPath p = true ↔
      ∃ stem, name.bytes = Bytes.ofString (stem ++ descriptorSuffix) := by
  rw [isDescriptorPath, h.fileName?]
  exact isDescriptorName_iff

/-- Names that lead from a directory to a descriptor that can be reached along the path of that
directory. -/
structure DescriptorBelow (input : Path) (entries : List (Name × Node)) (names : List Name) :
    Prop where
  file : ∃ content, (Node.directory entries).find? names = some (.file content)
  name : ∃ name stem, names.getLast? = some name ∧
    name.bytes = Bytes.ofString (stem ++ descriptorSuffix)
  reachable : (input.below names).bytes.length ≤ pathLimit

variable {t : FileTree} {input : Path} {entries : List (Name × Node)}

theorem kept_iff_descriptorBelow (h : t.node input = .ok (.directory entries)) {names : List Name}
    (hnames : names ∈ Node.fileNamesIn entries) :
    (t.isFile (input.below names) && isDescriptorPath (input.below names)) = true ↔
      DescriptorBelow input entries names := by
  obtain ⟨hfault, here, hhere, hfind⟩ := node_eq_directory h
  have hfile := (Node.mem_fileNames_iff (t.ordered.find? hfind)).mp hnames
  obtain ⟨dir, name, rfl, hstands⟩ := stands_of_mem_fileNamesIn hhere hfind hnames
  rw [Bool.and_eq_true, hstands.isFile_iff, hstands.isDescriptorPath_iff,
    Path.fault?_below_eq_none_iff hfault]
  constructor
  · rintro ⟨hlength, stem, hstem⟩
    exact ⟨hfile, ⟨name, stem, List.getLast?_concat, hstem⟩, hlength⟩
  · rintro ⟨-, ⟨name', stem, hlast, hstem⟩, hlength⟩
    rw [List.getLast?_concat, Option.some.injEq] at hlast
    exact ⟨hlength, stem, hlast ▸ hstem⟩

theorem exists_walked (h : t.node input = .ok (.directory entries)) : ∃ walked : List (List Name),
    t.descriptors? input = some (walked.map input.below) ∧ walked.Pairwise Node.WalkedBefore ∧
      ∀ names, names ∈ walked ↔ DescriptorBelow input entries names := by
  obtain ⟨-, here, -, hfind⟩ := node_eq_directory h
  have hordered : (Node.directory entries).Ordered := t.ordered.find? hfind
  let kept (names : List Name) : Bool :=
    t.isFile (input.below names) && isDescriptorPath (input.below names)
  refine ⟨(Node.fileNamesIn entries).filter kept, ?_, ?_, ?_⟩
  · unfold descriptors?
    rw [h]
    simp only [Node.filesIn_eq_map, List.filter_map]
    rfl
  · exact (Node.pairwise_fileNames hordered).filter kept
  · intro names
    rw [List.mem_filter]
    constructor
    · rintro ⟨hnames, hkept⟩
      exact (kept_iff_descriptorBelow h hnames).mp hkept
    · intro hbelow
      have hnames : names ∈ Node.fileNamesIn entries :=
        (Node.mem_fileNames_iff hordered).mpr hbelow.file
      exact ⟨hnames, (kept_iff_descriptorBelow h hnames).mpr hbelow⟩

variable (t input)

/-- A file stands for itself. A directory stands for the descriptors below it that can be reached,
each of them once and in the order of their names, and anything else for nothing. Nothing depends
on the order in which the entries of the tree have been made. -/
theorem descriptors?_complete :
    (t.isFile input = true → t.descriptors? input = some [input]) ∧
    (∀ entries, t.node input = .ok (.directory entries) → ∃ walked : List (List Name),
      t.descriptors? input = some (walked.map input.below) ∧ (walked.map input.below).Nodup ∧
      (walked.Pairwise fun names names' => names.map Name.bytes < names'.map Name.bytes) ∧
      ∀ names, names ∈ walked ↔ DescriptorBelow input entries names) ∧
    (t.isFile input = false → t.isDirectory input = false → t.descriptors? input = none) ∧
    ∀ made made' t₁ t₂, made.Perm made' → t.createAll? made = some t₁ →
      t.createAll? made' = some t₂ → t₁.descriptors? input = t₂.descriptors? input := by
  refine ⟨descriptors?_of_isFile, ?_, ?_, ?_⟩
  · intro entries hnode
    obtain ⟨walked, hdescriptors, hsorted, hmem⟩ := exists_walked hnode
    exact ⟨walked, hdescriptors, nodup_descriptors? hdescriptors, hsorted, hmem⟩
  · intro hfile hdirectory
    unfold isFile at hfile
    unfold isDirectory at hdirectory
    unfold descriptors?
    split <;> simp_all
  · intro made made' t₁ t₂ hperm h₁ h₂
    rw [createAll?_perm hperm h₁ h₂]

/-- A folder that is named like a descriptor and holds one, a descriptor whose name comes before those
in the folder if the paths are compared byte by byte, and one with nothing before the suffix. -/
def folder : Name := ⟨Bytes.ofString "x.trigger.json", by decide⟩

def inFolder : Name := ⟨Bytes.ofString "c.trigger.json", by decide⟩

def afterFolder : Name := ⟨Bytes.ofString "x.trigger.json-.trigger.json", by decide⟩

def bareSuffix : Name := ⟨Bytes.ofString ".trigger.json", by decide⟩

def mixed : FileTree :=
  (((empty.putDirectory [folder]).putFile [folder, inFolder] .empty).putFile [afterFolder]
    .empty).putFile [bareSuffix] .empty

theorem descriptors?_complete_mixed :
    mixed.descriptors? (Path.ofString "/.trigger.json") = some [Path.ofString "/.trigger.json"] ∧
    (∃ walked : List (List Name), mixed.descriptors? (Path.ofString "/") =
        some (walked.map (Path.ofString "/").below) ∧
      [folder, inFolder] ∈ walked ∧ [folder] ∉ walked) ∧
    mixed.descriptors? (Path.ofString "/none") = none ∧
    ∀ t, empty.createAll? [([bareSuffix], .file .empty), ([folder], .directory),
        ([afterFolder], .file .empty), ([folder, inFolder], .file .empty)] = some t →
      mixed.descriptors? (Path.ofString "/") = t.descriptors? (Path.ofString "/") := by
  refine ⟨?_, ?_, ?_, ?_⟩
  · exact (descriptors?_complete mixed _).1 (by decide)
  · have hnode : mixed.node (Path.ofString "/") = .ok (.directory
        [(bareSuffix, .file .empty), (folder, .directory [(inFolder, .file .empty)]),
          (afterFolder, .file .empty)]) := rfl
    obtain ⟨walked, hdescriptors, -, -, hmem⟩ :=
      (descriptors?_complete mixed (Path.ofString "/")).2.1 _ hnode
    refine ⟨walked, hdescriptors, (hmem _).mpr ?_, ?_⟩
    · exact ⟨⟨.empty, rfl⟩, ⟨inFolder, "c", rfl, by decide⟩, by decide⟩
    · intro hfolder
      obtain ⟨content, hfile⟩ := ((hmem _).mp hfolder).file
      cases hfile
  · exact (descriptors?_complete mixed _).2.2.1 (by decide) (by decide)
  · intro t ht
    have hperm : [([folder], Kind.directory), ([folder, inFolder], .file .empty),
        ([afterFolder], .file .empty), ([bareSuffix], .file .empty)].Perm
        [([bareSuffix], .file .empty), ([folder], .directory), ([afterFolder], .file .empty),
          ([folder, inFolder], .file .empty)] := by
      apply List.Perm.trans ((List.Perm.swap _ _ _).cons _)
      apply List.Perm.trans (((List.Perm.swap _ _ []).cons _).cons _)
      apply List.Perm.trans ((List.Perm.swap _ _ _).cons _)
      exact List.Perm.swap _ _ _
    exact (descriptors?_complete empty _).2.2.2 _ _ mixed t hperm rfl ht

/-- A directory with a descriptor, and paths of that directory. With enough slashes at its end such a
path still leads to the directory, but none goes on from it to the descriptor. -/
def remote : FileTree :=
  (empty.putDirectory [⟨[100], by decide⟩]).putFile [⟨[100], by decide⟩, inFolder] .empty

def longWay (slashes : Nat) : Path := ⟨[Path.slash, 100] ++ List.replicate slashes Path.slash⟩

theorem length_longWay (slashes : Nat) : (longWay slashes).bytes.length = slashes + 2 := by
  rw [longWay, List.length_append, List.length_replicate]
  exact Nat.add_comm 2 slashes

theorem node_remote_longWay {slashes : Nat} (h : slashes + 2 ≤ pathLimit) :
    remote.node (longWay slashes) = .ok (.directory [(inFolder, .file .empty)]) := by
  have hroute : (longWay slashes).route = [[100]] :=
    Path.route_append_slashes [Path.slash, 100] slashes
  have henter : remote.enter [] (longWay slashes).route = .ok [⟨[100], by decide⟩] := by
    rw [hroute]
    rfl
  have hfault : (longWay slashes).fault? = none := by
    rw [Path.fault?_eq_none_iff, length_longWay]
    refine ⟨?_, List.cons_ne_nil _ _, h⟩
    simp [longWay, List.mem_replicate, Path.slash]
  have hdirectory : remote.isDirectory (longWay slashes) = true :=
    (isDirectory_iff rfl).mpr ⟨hfault, _, henter⟩
  unfold isDirectory at hdirectory
  split at hdirectory
  · rename_i entries hnode
    obtain ⟨-, names, hnames, hfind⟩ := node_eq_directory hnode
    rw [henter] at hnames
    cases hnames
    rw [hnode]
    cases hfind
    rfl
  · cases hdirectory

theorem not_descriptorBelow_longWay {slashes : Nat} (h : pathLimit < slashes + 16) :
    ¬ DescriptorBelow (longWay slashes) entries [inFolder] := by
  intro hbelow
  have hlength : ((longWay slashes).entry inFolder).bytes.length ≤ pathLimit := hbelow.reachable
  have hname : inFolder.bytes.length = 14 := by decide
  rw [Path.bytes_entry, List.length_append, List.length_append, hname, length_longWay] at hlength
  omega

theorem not_descriptors?_complete_longWay :
    remote.node (longWay 4080) = .ok (.directory [(inFolder, .file .empty)]) ∧
      ¬ ∃ walked : List (List Name),
        remote.descriptors? (longWay 4080) = some (walked.map (longWay 4080).below) ∧
        ∀ names, names ∈ walked ↔
          (∃ content, (Node.directory [(inFolder, .file .empty)]).find? names =
            some (.file content)) ∧
          ∃ name stem, names.getLast? = some name ∧
            name.bytes = Bytes.ofString (stem ++ descriptorSuffix) := by
  have hnode : remote.node (longWay 4080) = .ok (.directory [(inFolder, .file .empty)]) :=
    node_remote_longWay (by decide)
  refine ⟨hnode, ?_⟩
  rintro ⟨walked, hdescriptors, hmem⟩
  obtain ⟨reached, hreached, -, hbelow⟩ := exists_walked hnode
  have hwalked : [inFolder] ∈ walked :=
    (hmem _).mpr ⟨⟨.empty, rfl⟩, inFolder, "c", rfl, by decide⟩
  have heq : walked.map (longWay 4080).below = reached.map (longWay 4080).below :=
    Option.some.inj (hdescriptors.symm.trans hreached)
  rw [(longWay 4080).below_injective.list_map heq] at hwalked
  exact not_descriptorBelow_longWay (by decide) ((hbelow _).mp hwalked)

end FileTree

end DartTriggers
