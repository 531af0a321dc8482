import DartTriggers.Proofs.Command.Collision
import DartTriggers.Proofs.Config
import DartTriggers.Proofs.FileTree.Walk
import DartTriggers.Proofs.UnitName
/-!
The files that a plan writes to. No two descriptors write to one file, and no descriptor and no
configuration is written to.
-/

namespace DartTriggers

open FileTree (Stands)

/-- The path of the file that a descriptor's unit is written to. -/
def Generate.Plan.target (p : Generate.Plan) (descriptor : Path) (unit : UnitName) : Path :=
  unitFile p.options unit (p.outDir.getD (descriptor.parent?.getD ⟨Path.dot⟩))

theorem fileName?_of_isDescriptorPath {p : Path} {u : UnitName} (h : isDescriptorPath p = true)
    (hu : UnitName.ofPath? p = some u) :
    p.fileName? = some (Bytes.ofString (u.text ++ descriptorSuffix)) := by
  obtain ⟨name, hname⟩ := exists_of_isDescriptorPath h
  obtain ⟨name', hname', hstem⟩ := UnitName.ofPath?_eq_some hu
  rw [hname] at hname'
  obtain rfl := Bytes.ofString_injective (Option.some.inj hname')
  rw [UnitName.stem_append_descriptorSuffix] at hstem
  rw [hname, hstem]

namespace Generate

/-- What is known of the descriptors of a plan: they are files of the tree, known by their
locations, and if there are several, then they are named like descriptors. -/
structure Found (tree : FileTree) (descriptors : List Path) : Prop where
  stands : ∀ d ∈ descriptors, ∃ dir name, Stands tree d dir name
  location_inj : ∀ d ∈ descriptors, ∀ d' ∈ descriptors, d.location = d'.location → d = d'
  only : ∀ d ∈ descriptors, isDescriptorPath d = true ∨ ∀ d' ∈ descriptors, d' = d

theorem found_of_descriptors? {tree : FileTree} (hroot : tree.kind? [] = some .directory)
    {input : Path} {descriptors : List Path} (h : tree.descriptors? input = some descriptors) :
    Found tree descriptors := by
  rcases FileTree.descriptors?_cases h with ⟨rfl, content, hnode⟩ | ⟨here, hhere, -, hbelow⟩
  · have hsingle : ∀ d ∈ [input], d = input := fun d hd => List.mem_singleton.mp hd
    refine ⟨fun d hd => ?_, fun d hd d' hd' _ => ?_, fun d hd => ?_⟩
    · rw [hsingle d hd]
      exact FileTree.stands_of_node_eq_file hroot hnode
    · rw [hsingle d hd, hsingle d' hd']
    · exact .inr fun d' hd' => (hsingle d' hd').trans (hsingle d hd).symm
  · refine ⟨fun d hd => ?_, fun d hd d' hd' heq => ?_, fun d hd => .inl (hbelow d hd).1⟩
    · obtain ⟨-, dir, name, hstands, -⟩ := hbelow d hd
      exact ⟨_, _, hstands⟩
    · obtain ⟨-, dir, name, -, rfl⟩ := hbelow d hd
      obtain ⟨-, dir', name', -, rfl⟩ := hbelow d' hd'
      rw [Path.location_below, Path.location_below] at heq
      rw [FileTree.map_bytes_injective (List.append_cancel_left heq)]

theorem ofPath?_of_kind?_root {tree : FileTree} (hroot : tree.kind? [] ≠ some .directory)
    {input : Path} {descriptors : List Path} (h : tree.descriptors? input = some descriptors) :
    ∀ d ∈ descriptors, UnitName.ofPath? d = none := by
  have hnothing : ∀ names, names ≠ [] → tree.kind? names = none := by
    intro names hnames
    by_contra hsome
    exact hroot (FileTree.kind?_eq_directory_of_append (t := tree) hnames hsome)
  have hnode : ∀ d content, tree.node d = .ok (.file content) → UnitName.ofPath? d = none := by
    intro d content hnode
    have hname : d.fileName? = none := by
      by_contra hsome
      obtain ⟨part, hpart⟩ := Option.ne_none_iff_exists'.mp hsome
      obtain ⟨hlast, hup⟩ := Path.fileName?_eq_some_iff.mp hpart
      have hidle : Path.isIdle part = false := by
        simpa using List.of_mem_filter (List.mem_of_getLast? hlast)
      unfold FileTree.node at hnode
      split at hnode
      · cases hnode
      · rename_i names hlocate
        have henter := FileTree.enter_of_locate_directory hlocate
        rw [← List.dropLast_append_getLast? part hlast] at henter
        obtain ⟨there, -, hlast⟩ := FileTree.enter_append.mp henter
        obtain ⟨name, -, hkind, -⟩ := (FileTree.enter_cons_plain hidle hup).mp hlast
        rw [hnothing _ (List.append_ne_nil_of_right_ne_nil _ (List.cons_ne_nil _ _))] at hkind
        cases hkind
      · rename_i dir name _ _
        rw [FileTree.kind?_eq_none.mp
          (hnothing (dir ++ [name]) (List.append_ne_nil_of_right_ne_nil _ (List.cons_ne_nil _ _)))]
          at hnode
        cases hnode
    rw [UnitName.ofPath?, hname]
    rfl
  intro d hd
  rcases FileTree.descriptors?_cases h with ⟨rfl, content, hinput⟩ | ⟨here, -, hkind, -⟩
  · rw [List.mem_singleton.mp hd]
    exact hnode input content hinput
  · by_cases hnil : here = []
    · exact absurd (hnil ▸ hkind) hroot
    · rw [hnothing here hnil] at hkind
      cases hkind

variable {p : Plan} {tree : FileTree} (hextension : p.options.extension = "dart")

include hextension

theorem target_eq (d : Path) (u : UnitName) :
    p.target d u = (p.outDir.getD (d.parent?.getD ⟨Path.dot⟩)).append
      ⟨Bytes.ofString (u.generatedFile "dart")⟩ := by
  rw [Plan.target, unitFile, hextension]
  rfl

theorem location_target {d : Path} {u : UnitName} (hu : UnitName.ofPath? d = some u) :
    (p.target d u).location = (p.outDir.getD (d.parent?.getD ⟨Path.dot⟩)).location ++
      [Bytes.ofString (u.generatedFile "dart")] := by
  rw [target_eq hextension, Path.location_append_plain (UnitName.isPlain_generatedFile hu)]

/-- No descriptor is written to. -/
theorem location_target_ne {descriptors : List Path} (hfound : Found tree descriptors) {d d' : Path}
    (hd : d ∈ descriptors) (hd' : d' ∈ descriptors) {u : UnitName}
    (hu : UnitName.ofPath? d = some u) : (p.target d u).location ≠ d'.location := by
  intro heq
  obtain ⟨dir, name, hstands⟩ := hfound.stands d' hd'
  rw [location_target hextension hu, hstands.location, List.map_append, List.map_singleton] at heq
  obtain ⟨-, hname⟩ := List.append_inj' heq rfl
  obtain hname : Bytes.ofString (u.generatedFile "dart") = name.bytes := (List.cons.inj hname).1
  rcases hfound.only d' hd' with hdescriptor | hall
  · obtain ⟨text, htext⟩ := exists_of_isDescriptorPath hdescriptor
    rw [hstands.fileName?, ← hname] at htext
    have hlast : (text ++ descriptorSuffix).toList.getLast? = some 'n' := by
      have hsuffix : descriptorSuffix.toList.getLast? = some 'n' := by decide
      rw [String.toList_append, List.getLast?_append, hsuffix]
      rfl
    refine UnitName.generatedFile_ne_of_getLast? u ?_ (Option.some.inj htext)
    rw [hlast]
    decide
  · rw [hall d hd] at hu
    refine UnitName.generatedFile_ne_fileName hu "dart" ?_
    rw [hstands.fileName?, hname]

theorem location_target_ne_config {d : Path} {u : UnitName} (hu : UnitName.ofPath? d = some u)
    (cwd : Path) : (p.target d u).location ≠ (Config.path cwd).location := by
  rw [location_target hextension hu, Config.location_path]
  intro heq
  obtain ⟨-, hname⟩ := List.append_inj' heq rfl
  exact UnitName.generatedFile_ne_of_getLast? u (by decide) (List.cons.inj hname).1

/-- Different descriptors are written to different files. -/
theorem location_target_inj {descriptors : List Path} (hfound : Found tree descriptors)
    (hapart : p.outDir.isSome → descriptors.Pairwise Apart) {d d' : Path}
    (hd : d ∈ descriptors) (hd' : d' ∈ descriptors) {u u' : UnitName}
    (hu : UnitName.ofPath? d = some u) (hu' : UnitName.ofPath? d' = some u')
    (heq : (p.target d u).location = (p.target d' u').location) : d = d' := by
  rw [location_target hextension hu, location_target hextension hu'] at heq
  obtain ⟨hdirectory, hname⟩ := List.append_inj' heq rfl
  obtain rfl : u = u' := UnitName.generatedFile_injective
    (Bytes.ofString_injective (List.cons.inj hname).1)
  by_contra hne
  cases houtDir : p.outDir with
  | some dir =>
      have hpairwise := hapart (by rw [houtDir]; rfl)
      exact apart_of_pairwise hpairwise hd hd' hne u hu hu'
  | none =>
      -- Two descriptors in one directory that give one unit have one name.
      rw [houtDir, Option.getD_none, Option.getD_none] at hdirectory
      obtain ⟨dir, name, hstands⟩ := hfound.stands d hd
      obtain ⟨dir', name', hstands'⟩ := hfound.stands d' hd'
      obtain ⟨q, hq, -, henter⟩ := hstands.exists_parent?
      obtain ⟨q', hq', -, henter'⟩ := hstands'.exists_parent?
      rw [hq, hq', Option.getD_some, Option.getD_some, ← FileTree.map_bytes_of_enter_route henter,
        ← FileTree.map_bytes_of_enter_route henter'] at hdirectory
      have hdescriptor : ∀ d ∈ descriptors, ∀ d' ∈ descriptors, d ≠ d' →
          isDescriptorPath d = true :=
        fun d hd d' hd' hne => (hfound.only d hd).resolve_right fun hall => hne (hall d' hd').symm
      have hfile := fileName?_of_isDescriptorPath (hdescriptor d hd d' hd' hne) hu
      have hfile' := fileName?_of_isDescriptorPath (hdescriptor d' hd' d hd (Ne.symm hne)) hu'
      rw [hstands.fileName?] at hfile
      rw [hstands'.fileName?, ← hfile] at hfile'
      refine hne (hfound.location_inj d hd d' hd' ?_)
      rw [hstands.location, hstands'.location, List.map_append, List.map_append, hdirectory,
        List.map_singleton, List.map_singleton, Option.some.inj hfile']

end Generate

end DartTriggers
