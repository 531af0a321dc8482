import DartTriggers.Proofs.Command.Targets
import DartTriggers.Proofs.FileTree.Directories
/-!
What a run of the command does to the tree. Every descriptor that is loaded, names a unit and has a
file that can be written is generated as if it were the only one; all other files stay as they are.
-/

namespace DartTriggers.Generate

open FileTree (Extends Widens SameDirectories Stands)

/-- Makes the directory that all units go to, if there is one. -/
def Plan.prepare (p : Plan) (tree : FileTree) : FileTree × Except FileError Unit :=
  match p.outDir with
  | none => (tree, .ok ())
  | some dir => tree.makeDirectories dir

/-- Whether the file for a descriptor's unit can be written: its directory can be made, and then a
file can be put there. -/
def Plan.canWrite (p : Plan) (tree : FileTree) (descriptor : Path) (unit : UnitName) : Bool :=
  match p.prepare tree with
  | (_, .error _) => false
  | (made, .ok ()) => (made.writeText (p.target descriptor unit) "").toOption.isSome

/-- The source that is written for a descriptor, given the tree before the run. -/
def Plan.output? (p : Plan) (tree : FileTree) (descriptor : Path) : Option String :=
  match Registry.load tree descriptor, UnitName.ofPath? descriptor with
  | .ok loaded, some unit =>
      if p.canWrite tree descriptor unit then some (Dart.generateUnit p.options unit loaded.value)
      else none
  | _, _ => none

theorem Plan.output?_eq (p : Plan) {before : FileTree} {d : Path} {loaded : Logged Registry}
    {unit : UnitName} (hload : Registry.load before d = .ok loaded)
    (hunit : UnitName.ofPath? d = some unit) :
    p.output? before d =
      if p.canWrite before d unit then some (Dart.generateUnit p.options unit loaded.value)
      else none := by
  simp only [output?, hload, hunit]

theorem Plan.output?_eq_some {p : Plan} {before : FileTree} {d : Path} {source : String}
    (h : p.output? before d = some source) :
    ∃ loaded unit, Registry.load before d = .ok loaded ∧ UnitName.ofPath? d = some unit ∧
      p.canWrite before d unit = true ∧ Dart.generateUnit p.options unit loaded.value = source := by
  unfold output? at h
  split at h
  · rename_i loaded unit hload hunit
    split at h
    · rename_i hcanWrite
      exact ⟨loaded, unit, hload, hunit, hcanWrite, Option.some.inj h⟩
    · cases h
  · cases h

theorem Plan.makeDirectory_eq (p : Plan) (tree : FileTree) (descriptor : Path) :
    p.makeDirectory tree descriptor =
      match p.prepare tree with
      | (made, .error e) => (made, .error e)
      | (made, .ok ()) => (made, .ok (p.outDir.getD (descriptor.parent?.getD ⟨Path.dot⟩))) := by
  unfold makeDirectory prepare
  cases p.outDir with
  | none => rfl
  | some dir => rcases tree.makeDirectories dir with ⟨made, e | _⟩ <;> rfl

section

variable {p : Plan} {tree : FileTree} (hroot : tree.kind? [] = some .directory)

include hroot

theorem widens_prepare : Widens tree (p.prepare tree).1 := by
  unfold Plan.prepare
  cases p.outDir with
  | none => exact .refl tree
  | some dir => exact FileTree.widens_makeDirectories hroot dir

theorem prepare_of_extends {made tree' : FileTree} (h : p.prepare tree = (made, .ok ()))
    (hextends : Extends made tree') : p.prepare tree' = (tree', .ok ()) := by
  unfold Plan.prepare at h ⊢
  cases houtDir : p.outDir with
  | none => rfl
  | some dir =>
      rw [houtDir] at h
      exact FileTree.makeDirectories_of_extends hroot h hextends

theorem prepare_of_error {made : FileTree} {e : FileError} (h : p.prepare tree = (made, .error e)) :
    ∃ e', p.prepare made = (made, .error e') := by
  unfold Plan.prepare at h ⊢
  cases houtDir : p.outDir with
  | none =>
      rw [houtDir] at h
      cases h
  | some dir =>
      rw [houtDir] at h
      exact FileTree.makeDirectories_of_error hroot h

end

/-- Trees in which units can be written to the same files. -/
def Plan.Alike (p : Plan) (before tree : FileTree) : Prop :=
  (∃ made made', p.prepare before = (made, .ok ()) ∧ p.prepare tree = (made', .ok ()) ∧
      SameDirectories made made') ∨
    ∃ made made' e e', p.prepare before = (made, .error e) ∧ p.prepare tree = (made', .error e')

theorem Plan.canWrite_iff {p : Plan} {before made made' : FileTree}
    (hbefore : p.prepare before = (made, .ok ())) (hsame : SameDirectories made made') (d : Path)
    (unit : UnitName) (content : ByteArray) :
    p.canWrite before d unit = true ↔
      ∃ written, made'.write (p.target d unit) content = .ok written := by
  have hcanWrite : p.canWrite before d unit = true ↔
      ∃ written, made.write (p.target d unit) "".toUTF8 = .ok written := by
    simp only [Plan.canWrite, hbefore, FileTree.writeText]
    cases made.write (p.target d unit) "".toUTF8 with
    | error e => exact ⟨nofun, fun ⟨_, hwritten⟩ => nomatch hwritten⟩
    | ok written => exact ⟨fun _ => ⟨written, rfl⟩, fun _ => rfl⟩
  rw [hcanWrite]
  exact ⟨fun hwrite => hsame.write hwrite content, fun hwrite => hsame.symm.write hwrite _⟩

theorem node_congr {before tree : FileTree} {q : Path} {dir : List Name} {name : Name}
    (hstands : Stands before q dir name) (hextends : Extends before tree)
    (hcontent : tree.content? q.location = before.content? q.location) :
    tree.node q = before.node q := by
  cases hfault : q.fault? with
  | some e =>
      unfold FileTree.node
      rw [FileTree.locate_of_fault hfault, FileTree.locate_of_fault hfault]
  | none =>
      have hlocate := hstands.located hfault
      obtain ⟨content, hfile⟩ := hstands.file
      have hbefore : before.content? q.location = some content := by
        rw [hstands.location, FileTree.content?_map_bytes]
        exact hfile
      rw [FileTree.node_of_located hlocate hbefore,
        FileTree.node_of_located (hextends.locate hlocate) (hcontent.trans hbefore)]

theorem load_congr {before tree : FileTree} {d : Path} {dir : List Name} {name : Name}
    (hstands : Stands before d dir name) (hextends : Extends before tree)
    (hcontent : tree.content? d.location = before.content? d.location) :
    Registry.load tree d = Registry.load before d := by
  unfold Registry.load FileTree.readText FileTree.read
  rw [node_congr hstands hextends hcontent]

/-- A plan that writes units named after their descriptors, without formatting them. -/
structure Plan.Plain (p : Plan) (before : FileTree) : Prop where
  unit : p.unit = none
  toStdout : p.toStdout = false
  formatter : p.formatter = Formatter.none
  extension : p.options.extension = "dart"
  found : Found before p.descriptors
  apart : p.outDir.isSome → p.descriptors.Pairwise Apart

theorem generate_of_none {p : Plan} {tree : FileTree} (hnamed : p.unit = none) {d : Path}
    (h : ∀ loaded, Registry.load tree d = .ok loaded → UnitName.ofPath? d = none) :
    (p.generate tree d).tree = tree ∧ (p.generate tree d).result.toOption = none := by
  unfold Plan.generate
  cases hload : Registry.load tree d with
  | error e => exact ⟨rfl, rfl⟩
  | ok loaded =>
      have hunit : p.unitOf d = .error (.noUnitName d) := by
        simp only [Plan.unitOf, hnamed, h loaded hload]
      simp only [hunit]
      exact ⟨trivial, rfl⟩

theorem Plan.Plain.unitOf {p : Plan} {before : FileTree} (h : p.Plain before) {d : Path}
    {unit : UnitName} (hunit : UnitName.ofPath? d = some unit) : p.unitOf d = .ok unit := by
  simp only [Plan.unitOf, h.unit, hunit]

theorem Plan.generate_eq {p : Plan} (htoStdout : p.toStdout = false)
    (hformatter : p.formatter = Formatter.none) {tree : FileTree} {d : Path}
    {loaded : Logged Registry} {unit : UnitName} (hload : Registry.load tree d = .ok loaded)
    (hunit : p.unitOf d = .ok unit) :
    ((p.generate tree d).tree, (p.generate tree d).result) =
      match p.prepare tree with
      | (made, .error e) => (made, .error (.outDir e))
      | (made, .ok ()) =>
          match made.writeText (p.target d unit)
              (Dart.generateUnit p.options unit loaded.value) with
          | .error e => (made, .error (.unit (.file e)))
          | .ok written => (written, .ok (some (p.target d unit))) := by
  unfold Plan.generate
  rw [hload]
  simp only [hunit, Plan.emit, htoStdout, Bool.false_eq_true, if_false, p.makeDirectory_eq]
  rcases p.prepare tree with ⟨made, e | _⟩
  · rfl
  · simp only [writeUnit, hformatter, Formatter.none]
    have htarget : unitFile p.options unit (p.outDir.getD (d.parent?.getD ⟨Path.dot⟩)) =
        p.target d unit := rfl
    rw [htarget]
    cases made.writeText (p.target d unit) (Dart.generateUnit p.options unit loaded.value) with
    | error e => rfl
    | ok written => rfl

/-- What a descriptor that succeeds has done: its unit is written once its directory is made. -/
theorem Plan.written_of_generate {p : Plan} (htoStdout : p.toStdout = false)
    (hformatter : p.formatter = Formatter.none) {tree : FileTree} {d : Path}
    (h : (p.generate tree d).result.toOption.isSome = true) :
    ∃ loaded unit made, Registry.load tree d = .ok loaded ∧ p.unitOf d = .ok unit ∧
      p.prepare tree = (made, .ok ()) ∧
        made.writeText (p.target d unit) (Dart.generateUnit p.options unit loaded.value) =
          .ok (p.generate tree d).tree := by
  cases hload : Registry.load tree d with
  | error e =>
      simp only [Plan.generate, hload] at h
      cases h
  | ok loaded =>
      cases hunit : p.unitOf d with
      | error e =>
          simp only [Plan.generate, hload, hunit] at h
          cases h
      | ok unit =>
          have hgenerate := Plan.generate_eq htoStdout hformatter hload hunit
          rcases hprepare : p.prepare tree with ⟨made, e | _⟩
          · rw [hprepare] at hgenerate
            rw [(Prod.mk.inj hgenerate).2] at h
            cases h
          · simp only [hprepare] at hgenerate
            cases hwrite : made.writeText (p.target d unit)
                (Dart.generateUnit p.options unit loaded.value) with
            | error e =>
                simp only [hwrite] at hgenerate
                rw [(Prod.mk.inj hgenerate).2] at h
                cases h
            | ok written =>
                simp only [hwrite] at hgenerate
                refine ⟨loaded, unit, made, rfl, rfl, rfl, ?_⟩
                rw [hwrite, (Prod.mk.inj hgenerate).1]

/-- A tree that is reached when some descriptors are done: their units are written, and all other
files are as they were before the run. -/
structure Plan.Reached (p : Plan) (before : FileTree) (done : List Path) (tree : FileTree) :
    Prop where
  extends_ : Extends before tree
  alike : p.Alike before tree
  written : ∀ d ∈ done, ∀ unit source, UnitName.ofPath? d = some unit →
    p.output? before d = some source →
    tree.content? (p.target d unit).location = some source.toUTF8
  kept : ∀ location, (∀ d ∈ done, ∀ unit, UnitName.ofPath? d = some unit →
      (p.output? before d).isSome → (p.target d unit).location ≠ location) →
    tree.content? location = before.content? location

namespace Plan.Reached

variable {p : Plan} {before tree tree' : FileTree} {done : List Path} {d : Path}

theorem nil (p : Plan) (before : FileTree) : p.Reached before [] before := by
  refine ⟨.refl before, ?_, List.forall_mem_nil _, fun _ _ => rfl⟩
  rcases h : p.prepare before with ⟨made, e | _⟩
  · exact .inr ⟨made, made, e, e, h, h⟩
  · exact .inl ⟨made, made, h, h, fun _ => Iff.rfl⟩

theorem widen (h : p.Reached before done tree) (hwidens : Widens tree tree')
    (halike : p.Alike before tree') (houtput : p.output? before d = none) :
    p.Reached before (done ++ [d]) tree' := by
  refine ⟨h.extends_.trans hwidens.extends_, halike, ?_, ?_⟩
  · intro d' hd' unit source hunit hsource
    rw [hwidens.content]
    rcases List.mem_append.mp hd' with hd' | hd'
    · exact h.written d' hd' unit source hunit hsource
    · rw [List.mem_singleton.mp hd', houtput] at hsource
      cases hsource
  · intro location hlocation
    rw [hwidens.content]
    exact h.kept location fun d' hd' => hlocation d' (List.mem_append_left _ hd')

theorem write (h : p.Reached before done tree) (hextends : Extends tree tree')
    (halike : p.Alike before tree') {unit : UnitName} {source : String}
    (hunit : UnitName.ofPath? d = some unit) (houtput : p.output? before d = some source)
    (htarget : tree'.content? (p.target d unit).location = some source.toUTF8)
    (helse : ∀ location ≠ (p.target d unit).location,
      tree'.content? location = tree.content? location)
    (hother : ∀ d' ∈ done, ∀ unit', UnitName.ofPath? d' = some unit' →
      (p.target d' unit').location = (p.target d unit).location → d' = d) :
    p.Reached before (done ++ [d]) tree' := by
  have hsame : ∀ unit', UnitName.ofPath? d = some unit' → unit' = unit := by
    intro unit' hunit'
    rw [hunit] at hunit'
    exact (Option.some.inj hunit').symm
  refine ⟨h.extends_.trans hextends, halike, ?_, ?_⟩
  · intro d' hd' unit' source' hunit' hsource'
    by_cases hd : d' = d
    · subst hd
      rw [houtput] at hsource'
      rw [hsame unit' hunit', htarget, Option.some.inj hsource']
    · have hdone : d' ∈ done :=
        (List.mem_append.mp hd').resolve_right fun hd' => hd (List.mem_singleton.mp hd')
      rw [helse _ fun heq => hd (hother d' hdone unit' hunit' heq)]
      exact h.written d' hdone unit' source' hunit' hsource'
  · intro location hlocation
    have hne : location ≠ (p.target d unit).location :=
      (hlocation d (by simp) unit hunit (by rw [houtput]; rfl)).symm
    rw [helse location hne]
    exact h.kept location fun d' hd' => hlocation d' (List.mem_append_left _ hd')

theorem load (h : p.Reached before done tree) (hplain : p.Plain before)
    (hdone : ∀ d' ∈ done, d' ∈ p.descriptors) (hd : d ∈ p.descriptors) :
    Registry.load tree d = Registry.load before d := by
  obtain ⟨dir, name, hstands⟩ := hplain.found.stands d hd
  refine load_congr hstands h.extends_ (h.kept _ fun d' hd' unit hunit _ => ?_)
  exact location_target_ne hplain.extension hplain.found (hdone d' hd') hd hunit

section

variable (h : p.Reached before done tree) (hplain : p.Plain before)
  (hdone : ∀ d' ∈ done, d' ∈ p.descriptors) (hd : d ∈ p.descriptors)

include h hplain hdone hd

/-- Once the directory for units is made, the file of a descriptor can be written if it could be
written before the run. -/
theorem generate_of_made {loaded : Logged Registry} {unit : UnitName}
    (hload : Registry.load before d = .ok loaded) (hunit : UnitName.ofPath? d = some unit)
    {made made' : FileTree} (hbefore : p.prepare before = (made, .ok ()))
    (hprepare : p.prepare tree = (made', .ok ())) (hsame : SameDirectories made made') :
    p.Reached before (done ++ [d]) (p.generate tree d).tree ∧
      (p.generate tree d).result.toOption.isSome = (p.output? before d).isSome := by
  obtain ⟨_, _, hstands⟩ := hplain.found.stands d hd
  have hroot := h.extends_ _ hstands.kind?_root
  have hwidens : Widens tree made' := by
    have hwidens := widens_prepare hroot (p := p)
    rwa [hprepare] at hwidens
  have hgenerate := Plan.generate_eq hplain.toStdout hplain.formatter
    ((h.load hplain hdone hd).trans hload) (hplain.unitOf hunit)
  simp only [hprepare, FileTree.writeText] at hgenerate
  have houtput := p.output?_eq hload hunit
  -- The tree has other files than the one before the run, but the same directories.
  have hwritable := Plan.canWrite_iff hbefore hsame d unit
    (Dart.generateUnit p.options unit loaded.value).toUTF8
  cases hwrite : made'.write (p.target d unit)
      (Dart.generateUnit p.options unit loaded.value).toUTF8 with
  | error e =>
      have hnone : p.output? before d = none := by
        rw [houtput, if_neg]
        rw [hwritable, hwrite]
        rintro ⟨written, hwritten⟩
        cases hwritten
      simp only [hwrite] at hgenerate
      obtain ⟨htree, hresult⟩ := Prod.mk.inj hgenerate
      rw [htree, hresult, hnone]
      have hagain := prepare_of_extends hroot hprepare (.refl made')
      exact ⟨h.widen hwidens (.inl ⟨made, made', hbefore, hagain, hsame⟩) hnone, rfl⟩
  | ok written =>
      have hsome : p.output? before d = some (Dart.generateUnit p.options unit loaded.value) := by
        rw [houtput, if_pos (hwritable.mpr ⟨written, hwrite⟩)]
      simp only [hwrite] at hgenerate
      obtain ⟨htree, hresult⟩ := Prod.mk.inj hgenerate
      rw [htree, hresult, hsome]
      obtain ⟨hdirectories, hcontent, helse⟩ :=
        FileTree.content?_of_write (hwidens.extends_ _ hroot) hwrite
      have hagain := prepare_of_extends hroot hprepare hdirectories.extends_
      have halike : p.Alike before written :=
        .inl ⟨made, written, hbefore, hagain, fun names => (hsame names).trans (hdirectories names)⟩
      refine ⟨h.write (hwidens.extends_.trans hdirectories.extends_) halike hunit hsome hcontent
        (fun location hne => (helse location hne).trans (hwidens.content location)) ?_, rfl⟩
      intro d' hd' unit' hunit' heq
      exact location_target_inj hplain.extension hplain.found hplain.apart (hdone d' hd') hd
        hunit' hunit heq

theorem generate_of_unmade {loaded : Logged Registry} {unit : UnitName}
    (hload : Registry.load before d = .ok loaded) (hunit : UnitName.ofPath? d = some unit)
    {made made' : FileTree} {e e' : FileError} (hbefore : p.prepare before = (made, .error e))
    (hprepare : p.prepare tree = (made', .error e')) :
    p.Reached before (done ++ [d]) (p.generate tree d).tree ∧
      (p.generate tree d).result.toOption.isSome = (p.output? before d).isSome := by
  obtain ⟨_, _, hstands⟩ := hplain.found.stands d hd
  have hroot := h.extends_ _ hstands.kind?_root
  have hwidens := widens_prepare hroot (p := p)
  have hgenerate := Plan.generate_eq hplain.toStdout hplain.formatter
    ((h.load hplain hdone hd).trans hload) (hplain.unitOf hunit)
  rw [hprepare] at hgenerate hwidens
  obtain ⟨htree, hresult⟩ := Prod.mk.inj hgenerate
  have hnone : p.output? before d = none := by
    rw [p.output?_eq hload hunit, Plan.canWrite, hbefore]
    rfl
  obtain ⟨e'', hagain⟩ := prepare_of_error hroot hprepare
  rw [htree, hresult, hnone]
  exact ⟨h.widen hwidens (.inr ⟨made, made', e, e'', hbefore, hagain⟩) hnone, rfl⟩

/-- What comes of the next descriptor is what would come of it before the run. -/
theorem generate : p.Reached before (done ++ [d]) (p.generate tree d).tree ∧
    (p.generate tree d).result.toOption.isSome = (p.output? before d).isSome := by
  by_cases hready : ∃ loaded unit, Registry.load before d = .ok loaded ∧
      UnitName.ofPath? d = some unit
  · obtain ⟨loaded, unit, hload, hunit⟩ := hready
    rcases h.alike with ⟨made, made', hbefore, hprepare, hsame⟩ | ⟨_, _, _, _, hbefore, hprepare⟩
    · exact h.generate_of_made hplain hdone hd hload hunit hbefore hprepare hsame
    · exact h.generate_of_unmade hplain hdone hd hload hunit hbefore hprepare
  · have hload := h.load hplain hdone hd
    have hnone : ∀ loaded, Registry.load tree d = .ok loaded → UnitName.ofPath? d = none := by
      intro loaded hloaded
      by_contra hsome
      obtain ⟨unit, hunit⟩ := Option.ne_none_iff_exists'.mp hsome
      exact hready ⟨loaded, unit, hload ▸ hloaded, hunit⟩
    have houtput : p.output? before d = none := by
      unfold Plan.output?
      rw [← hload]
      cases hloaded : Registry.load tree d with
      | error e => rfl
      | ok loaded => rw [hnone loaded hloaded]
    obtain ⟨htree, hresult⟩ := generate_of_none hplain.unit hnone
    rw [htree, hresult, houtput]
    exact ⟨h.widen (.refl tree) h.alike houtput, rfl⟩

end

end Plan.Reached

end DartTriggers.Generate
