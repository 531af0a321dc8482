import DartTriggers.Proofs.Command.Effect
import DartTriggers.Proofs.FileTree.Kept
/-!
The tree after some descriptors. It is known from which of them are done, whatever their order: it
has the directory for units as soon as one of them can be generated, and the files that have been
written. The configuration and the descriptors are read from it as before the run.
-/

namespace DartTriggers.Generate

open FileTree (Extends Widens SameDirectories Stands)

/-- A descriptor that can be loaded and names a unit. -/
def Ready (before : FileTree) (d : Path) : Prop :=
  ∃ loaded unit, Registry.load before d = .ok loaded ∧ UnitName.ofPath? d = some unit

/-- The tree after some descriptors: their units are written, and the directory for units has been
made, or has been tried to make, as soon as one of them is ready. -/
structure Plan.Settled (p : Plan) (before : FileTree) (done : List Path) (tree : FileTree) :
    Prop where
  reached : p.Reached before done tree
  unchanged : (∀ d ∈ done, ¬ Ready before d) → tree = before
  directories : (∃ d ∈ done, Ready before d) → SameDirectories (p.prepare before).1 tree

theorem sameDirectories_generate {p : Plan} {before tree : FileTree} (hplain : p.Plain before)
    (hroot : tree.kind? [] = some .directory) {d : Path} {loaded : Logged Registry}
    {unit : UnitName} (hload : Registry.load tree d = .ok loaded)
    (hunit : UnitName.ofPath? d = some unit) :
    SameDirectories (p.prepare tree).1 (p.generate tree d).tree := by
  have hgenerate :=
    Plan.generate_eq hplain.toStdout hplain.formatter hload (hplain.unitOf hunit)
  have hroot' := (widens_prepare (p := p) hroot).extends_ _ hroot
  rcases hprepare : p.prepare tree with ⟨made, e | _⟩
  · rw [hprepare] at hgenerate
    rw [(Prod.mk.inj hgenerate).1]
    exact fun _ => Iff.rfl
  · simp only [hprepare, FileTree.writeText] at hgenerate
    cases hwrite : made.write (p.target d unit)
        (Dart.generateUnit p.options unit loaded.value).toUTF8 with
    | error e =>
        simp only [hwrite] at hgenerate
        rw [(Prod.mk.inj hgenerate).1]
        exact fun _ => Iff.rfl
    | ok written =>
        simp only [hwrite] at hgenerate
        rw [(Prod.mk.inj hgenerate).1]
        rw [hprepare] at hroot'
        exact (FileTree.content?_of_write hroot' hwrite).1

theorem output?_of_prepare_eq_error {p : Plan} {before made : FileTree} {e : FileError}
    (h : p.prepare before = (made, .error e)) (d : Path) : p.output? before d = none := by
  unfold Plan.output?
  split
  · simp [Plan.canWrite, h]
  · rfl

namespace Plan.Settled

variable {p : Plan} {before tree tree' : FileTree} {done done' : List Path} {d : Path}

theorem nil (p : Plan) (before : FileTree) : p.Settled before [] before := by
  refine ⟨.nil p before, fun _ => rfl, ?_⟩
  rintro ⟨d, hd, -⟩
  cases hd

theorem of_perm (h : p.Settled before done tree) (hperm : done.Perm done') :
    p.Settled before done' tree := by
  have hmem : ∀ d, d ∈ done ↔ d ∈ done' := fun _ => hperm.mem_iff
  obtain ⟨⟨hextends, halike, hwritten, hkept⟩, hunchanged, hdirectories⟩ := h
  simp only [hmem] at hwritten hkept hunchanged hdirectories
  exact ⟨⟨hextends, halike, hwritten, hkept⟩, hunchanged, hdirectories⟩

/-- Making the directory for units makes the directories that the first attempt makes, whether or
not it has been made. -/
theorem sameDirectories_prepare (h : p.Settled before done tree)
    (hroot : before.kind? [] = some .directory) :
    SameDirectories (p.prepare before).1 (p.prepare tree).1 := by
  by_cases hready : ∃ d ∈ done, Ready before d
  · have hdirectories := h.directories hready
    have hwidens := widens_prepare (p := p) hroot
    rcases hbefore : p.prepare before with ⟨made, e | _⟩
    · rw [hbefore] at hdirectories hwidens
      -- No file has been written, so the tree is the one that the first attempt left.
      have htree : made = tree := by
        refine hdirectories.eq fun location => ?_
        rw [hwidens.content, h.reached.kept]
        intro d _ unit _ hsome
        rw [output?_of_prepare_eq_error hbefore] at hsome
        cases hsome
      obtain ⟨e', hagain⟩ := prepare_of_error hroot hbefore
      rw [← htree, hagain]
      exact fun _ => Iff.rfl
    · rw [hbefore] at hdirectories
      rw [prepare_of_extends hroot hbefore hdirectories.extends_]
      exact hdirectories
  · push Not at hready
    rw [h.unchanged hready]
    exact fun _ => Iff.rfl

section

variable (h : p.Settled before done tree) (hplain : p.Plain before)
  (hdone : ∀ d' ∈ done, d' ∈ p.descriptors) (hd : d ∈ p.descriptors)

include h hplain hdone hd

theorem tree_generate_of_not_ready (hready : ¬ Ready before d) :
    (p.generate tree d).tree = tree := by
  refine (generate_of_none hplain.unit fun loaded hloaded => ?_).1
  by_contra hsome
  obtain ⟨unit, hunit⟩ := Option.ne_none_iff_exists'.mp hsome
  rw [h.reached.load hplain hdone hd] at hloaded
  exact hready ⟨loaded, unit, hloaded, hunit⟩

theorem sameDirectories_generate_of_ready (hready : Ready before d) :
    SameDirectories (p.prepare before).1 (p.generate tree d).tree := by
  obtain ⟨loaded, unit, hload, hunit⟩ := hready
  obtain ⟨dir, name, hstands⟩ := hplain.found.stands d hd
  rw [← h.reached.load hplain hdone hd] at hload
  have hroot := h.reached.extends_ _ hstands.kind?_root
  have hgenerate := sameDirectories_generate hplain hroot hload hunit
  exact fun names => (h.sameDirectories_prepare hstands.kind?_root names).trans (hgenerate names)

theorem generate : p.Settled before (done ++ [d]) (p.generate tree d).tree ∧
    (p.generate tree d).result.toOption.isSome = (p.output? before d).isSome := by
  obtain ⟨hreached, hresult⟩ := h.reached.generate hplain hdone hd
  refine ⟨⟨hreached, fun hnone => ?_, ?_⟩, hresult⟩
  · rw [h.tree_generate_of_not_ready hplain hdone hd (hnone d (by simp))]
    exact h.unchanged fun d' hd' => hnone d' (List.mem_append_left _ hd')
  · rintro ⟨d', hd', hready⟩
    by_cases hlast : Ready before d
    · exact h.sameDirectories_generate_of_ready hplain hdone hd hlast
    · rw [h.tree_generate_of_not_ready hplain hdone hd hlast]
      refine h.directories ⟨d', (List.mem_append.mp hd').resolve_right fun hmem => ?_, hready⟩
      rw [List.mem_singleton.mp hmem] at hready
      exact hlast hready

end

/-- The file of a descriptor that is done has its unit, or what was there before the run. -/
theorem content?_target (h : p.Settled before done tree) (hplain : p.Plain before)
    (hdone : ∀ d' ∈ done, d' ∈ p.descriptors) (hd : d ∈ done) {unit : UnitName}
    (hunit : UnitName.ofPath? d = some unit) :
    tree.content? (p.target d unit).location =
      match p.output? before d with
      | some source => some source.toUTF8
      | none => before.content? (p.target d unit).location := by
  cases houtput : p.output? before d with
  | some source => exact h.reached.written d hd unit source hunit houtput
  | none =>
      refine h.reached.kept _ fun d' hd' unit' hunit' hsome heq => ?_
      have hsame := location_target_inj hplain.extension hplain.found hplain.apart
        (hdone d' hd') (hdone d hd) hunit' hunit heq
      rw [hsame, houtput] at hsome
      cases hsome

/-- The file of a descriptor that is done can be read if its unit could be written. -/
theorem readText_target (h : p.Settled before done tree) (hd : d ∈ done) {unit : UnitName}
    (hunit : UnitName.ofPath? d = some unit) {source : String}
    (houtput : p.output? before d = some source) :
    tree.readText (p.target d unit) = .ok source := by
  obtain ⟨loaded, unit', hload, hunit', hcanWrite, -⟩ := Plan.output?_eq_some houtput
  rw [hunit] at hunit'
  obtain rfl := Option.some.inj hunit'
  have hdirectories := h.directories ⟨d, hd, loaded, unit, hload, hunit⟩
  rcases hprepare : p.prepare before with ⟨made, e | _⟩
  · rw [output?_of_prepare_eq_error hprepare] at houtput
    cases houtput
  · rw [hprepare] at hdirectories
    obtain ⟨written, hwrite⟩ :=
      (Plan.canWrite_iff hprepare hdirectories d unit source.toUTF8).mp hcanWrite
    obtain ⟨_, _, hlocate, -⟩ := FileTree.write_eq_ok.mp hwrite
    have hcontent := h.reached.written d hd unit source hunit houtput
    exact FileTree.readText_of_node (FileTree.node_of_located hlocate hcontent)

/-- The descriptors that are done determine the tree. -/
theorem unique (h : p.Settled before done tree) (h' : p.Settled before done tree') :
    tree = tree' := by
  by_cases hready : ∃ d ∈ done, Ready before d
  · have hsame : SameDirectories tree tree' :=
      fun names => ((h.directories hready) names).symm.trans ((h'.directories hready) names)
    refine hsame.eq fun location => ?_
    by_cases hwritten : ∃ d ∈ done, ∃ unit source, UnitName.ofPath? d = some unit ∧
        p.output? before d = some source ∧ (p.target d unit).location = location
    · obtain ⟨d, hd, unit, source, hunit, houtput, rfl⟩ := hwritten
      rw [h.reached.written d hd unit source hunit houtput,
        h'.reached.written d hd unit source hunit houtput]
    · have hkept : ∀ d ∈ done, ∀ unit, UnitName.ofPath? d = some unit →
          (p.output? before d).isSome → (p.target d unit).location ≠ location := by
        intro d hd unit hunit hsome heq
        obtain ⟨source, houtput⟩ := Option.isSome_iff_exists.mp hsome
        exact hwritten ⟨d, hd, unit, source, hunit, houtput, heq⟩
      rw [h.reached.kept location hkept, h'.reached.kept location hkept]
  · push Not at hready
    rw [h.unchanged hready, h'.unchanged hready]

section

variable (h : p.Settled before done tree) (hplain : p.Plain before) {cwd : Path}

include h hplain

theorem content?_config : tree.content? (Config.path cwd).location =
    before.content? (Config.path cwd).location :=
  h.reached.kept _ fun _ _ _ hunit _ => location_target_ne_config hplain.extension hunit cwd

theorem exists?_config (hroot : before.kind? [] = some .directory)
    (hkept : (p.prepare before).1.exists? (Config.path cwd) =
      before.exists? (Config.path cwd)) :
    tree.exists? (Config.path cwd) = before.exists? (Config.path cwd) := by
  by_cases hready : ∃ d ∈ done, Ready before d
  · rw [← hkept]
    refine (h.directories hready).symm.exists?_eq Config.isPlain_fileName ?_
    have hcontent : tree.content? (Config.path cwd).location =
        before.content? (Config.path cwd).location := h.content?_config hplain
    rw [← (widens_prepare (p := p) hroot).content] at hcontent
    exact hcontent
  · push Not at hready
    rw [h.unchanged hready]

/-- The configuration is loaded as before the run. -/
theorem load_config (hroot : before.kind? [] = some .directory)
    (hkept : (p.prepare before).1.exists? (Config.path cwd) =
      before.exists? (Config.path cwd))
    {config : Config} (hload : Config.load before cwd = .ok config) :
    Config.load tree cwd = .ok config := by
  have hexists := h.exists?_config hplain hroot hkept
  unfold Config.load at hload ⊢
  rw [hexists]
  split
  · rename_i hthere
    rw [if_pos hthere] at hload
    have hfile : ∃ content, before.node (Config.path cwd) = .ok (.file content) := by
      cases hnode : before.node (Config.path cwd) with
      | error e => simp [FileTree.readText, FileTree.read, hnode] at hload
      | ok node =>
          cases node with
          | directory entries => simp [FileTree.readText, FileTree.read, hnode] at hload
          | file content => exact ⟨content, rfl⟩
    obtain ⟨content, hnode⟩ := hfile
    obtain ⟨dir, name, hstands⟩ := FileTree.stands_of_node_eq_file hroot hnode
    have hsame := node_congr hstands h.reached.extends_ (h.content?_config hplain)
    unfold FileTree.readText FileTree.read at hload ⊢
    rw [hsame]
    exact hload
  · rename_i hthere
    rw [if_neg hthere] at hload
    exact hload

theorem isFile (hd : d ∈ p.descriptors) (hdone : ∀ d' ∈ done, d' ∈ p.descriptors)
    (hfile : before.isFile d = true) : tree.isFile d = true := by
  obtain ⟨dir, name, hstands⟩ := hplain.found.stands d hd
  have hsame := node_congr hstands h.reached.extends_ (h.reached.kept _ fun d' hd' unit hunit _ =>
    location_target_ne hplain.extension hplain.found (hdone d' hd') hd hunit)
  unfold FileTree.isFile at hfile ⊢
  rw [hsame]
  exact hfile

end

end Plan.Settled

end DartTriggers.Generate
