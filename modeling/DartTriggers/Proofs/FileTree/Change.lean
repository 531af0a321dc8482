import DartTriggers.Proofs.FileTree.Access
/-!
What changes of a file tree leave alone. Writing a file changes the content at the location of its
path and no directory; making a directory changes no content.
-/

namespace DartTriggers.FileTree

/-- The content of the file at a location, if there is a file. -/
def content? (t : FileTree) (location : List Bytes) : Option ByteArray :=
  ((location.mapM Name.ofBytes?).bind t.kind?).bind Kind.content?

theorem mapM_ofBytes? {location : List Bytes} {names : List Name} :
    location.mapM Name.ofBytes? = some names ↔ names.map (·.bytes) = location := by
  induction location generalizing names with
  | nil =>
      rw [List.mapM_nil, Option.pure_def, Option.some.injEq, List.map_eq_nil_iff]
      exact eq_comm
  | cons part location ih =>
      rw [List.mapM_cons]
      simp only [Option.bind_eq_bind, Option.bind_eq_some_iff, Option.pure_def, Option.some.injEq,
        ih]
      constructor
      · rintro ⟨name, hname, rest, hrest, rfl⟩
        rw [List.map_cons, hrest, Name.bytes_of_ofBytes? hname]
      · intro h
        cases names with
        | nil => cases h
        | cons name names =>
            obtain ⟨rfl, hrest⟩ := List.cons.inj h
            exact ⟨name, name.ofBytes?_bytes, names, hrest, rfl⟩

theorem content?_eq_some {t : FileTree} {location : List Bytes} {content : ByteArray} :
    t.content? location = some content ↔ ∃ names : List Name, names.map (·.bytes) = location ∧
      t.kind? names = some (.file content) := by
  simp only [content?, Option.bind_eq_some_iff, mapM_ofBytes?]
  constructor
  · rintro ⟨kind, ⟨names, hnames, hkind⟩, hcontent⟩
    cases kind <;> cases hcontent
    exact ⟨names, hnames, hkind⟩
  · rintro ⟨names, hnames, hkind⟩
    exact ⟨_, ⟨names, hnames, hkind⟩, rfl⟩

theorem map_bytes_injective : Function.Injective (List.map Name.bytes) :=
  List.map_injective_iff.mpr Name.bytes_injective

theorem content?_map_bytes {t : FileTree} {names : List Name} {content : ByteArray} :
    t.content? (names.map Name.bytes) = some content ↔ t.kind? names = some (.file content) := by
  rw [content?_eq_some]
  constructor
  · rintro ⟨names', hnames, hkind⟩
    rwa [← map_bytes_injective hnames]
  · exact fun hkind => ⟨names, rfl, hkind⟩

/-- A path along which a file can be written leads to the file that is at its location. -/
theorem node_of_located {t : FileTree} {p : Path} {dir : List Name} {name : Name}
    (hlocate : t.locate p = .ok (.entry dir name false)) {content : ByteArray}
    (hcontent : t.content? p.location = some content) : t.node p = .ok (.file content) := by
  obtain ⟨parts, hroute, hdir⟩ := enter_of_locate_entry hlocate
  rw [← map_bytes_concat_of_enter hroute hdir, content?_map_bytes, kind?_eq_file] at hcontent
  rw [node, hlocate]
  simp only [hcontent]
  rfl

theorem content?_congr {t t' : FileTree} {location : List Bytes}
    (h : ∀ names : List Name, names.map Name.bytes = location → ∀ content,
      t.kind? names = some (.file content) ↔ t'.kind? names = some (.file content)) :
    t.content? location = t'.content? location := by
  refine Option.ext fun content => ?_
  rw [content?_eq_some, content?_eq_some]
  refine exists_congr fun names => and_congr_right fun hnames => h names hnames content

/-- A tree with the same files and more directories. -/
structure Widens (t t' : FileTree) : Prop where
  extends_ : Extends t t'
  content : ∀ location, t'.content? location = t.content? location

theorem Widens.refl (t : FileTree) : Widens t t :=
  ⟨.refl t, fun _ => rfl⟩

theorem Widens.trans {t t' t'' : FileTree} (h : Widens t t') (h' : Widens t' t'') :
    Widens t t'' :=
  ⟨h.extends_.trans h'.extends_, fun location => (h'.content location).trans (h.content location)⟩

theorem makeDirectory_eq_ok {t t' : FileTree} {p : Path} :
    t.makeDirectory p = .ok t' ↔ ∃ dir name asDirectory,
      t.locate p = .ok (.entry dir name asDirectory) ∧ t.kind? (dir ++ [name]) = none ∧
        t' = t.putDirectory (dir ++ [name]) := by
  unfold makeDirectory
  cases hlocate : t.locate p with
  | error e => simp
  | ok target =>
      cases target with
      | directory names => simp
      | entry dir name asDirectory =>
          cases hfind : t.find? (dir ++ [name]) with
          | some node => simp [kind?, hfind]
          | none => simp [kind?, hfind, eq_comm]

theorem makeDirectory_of_isDirectory {t : FileTree} {p : Path} (h : t.isDirectory p = true) :
    t.makeDirectory p = .error .alreadyExists := by
  unfold isDirectory node at h
  unfold makeDirectory
  cases hlocate : t.locate p with
  | error e => simp [hlocate] at h
  | ok target =>
      cases target with
      | directory names => rfl
      | entry dir name asDirectory =>
          cases hfind : t.find? (dir ++ [name]) with
          | none => simp [hlocate, hfind] at h
          | some node => simp only [hfind]

theorem kind?_of_makeDirectory {t t' : FileTree} (hroot : t.kind? [] = some .directory) {p : Path}
    (h : t.makeDirectory p = .ok t') : ∃ dir name, p.fault? = none ∧
      (∃ parts, p.route = parts ++ [name.bytes] ∧ t.enter [] parts = .ok dir) ∧
      t.kind? (dir ++ [name]) = none ∧
      ∀ names, t'.kind? names =
        if dir ++ [name] = names then some .directory else t.kind? names := by
  obtain ⟨dir, name, _, hlocate, hnone, rfl⟩ := makeDirectory_eq_ok.mp h
  obtain ⟨parts, hroute, hdir⟩ := enter_of_locate_entry hlocate
  exact ⟨dir, name, fault?_of_locate hlocate, ⟨parts, hroute, hdir⟩, hnone,
    kind?_putDirectory (kind?_of_enter hroot hdir) hnone⟩

theorem widens_of_makeDirectory {t t' : FileTree} (hroot : t.kind? [] = some .directory)
    {p : Path} (h : t.makeDirectory p = .ok t') : Widens t t' := by
  obtain ⟨dir, name, -, -, hnone, hkind⟩ := kind?_of_makeDirectory hroot h
  constructor
  · intro names hnames
    rw [hkind]
    split
    · rfl
    · exact hnames
  · refine fun location => content?_congr fun names _ content => ?_
    rw [hkind]
    split
    · rename_i hnames
      rw [← hnames, hnone]
      simp
    · rfl

theorem isDirectory_of_makeDirectory {t t' : FileTree} (hroot : t.kind? [] = some .directory)
    {p : Path} (h : t.makeDirectory p = .ok t') : t'.isDirectory p = true := by
  have hwidens := widens_of_makeDirectory hroot h
  obtain ⟨dir, name, hfault, ⟨parts, hroute, hdir⟩, -, hkind⟩ := kind?_of_makeDirectory hroot h
  refine (isDirectory_iff (hwidens.extends_ _ hroot)).mpr ⟨hfault, dir ++ [name], ?_⟩
  rw [hroute]
  exact enter_concat (hwidens.extends_.enter hdir) (by rw [hkind, if_pos rfl])

theorem write_eq_ok {t t' : FileTree} {p : Path} {content : ByteArray} :
    t.write p content = .ok t' ↔ ∃ dir name, t.locate p = .ok (.entry dir name false) ∧
      t.kind? (dir ++ [name]) ≠ some .directory ∧ t' = t.putFile (dir ++ [name]) content := by
  unfold write locate
  cases happroach : t.approach p with
  | error e => simp
  | ok approach =>
      cases approach with
      | directory names => simp
      | part parent last =>
          cases hlast : nameOf last with
          | error e => cases endsInSlash p <;> simp [hlast]
          | ok name =>
              cases endsInSlash p with
              | true => simp [hlast]
              | false =>
                  rcases hfind : t.find? (parent ++ [name]) with _ | old | entries
                  · simp [hlast, kind?, hfind, eq_comm]
                  · simp [hlast, kind?, hfind, Node.kind, eq_comm]
                  · simp [hlast, kind?, hfind, Node.kind]

def SameDirectories (t t' : FileTree) : Prop :=
  ∀ names, t.kind? names = some .directory ↔ t'.kind? names = some .directory

theorem SameDirectories.extends_ {t t' : FileTree} (h : SameDirectories t t') : Extends t t' :=
  fun names => (h names).mp

theorem SameDirectories.symm {t t' : FileTree} (h : SameDirectories t t') :
    SameDirectories t' t :=
  fun names => (h names).symm

/-- Whether a file can be written depends on the directories of a tree only. -/
theorem SameDirectories.write {t t' : FileTree} (h : SameDirectories t t') {p : Path}
    {content : ByteArray} (hwrite : ∃ t₁, t.write p content = .ok t₁) (content' : ByteArray) :
    ∃ t₁, t'.write p content' = .ok t₁ := by
  obtain ⟨t₁, hwrite⟩ := hwrite
  obtain ⟨dir, name, hlocate, hkind, -⟩ := write_eq_ok.mp hwrite
  exact ⟨_, write_eq_ok.mpr ⟨dir, name, h.extends_.locate hlocate, (h _).not.mp hkind, rfl⟩⟩

theorem kind?_of_write {t t' : FileTree} (hroot : t.kind? [] = some .directory) {p : Path}
    {content : ByteArray} (h : t.write p content = .ok t') : ∃ dir name,
      t.locate p = .ok (.entry dir name false) ∧ t.kind? (dir ++ [name]) ≠ some .directory ∧
      (dir ++ [name]).map Name.bytes = p.location ∧ ∀ names, t'.kind? names =
        if dir ++ [name] = names then some (.file content) else t.kind? names := by
  obtain ⟨dir, name, hlocate, hold, rfl⟩ := write_eq_ok.mp h
  obtain ⟨parts, hroute, hdir⟩ := enter_of_locate_entry hlocate
  exact ⟨dir, name, hlocate, hold, map_bytes_concat_of_enter hroute hdir,
    kind?_putFile (kind?_of_enter hroot hdir) hold content⟩

/-- A file that is written changes the content at its location. -/
theorem content?_of_write {t t' : FileTree} (hroot : t.kind? [] = some .directory) {p : Path}
    {content : ByteArray} (h : t.write p content = .ok t') :
    SameDirectories t t' ∧ t'.content? p.location = some content ∧
      ∀ location ≠ p.location, t'.content? location = t.content? location := by
  obtain ⟨dir, name, -, hold, hlocation, hkind⟩ := kind?_of_write hroot h
  refine ⟨fun names => ?_, ?_, ?_⟩
  · rw [hkind]
    split
    · rename_i hnames
      rw [← hnames]
      simp [hold]
    · rfl
  · rw [← hlocation, content?_map_bytes, hkind, if_pos rfl]
  · intro location hne
    refine content?_congr fun names hnames other => ?_
    rw [hkind, if_neg]
    rintro rfl
    exact hne (hnames.symm.trans hlocation)

end DartTriggers.FileTree
