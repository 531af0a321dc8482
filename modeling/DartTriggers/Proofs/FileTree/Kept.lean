import DartTriggers.Proofs.FileTree.Same
/-!
File trees in which nothing is lost: whatever stood at the end of some names still stands there.
Directories that are made and files that are new keep everything.
-/

namespace DartTriggers.FileTree

/-- Directories stay directories, and files stay files with their content. -/
def Keeps (t t' : FileTree) : Prop :=
  ∀ names kind, t.kind? names = some kind → t'.kind? names = some kind

theorem Keeps.refl (t : FileTree) : Keeps t t :=
  fun _ _ h => h

theorem Keeps.trans {t t' t'' : FileTree} (h : Keeps t t') (h' : Keeps t' t'') : Keeps t t'' :=
  fun names kind hkind => h' names kind (h names kind hkind)

theorem Keeps.content? {t t' : FileTree} (h : Keeps t t') {location : List Bytes}
    {content : ByteArray} (hcontent : t.content? location = some content) :
    t'.content? location = some content := by
  obtain ⟨names, hnames, hkind⟩ := content?_eq_some.mp hcontent
  exact content?_eq_some.mpr ⟨names, hnames, h names _ hkind⟩

theorem Widens.keeps {t t' : FileTree} (h : Widens t t') : Keeps t t' := by
  intro names kind hkind
  cases kind with
  | directory => exact h.extends_ names hkind
  | file content =>
      rw [← content?_map_bytes] at hkind ⊢
      rwa [h.content]

theorem exists?_of_locate {t : FileTree} {p : Path} {dir : List Name} {name : Name}
    (h : t.locate p = .ok (.entry dir name false)) :
    t.exists? p = (t.kind? (dir ++ [name])).isSome := by
  rw [exists?, node, h, kind?, Option.isSome_map]
  rcases hfind : t.find? (dir ++ [name]) with _ | old | entries <;> simp [hfind, Except.toOption]

/-- A file that is written where there is nothing takes nothing away. -/
theorem keeps_of_write {t t' : FileTree} (hroot : t.kind? [] = some .directory) {p : Path}
    {content : ByteArray} (hnone : t.exists? p = false) (h : t.write p content = .ok t') :
    Keeps t t' := by
  obtain ⟨dir, name, hlocate, -, -, hwritten⟩ := kind?_of_write hroot h
  intro names kind hkind
  rw [hwritten, if_neg]
  · exact hkind
  · rintro rfl
    rw [exists?_of_locate hlocate, hkind] at hnone
    cases hnone

/-- A file that is written can be read. -/
theorem node_of_write {t t' : FileTree} (hroot : t.kind? [] = some .directory) {p : Path}
    {content : ByteArray} (h : t.write p content = .ok t') : t'.node p = .ok (.file content) := by
  obtain ⟨hsame, hcontent, -⟩ := content?_of_write hroot h
  obtain ⟨dir, name, hlocate, -⟩ := write_eq_ok.mp h
  exact node_of_located (hsame.extends_.locate hlocate) hcontent

theorem exists?_of_write {t t' : FileTree} (hroot : t.kind? [] = some .directory) {p : Path}
    {content : ByteArray} (h : t.write p content = .ok t') : t'.exists? p = true := by
  rw [exists?, node_of_write hroot h]
  rfl

theorem readText_of_node {t : FileTree} {p : Path} {text : String}
    (h : t.node p = .ok (.file text.toUTF8)) : t.readText p = .ok text := by
  have hutf8 : String.fromUTF8? text.toUTF8 = some text := dif_pos text.isValidUTF8
  rw [readText, read, h]
  simp only [hutf8]

theorem readText_of_writeText {t t' : FileTree} (hroot : t.kind? [] = some .directory) {p : Path}
    {text : String} (h : t.writeText p text = .ok t') : t'.readText p = .ok text :=
  readText_of_node (node_of_write hroot h)

end DartTriggers.FileTree
