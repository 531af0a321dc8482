import DartTriggers.WriteUnit
import DartTriggers.Proofs.FileTree.Kept
import DartTriggers.Proofs.Log.Outputs
/-!
Writing a unit. Either nothing is done at all, or the source stands in its file before the formatter
is run on that file, once; what the formatter does then has no bearing on the answer.
-/

namespace DartTriggers

namespace FileTree

/-- A file that has been written may be written again without any change. -/
theorem write_again {t t' : FileTree} (hroot : t.kind? [] = some .directory) {p : Path}
    {content : ByteArray} (h : t.write p content = .ok t') : t'.write p content = .ok t' := by
  have hsame : SameDirectories t t' := (content?_of_write hroot h).1
  have hroot' : t'.kind? [] = some .directory := hsame.extends_ [] hroot
  obtain ⟨dir, name, hlocate, -, -, hkind⟩ := kind?_of_write hroot h
  obtain ⟨t'', hagain⟩ := hsame.write ⟨t', h⟩ content
  obtain ⟨dir', name', hlocate', -, -, hkind'⟩ := kind?_of_write hroot' hagain
  -- Both times the path leads to one entry, which has the content already.
  rw [hsame.extends_.locate hlocate] at hlocate'
  cases hlocate'
  have heq : t'' = t' := by
    apply ext_kind?
    intro names
    rw [hkind', hkind]
    split <;> rfl
  rw [hagain, heq]

end FileTree

variable {tree written : FileTree} (options : Options) (unit : UnitName) (dir : Path)
  (r : Registry)

/-- What is shown of a unit before the formatter is run on its file. -/
def shownBeforeFormatter : Transcript :=
  Transcript.ofEvents (Dart.compilationEvents options.variant r) ++
    [.event (.wroteUnit unit.text r.entities.length (unitFile options unit dir)),
      .formatting (unitFile options unit dir)]

theorem formatted_shownBeforeFormatter :
    (shownBeforeFormatter options unit dir r).formatted = [unitFile options unit dir] := by
  rw [shownBeforeFormatter, Transcript.formatted_append, Transcript.formatted_ofEvents]
  rfl

theorem writeUnit_of_error {e : FileError}
    (h : tree.writeText (unitFile options unit dir) (Dart.generateUnit options unit r) = .error e)
    (formatter : Formatter) : writeUnit tree formatter options unit dir r =
      ⟨tree, Transcript.ofEvents (Dart.compilationEvents options.variant r), .error (.file e)⟩ := by
  simp only [writeUnit, h]

theorem writeUnit_of_ok
    (h : tree.writeText (unitFile options unit dir) (Dart.generateUnit options unit r) =
      .ok written) (formatter : Formatter) : writeUnit tree formatter options unit dir r =
      ⟨(formatter (unitFile options unit dir) written).tree,
        shownBeforeFormatter options unit dir r ++
          (formatter (unitFile options unit dir) written).transcript,
        .ok (unitFile options unit dir)⟩ := by
  simp only [writeUnit, h, shownBeforeFormatter]

theorem writeUnit_again (hroot : tree.kind? [] = some .directory) :
    writeUnit (writeUnit tree .none options unit dir r).tree .none options unit dir r =
      writeUnit tree .none options unit dir r := by
  cases hwrite : tree.writeText (unitFile options unit dir) (Dart.generateUnit options unit r) with
  | error e => rw [writeUnit_of_error options unit dir r hwrite, writeUnit_of_error _ _ _ _ hwrite]
  | ok written =>
      have hagain : written.writeText (unitFile options unit dir)
          (Dart.generateUnit options unit r) = .ok written := FileTree.write_again hroot hwrite
      rw [writeUnit_of_ok options unit dir r hwrite]
      exact writeUnit_of_ok options unit dir r hagain .none

/-- Either nothing is done, or the unit is written whole and then handed to the formatter, once: the
tree that the formatter finds and what is shown before do not depend on it, nor does the answer. -/
theorem writeUnit_allOrNothing (hroot : tree.kind? [] = some .directory) :
    let file := dir.appendString (unit.text ++ ".g." ++ options.extension)
    let source := (Dart.generateUnit options unit r).toUTF8
    let attempt (formatter : Formatter) := writeUnit tree formatter options unit dir r
    ((∃ (e : FileError) (shown : Transcript), shown.formatted = [] ∧
        ∀ formatter, attempt formatter = ⟨tree, shown, .error (.file e)⟩) ∨
      ∃ (written : FileTree) (shown : Transcript), written.read file = .ok source ∧
        written.content? file.location = some source ∧ tree.SameDirectories written ∧
        (∀ location ≠ file.location, written.content? location = tree.content? location) ∧
        shown.formatted = [file] ∧ ∀ formatter, attempt formatter =
          ⟨(formatter file written).tree, shown ++ (formatter file written).transcript,
            .ok file⟩) ∧
    (∀ formatter formatter', (attempt formatter).result = (attempt formatter').result) ∧
    writeUnit (attempt .none).tree .none options unit dir r = attempt .none := by
  intro file source attempt
  cases hwrite : tree.writeText (unitFile options unit dir) (Dart.generateUnit options unit r) with
  | error e =>
      have hattempt := writeUnit_of_error options unit dir r hwrite
      refine ⟨.inl ⟨e, _, Transcript.formatted_ofEvents _, hattempt⟩, ?_,
        writeUnit_again options unit dir r hroot⟩
      intro formatter formatter'
      exact congrArg Attempt.result ((hattempt formatter).trans (hattempt formatter').symm)
  | ok written =>
      have hattempt := writeUnit_of_ok options unit dir r hwrite
      obtain ⟨hsame, hcontent, hothers⟩ := FileTree.content?_of_write hroot hwrite
      have hread : written.read file = .ok source := by
        have hnode : written.node file = .ok (.file source) := FileTree.node_of_write hroot hwrite
        rw [FileTree.read, hnode]
      refine ⟨.inr ⟨written, _, hread, hcontent, hsame, hothers,
        formatted_shownBeforeFormatter options unit dir r, hattempt⟩, ?_,
        writeUnit_again options unit dir r hroot⟩
      intro formatter formatter'
      have hresult (f : Formatter) : (attempt f).result = .ok file :=
        congrArg Attempt.result (hattempt f)
      rw [hresult, hresult]

theorem writeUnit_allOrNothing_absolute :
    FileTree.empty.kind? [] = some .directory ∧
      ∃ written : FileTree, written.content? [Bytes.ofString "m.g.dart"] =
          some (Dart.generateUnit {} ⟨"/m"⟩ ⟨[]⟩).toUTF8 ∧
        ∀ formatter : Formatter,
          (writeUnit .empty formatter {} ⟨"/m"⟩ (Path.ofString "lib") ⟨[]⟩).tree =
            (formatter (Path.ofString "/m.g.dart") written).tree := by
  have hroot : FileTree.empty.kind? [] = some .directory := rfl
  refine ⟨hroot, ?_⟩
  obtain ⟨⟨e, shown, -, hfailed⟩ | ⟨written, shown, -, hcontent, -, -, -, hwritten⟩, -⟩ :=
    writeUnit_allOrNothing {} ⟨"/m"⟩ (Path.ofString "lib") ⟨[]⟩ hroot
  · have hok : (writeUnit .empty .none {} ⟨"/m"⟩ (Path.ofString "lib") ⟨[]⟩).result.toOption.isSome =
        true := by
      decide +kernel
    rw [congrArg Attempt.result (hfailed .none)] at hok
    cases hok
  · refine ⟨written, hcontent, ?_⟩
    intro formatter
    exact congrArg Attempt.tree (hwritten formatter)

end DartTriggers
