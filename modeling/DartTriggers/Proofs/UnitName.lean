import Mathlib.Data.List.Basic
import DartTriggers.Proofs.FileTree.Route
import DartTriggers.Descriptor.Files
/-!
Names of units and of generated files. A generated file is never the file that its unit is named
after, a descriptor or a configuration file.
-/

namespace DartTriggers

namespace Bytes

theorem ofString_append (s t : String) : ofString (s ++ t) = ofString s ++ ofString t := by
  simp [ofString, String.toByteArray_append]

theorem ofString_injective : Function.Injective ofString := by
  intro s t h
  simpa [ofString, ByteArray.ext_iff, ← String.toByteArray_inj] using h

theorem ofString_of_text? {b : Bytes} {s : String} (h : b.text? = some s) : ofString s = b := by
  unfold text? String.fromUTF8? at h
  split at h
  · obtain rfl := Option.some.inj h
    rfl
  · cases h

theorem text?_ofString (s : String) : (ofString s).text? = some s := by
  have hbytes : (⟨(ofString s).toArray⟩ : ByteArray) = s.toByteArray := by
    simp [ofString]
  rw [text?, hbytes]
  exact dif_pos s.isValidUTF8

theorem slash_mem_ofString {s : String} (h : '/' ∈ s.toList) : Path.slash ∈ ofString s := by
  obtain ⟨before, after, hsplit⟩ := List.append_of_mem h
  have hs : s = String.ofList before ++ ("/" ++ String.ofList after) := by
    rw [← String.toList_inj, hsplit]
    simp
  have hslash : ofString "/" = [Path.slash] := by decide
  rw [hs, ofString_append, ofString_append, hslash]
  exact List.mem_append_right _ List.mem_cons_self

end Bytes

namespace UnitName

theorem dropSuffix?_eq_some {suffix name stem : List Char} :
    dropSuffix? suffix name = some stem ↔ name = stem ++ suffix := by
  unfold dropSuffix?
  constructor
  · intro h
    split at h
    · rename_i hsuffix
      obtain ⟨before, rfl⟩ := List.isSuffixOf_iff_suffix.mp hsuffix
      simpa using h
    · cases h
  · rintro rfl
    rw [if_pos (List.isSuffixOf_iff_suffix.mpr (List.suffix_append _ _))]
    simp

theorem dropExtension_append (name : List Char) {extension : List Char} (hname : name ≠ [])
    (h : '.' ∉ extension) : dropExtension (name ++ '.' :: extension) = name := by
  have hdrop : (name ++ '.' :: extension).reverse.dropWhile (· ≠ '.') = '.' :: name.reverse := by
    have hextension : ∀ c ∈ extension.reverse, decide (c ≠ '.') = true := by
      intro c hc
      simp only [decide_eq_true_eq]
      rintro rfl
      exact h (List.mem_reverse.mp hc)
    rw [List.reverse_append, List.reverse_cons, List.append_assoc,
      List.dropWhile_append_of_pos hextension]
    rfl
  rw [dropExtension, hdrop]
  simp [hname]

theorem dropExtension_of_not_mem {name : List Char} (h : '.' ∉ name.tail) :
    dropExtension name = name := by
  cases name with
  | nil => rfl
  | cons c rest =>
      have hrest : ∀ d ∈ rest.reverse, decide (d ≠ '.') = true := by
        intro d hd
        rw [decide_eq_true_eq]
        rintro rfl
        exact h (List.mem_reverse.mp hd)
      rw [dropExtension, List.reverse_cons, List.dropWhile_append_of_pos hrest]
      by_cases hc : c = '.'
      · simp [hc]
      · simp [hc]

/-- The dot in question is the last one, and not the first character. -/
theorem exists_extension {name : List Char} (h : '.' ∈ name.tail) :
    ∃ extension, name = dropExtension name ++ '.' :: extension ∧ '.' ∉ extension := by
  cases name with
  | nil => exact absurd h List.not_mem_nil
  | cons c rest =>
      have hmem : '.' ∈ rest.reverse := List.mem_reverse.mpr h
      obtain ⟨after, before, hsplit, hafter⟩ := List.eq_append_cons_of_mem hmem
      have hrest : rest = before.reverse ++ '.' :: after.reverse := by
        rw [← List.reverse_reverse rest, hsplit]
        simp
      have hextension : '.' ∉ after.reverse := mt List.mem_reverse.mp hafter
      have hdrop : dropExtension (c :: rest) = c :: before.reverse := by
        rw [hrest, ← List.cons_append]
        exact dropExtension_append _ (List.cons_ne_nil _ _) hextension
      refine ⟨after.reverse, ?_, hextension⟩
      rw [hdrop, hrest, List.cons_append]

theorem toList_stem (name : String) : (stem name).toList =
    (dropSuffix? descriptorSuffix.toList name.toList).getD (dropExtension name.toList) :=
  String.toList_ofList

theorem stem_append_descriptorSuffix (name : String) : stem (name ++ descriptorSuffix) = name := by
  have h : dropSuffix? descriptorSuffix.toList (name ++ descriptorSuffix).toList =
      some name.toList := by
    rw [dropSuffix?_eq_some, String.toList_append]
  rw [← String.toList_inj, toList_stem, h, Option.getD_some]

theorem toList_stem_of_not_suffix {name : String}
    (h : ¬ descriptorSuffix.toList <:+ name.toList) :
    (stem name).toList = dropExtension name.toList := by
  rw [toList_stem, dropSuffix?, if_neg (mt List.isSuffixOf_iff_suffix.mp h)]
  rfl

/-- The end of a file name that is not in the name of its unit: the suffix of descriptors or,
failing that, all from the last dot on, if there is a dot after the first character. -/
def IsEnding (name ending : String) : Prop :=
  if descriptorSuffix.toList <:+ name.toList then ending = descriptorSuffix
  else if '.' ∈ name.toList.tail then
    ∃ before extension : String, name = before ++ "." ++ extension ∧ '.' ∉ extension.toList ∧
      ending = "." ++ extension
  else ending = ""

theorem exists_ending (name : String) : ∃ ending, name = stem name ++ ending ∧
    IsEnding name ending := by
  unfold IsEnding
  split
  · next hsuffix =>
      obtain ⟨before, hbefore⟩ := hsuffix
      have hname : name = String.ofList before ++ descriptorSuffix := by
        rw [← String.toList_inj, String.toList_append, String.toList_ofList, hbefore]
      refine ⟨descriptorSuffix, ?_, rfl⟩
      rw [hname, stem_append_descriptorSuffix]
  · next hsuffix =>
      have hstem := toList_stem_of_not_suffix hsuffix
      split
      · next hdot =>
          obtain ⟨extension, hname, hextension⟩ := exists_extension hdot
          have hcut : name = stem name ++ "." ++ String.ofList extension := by
            rw [← String.toList_inj, String.toList_append, String.toList_append, hstem,
              List.append_assoc, String.toList_ofList, String.toList_ofList]
            exact hname
          refine ⟨"." ++ String.ofList extension, ?_, stem name, String.ofList extension, hcut, ?_,
            rfl⟩
          · rw [← String.append_assoc]
            exact hcut
          · rwa [String.toList_ofList]
      · next hdot =>
          refine ⟨"", ?_, rfl⟩
          rw [String.append_empty, ← String.toList_inj, hstem, dropExtension_of_not_mem hdot]

theorem eq_stem_append {name : String} (h : descriptorSuffix.toList <:+ name.toList) :
    name = stem name ++ descriptorSuffix := by
  obtain ⟨ending, hname, hending⟩ := exists_ending name
  rw [IsEnding, if_pos h] at hending
  rwa [hending] at hname

/-- No extension makes a generated file end as the name of its unit's file does. -/
theorem generatedFile_ne_of_isEnding {u : UnitName} {name ending : String}
    (hname : name = u.text ++ ending) (h : IsEnding name ending) (extension : String) :
    u.generatedFile extension ≠ name := by
  intro heq
  have hending : ending.toList = ['.', 'g', '.'] ++ extension.toList := by
    rw [hname, generatedFile, ← String.toList_inj] at heq
    simpa using heq.symm
  unfold IsEnding at h
  split at h
  · -- The suffix of descriptors goes on with another letter after its first dot.
    rw [h] at hending
    have hsecond := congrArg (fun chars => chars[1]?) hending
    revert hsecond
    simp [descriptorSuffix]
  · split at h
    · obtain ⟨before, last, -, hlast, rfl⟩ := h
      have htail : last.toList = ['g', '.'] ++ extension.toList := by
        simpa using hending
      rw [htail] at hlast
      simp at hlast
    · rw [h] at hending
      simp at hending

theorem getLast?_generatedFile (u : UnitName) :
    (u.generatedFile "dart").toList.getLast? = some 't' := by
  have hlast : "dart".toList.getLast? = some 't' := by decide
  rw [generatedFile, String.toList_append, List.getLast?_append, hlast]
  rfl

/-- The unit that would be named after a generated file is another one. -/
theorem stem_generatedFile_ne (u : UnitName) (extension : String) :
    stem (u.generatedFile extension) ≠ u.text := by
  intro h
  obtain ⟨ending, hname, hending⟩ := exists_ending (u.generatedFile extension)
  rw [h] at hname
  exact generatedFile_ne_of_isEnding hname hending extension rfl

theorem ofPath?_eq_some {p : Path} {u : UnitName} (h : ofPath? p = some u) :
    ∃ name, p.fileName? = some (Bytes.ofString name) ∧ stem name = u.text := by
  unfold ofPath? at h
  split at h
  · cases h
  · rename_i name hname
    split at h
    · cases h
    · obtain ⟨bytes, hbytes, htext⟩ := Option.bind_eq_some_iff.mp hname
      obtain rfl := Option.some.inj h
      exact ⟨name, by rw [hbytes, Bytes.ofString_of_text? htext], rfl⟩

theorem stem_of_ofPath? {p : Path} {u : UnitName} {name : String} (h : ofPath? p = some u)
    (hname : p.fileName? = some (Bytes.ofString name)) : stem name = u.text := by
  obtain ⟨name', hname', hstem⟩ := ofPath?_eq_some h
  rw [hname] at hname'
  rwa [Bytes.ofString_injective (Option.some.inj hname')]

theorem ne_empty_of_fileName? {p : Path} {name : String}
    (h : p.fileName? = some (Bytes.ofString name)) : name ≠ "" := by
  rintro rfl
  exact Path.ne_nil_of_fileName? h rfl

theorem slash_not_mem_of_ofPath? {p : Path} {u : UnitName} (h : ofPath? p = some u) :
    Path.slash ∉ Bytes.ofString u.text := by
  obtain ⟨name, hname, hstem⟩ := ofPath?_eq_some h
  have hslash : Path.slash ∉ Bytes.ofString name := by
    have hmem := List.mem_of_getLast? (Path.fileName?_eq_some_iff.mp hname).1
    exact Path.slash_not_mem_of_mem_split (List.mem_of_mem_filter hmem)
  obtain ⟨ending, hsplit, -⟩ := exists_ending name
  rw [hsplit, hstem, Bytes.ofString_append] at hslash
  exact fun hmem => hslash (List.mem_append_left _ hmem)

theorem isPlain_generatedFile {p : Path} {u : UnitName} (h : ofPath? p = some u) :
    Path.IsPlain (Bytes.ofString (u.generatedFile "dart")) := by
  have htext : Path.slash ∉ Bytes.ofString u.text := slash_not_mem_of_ofPath? h
  have hbytes : Bytes.ofString (u.generatedFile "dart") =
      Bytes.ofString u.text ++ Bytes.ofString ".g.dart" := by
    rw [← Bytes.ofString_append]
    congr 1
    simp [generatedFile, String.append_assoc]
  have hsuffix : Path.slash ∉ Bytes.ofString ".g.dart" := by decide
  have hlength : (Bytes.ofString ".g.dart").length = 7 := by decide
  have hlong : ∀ part : Bytes, part.length ≤ 2 →
      Bytes.ofString (u.generatedFile "dart") ≠ part := by
    rintro part hpart rfl
    rw [hbytes, List.length_append, hlength] at hpart
    omega
  refine ⟨?_, ?_, hlong _ (by decide)⟩
  · rw [hbytes, List.mem_append, not_or]
    exact ⟨htext, hsuffix⟩
  · have hempty := hlong [] (by decide)
    have hdot := hlong Path.dot (by decide)
    simp [Path.isIdle, hempty, hdot]

/-- A generated file is not named like the file that its unit is named after. -/
theorem generatedFile_ne_fileName {p : Path} {u : UnitName} (h : ofPath? p = some u)
    (extension : String) : p.fileName? ≠ some (Bytes.ofString (u.generatedFile extension)) := by
  intro hname
  exact stem_generatedFile_ne u extension (stem_of_ofPath? h hname)

theorem generatedFile_injective : Function.Injective (UnitName.generatedFile · "dart") := by
  rintro ⟨a⟩ ⟨b⟩ h
  simpa [generatedFile] using h

theorem generatedFile_ne_of_getLast? (u : UnitName) {name : String}
    (h : name.toList.getLast? ≠ some 't') :
    Bytes.ofString (u.generatedFile "dart") ≠ Bytes.ofString name := by
  intro heq
  rw [← Bytes.ofString_injective heq] at h
  exact h u.getLast?_generatedFile

theorem stem_eq_empty_iff {name : String} (hname : name ≠ "") :
    stem name = "" ↔ name = descriptorSuffix := by
  constructor
  · intro hstem
    obtain ⟨ending, hsplit, hending⟩ := exists_ending name
    rw [hstem, String.empty_append] at hsplit
    subst hsplit
    unfold IsEnding at hending
    split at hending
    · exact hending
    · split at hending
      · next hdot =>
          obtain ⟨before, extension, -, hextension, rfl⟩ := hending
          exact absurd (by simpa using hdot) hextension
      · exact absurd hending hname
  · rintro rfl
    exact stem_append_descriptorSuffix ""

theorem ofPath?_eq_none_iff {p : Path} :
    ofPath? p = none ↔ p.fileName? = none ∨
      (∃ bytes, p.fileName? = some bytes ∧ bytes.text? = none) ∨
        p.fileName? = some (Bytes.ofString descriptorSuffix) := by
  unfold ofPath?
  cases hbytes : p.fileName? with
  | none => simp
  | some bytes =>
      cases htext : bytes.text? with
      | none => simp [htext]
      | some name =>
          obtain rfl := Bytes.ofString_of_text? htext
          have hsuffix : Bytes.ofString name = Bytes.ofString descriptorSuffix ↔
              stem name = "" := by
            rw [stem_eq_empty_iff (ne_empty_of_fileName? hbytes), Bytes.ofString_injective.eq_iff]
          simp [htext, hsuffix]

/-- A path names a unit unless it ends in no name, in one that is no text or in the bare suffix of
descriptors. The name of the unit is that of the file up to its ending, so that no generated file
is the file itself and descriptors of one unit have one name. -/
theorem fileName_cut (p : Path) :
    (ofPath? p = none ↔ (∀ part, p.components.getLast? ≠ some (.name part)) ∨
      (∃ bytes, p.fileName? = some bytes ∧ bytes.text? = none) ∨
        p.fileName? = some (Bytes.ofString descriptorSuffix)) ∧
    (∀ u, ofPath? p = some u → ∃ name ending, p.fileName? = some (Bytes.ofString name) ∧
      name = u.text ++ ending ∧ IsEnding name ending ∧ u.text ≠ "" ∧ '/' ∉ u.text.toList ∧
        ∀ extension, u.generatedFile extension ≠ name) ∧
    ∀ (q : Path) (u : UnitName) (name name' : String), ofPath? p = some u → ofPath? q = some u →
      p.fileName? = some (Bytes.ofString name) → q.fileName? = some (Bytes.ofString name') →
        descriptorSuffix.toList <:+ name.toList → descriptorSuffix.toList <:+ name'.toList →
          name = name' := by
  refine ⟨?_, ?_, ?_⟩
  · rw [ofPath?_eq_none_iff, Path.fileName?_eq_none_iff]
  · intro u hu
    obtain ⟨name, hname, hstem⟩ := ofPath?_eq_some hu
    obtain ⟨ending, hsplit, hending⟩ := exists_ending name
    refine ⟨name, ending, hname, hstem ▸ hsplit, hending, ?_, ?_, ?_⟩
    · intro hempty
      rw [← hstem, stem_eq_empty_iff (ne_empty_of_fileName? hname)] at hempty
      rw [hempty] at hname
      have hnone : ofPath? p = none := ofPath?_eq_none_iff.mpr (.inr (.inr hname))
      rw [hu] at hnone
      cases hnone
    · intro hslash
      exact slash_not_mem_of_ofPath? hu (Bytes.slash_mem_ofString hslash)
    · exact generatedFile_ne_of_isEnding (hstem ▸ hsplit) hending
  · intro q u name name' hp hq hname hname' hsuffix hsuffix'
    calc name = stem name ++ descriptorSuffix := eq_stem_append hsuffix
      _ = u.text ++ descriptorSuffix := by rw [stem_of_ofPath? hp hname]
      _ = stem name' ++ descriptorSuffix := by rw [stem_of_ofPath? hq hname']
      _ = name' := (eq_stem_append hsuffix').symm

theorem fileName_cut_nested :
    let p := Path.ofString "lib/./a.b.trigger.json//"
    let q := Path.ofString "../a.b.trigger.json/."
    ofPath? p = some ⟨"a.b"⟩ ∧ ofPath? q = some ⟨"a.b"⟩ ∧
      p.fileName? = some (Bytes.ofString "a.b.trigger.json") ∧
      (∃ name ending, p.fileName? = some (Bytes.ofString name) ∧ name = "a.b" ++ ending ∧
        IsEnding name ending ∧ "a.b" ≠ "" ∧ '/' ∉ "a.b".toList ∧
          ∀ extension, generatedFile ⟨"a.b"⟩ extension ≠ name) ∧
      ∀ name, q.fileName? = some (Bytes.ofString name) → descriptorSuffix.toList <:+ name.toList →
        "a.b.trigger.json" = name := by
  intro p q
  have hp : ofPath? p = some ⟨"a.b"⟩ := by decide +kernel
  have hq : ofPath? q = some ⟨"a.b"⟩ := by decide +kernel
  have hname : p.fileName? = some (Bytes.ofString "a.b.trigger.json") := by decide +kernel
  have hsuffix : descriptorSuffix.toList <:+ "a.b.trigger.json".toList := by decide
  obtain ⟨-, hsome, hunique⟩ := fileName_cut p
  refine ⟨hp, hq, hname, hsome _ hp, ?_⟩
  intro name hname' hsuffix'
  exact hunique q _ _ name hp hq hname hname' hsuffix hsuffix'

end UnitName

theorem isDescriptorName_iff {fileName : Bytes} : isDescriptorName fileName = true ↔
    ∃ stem, fileName = Bytes.ofString (stem ++ descriptorSuffix) := by
  unfold isDescriptorName
  constructor
  · intro h
    split at h
    · cases h
    · rename_i name htext
      obtain ⟨before, hbefore⟩ := List.isSuffixOf_iff_suffix.mp h
      refine ⟨String.ofList before, ?_⟩
      rw [← Bytes.ofString_of_text? htext]
      congr 1
      rw [← String.toList_inj, String.toList_append, String.toList_ofList, hbefore]
  · rintro ⟨stem, rfl⟩
    simp only [Bytes.text?_ofString, String.toList_append]
    exact List.isSuffixOf_iff_suffix.mpr (List.suffix_append _ _)

theorem exists_of_isDescriptorPath {p : Path} (h : isDescriptorPath p = true) :
    ∃ name, p.fileName? = some (Bytes.ofString (name ++ descriptorSuffix)) := by
  unfold isDescriptorPath at h
  split at h
  · cases h
  · rename_i fileName hname
    obtain ⟨stem, rfl⟩ := isDescriptorName_iff.mp h
    exact ⟨stem, hname⟩

end DartTriggers
