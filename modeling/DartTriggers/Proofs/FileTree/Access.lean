import DartTriggers.FileTree.Access
import DartTriggers.Proofs.FileTree.Kind
import DartTriggers.Proofs.FileTree.Route
/-!
Following paths. Where a path leads depends on the directories of a tree only, and more of them
never lead it elsewhere.
-/

namespace DartTriggers

open DartTriggers.Path (isIdle dot dotDot slash landFrom split IsPlain)

/-- Why no tree has anything at a path. -/
def Path.fault? (p : Path) : Option FileError :=
  if p.bytes.contains 0 then some .zeroByte
  else if p.bytes.isEmpty then some .notFound
  else if FileTree.pathLimit < p.bytes.length then some .nameTooLong
  else none

theorem Path.fault?_of_isPrefix {p q : Path} (h : q.bytes <+: p.bytes) (hq : q.bytes ≠ [])
    (hp : p.fault? = none) : q.fault? = none := by
  unfold fault? at hp ⊢
  have hlength := h.length_le
  split at hp
  · cases hp
  · split at hp
    · cases hp
    · split at hp
      · cases hp
      · rename_i hzero _ hlimit
        rw [if_neg, if_neg, if_neg]
        · omega
        · simpa using hq
        · simp only [List.contains_iff_mem] at hzero ⊢
          exact fun hmem => hzero (h.subset hmem)

namespace FileTree

/-- The directories of a tree are directories of another one. -/
def Extends (t t' : FileTree) : Prop :=
  ∀ names, t.kind? names = some .directory → t'.kind? names = some .directory

theorem Extends.refl (t : FileTree) : Extends t t :=
  fun _ h => h

theorem Extends.trans {t t' t'' : FileTree} (h : Extends t t') (h' : Extends t' t'') :
    Extends t t'' :=
  fun names hnames => h' names (h names hnames)

theorem enter_nil (t : FileTree) (here : List Name) : t.enter here [] = .ok here :=
  rfl

theorem enter_cons (t : FileTree) (here : List Name) (part : Bytes) (parts : List Bytes) :
    t.enter here (part :: parts) =
      if isIdle part then t.enter here parts
      else if part = dotDot then t.enter here.dropLast parts
      else
        match nameOf part with
        | .error e => .error e
        | .ok name =>
            match t.find? (here ++ [name]) with
            | none => .error .notFound
            | some (.file _) => .error .notDirectory
            | some (.directory _) => t.enter (here ++ [name]) parts :=
  rfl

theorem enter_cons_of_isIdle {t : FileTree} {here : List Name} {part : Bytes} {parts : List Bytes}
    (h : isIdle part = true) : t.enter here (part :: parts) = t.enter here parts := by
  rw [enter_cons, if_pos h]

theorem enter_cons_dotDot (t : FileTree) (here : List Name) (parts : List Bytes) :
    t.enter here (dotDot :: parts) = t.enter here.dropLast parts := by
  rw [enter_cons, if_neg (by decide), if_pos rfl]

theorem enter_cons_plain {t : FileTree} {here names : List Name} {part : Bytes}
    {parts : List Bytes} (hidle : isIdle part = false) (hup : part ≠ dotDot) :
    t.enter here (part :: parts) = .ok names ↔ ∃ name, Name.ofBytes? part = some name ∧
      t.kind? (here ++ [name]) = some .directory ∧ t.enter (here ++ [name]) parts = .ok names := by
  rw [enter_cons, if_neg (by simp [hidle]), if_neg hup, nameOf]
  cases hname : Name.ofBytes? part with
  | none => simp
  | some name =>
      cases hfind : t.find? (here ++ [name]) with
      | none => simp [kind?, hfind]
      | some node => cases node <;> simp [kind?, hfind, Node.kind]

theorem enter_filter (t : FileTree) (here : List Name) (parts : List Bytes) :
    t.enter here (parts.filter fun part => !isIdle part) = t.enter here parts := by
  induction parts generalizing here with
  | nil => rfl
  | cons part parts ih =>
      cases hidle : isIdle part with
      | true => rw [List.filter_cons_of_neg (by simp [hidle]), enter_cons_of_isIdle hidle, ih]
      | false =>
          rw [List.filter_cons_of_pos (by simp [hidle]), enter_cons, enter_cons]
          simp only [ih]

theorem enter_append {t : FileTree} {here names : List Name} {parts parts' : List Bytes} :
    t.enter here (parts ++ parts') = .ok names ↔
      ∃ there, t.enter here parts = .ok there ∧ t.enter there parts' = .ok names := by
  induction parts generalizing here with
  | nil => simp [enter_nil]
  | cons part parts ih =>
      cases hidle : isIdle part with
      | true => rw [List.cons_append, enter_cons_of_isIdle hidle, enter_cons_of_isIdle hidle, ih]
      | false =>
          by_cases hup : part = dotDot
          · rw [hup, List.cons_append, enter_cons_dotDot, enter_cons_dotDot, ih]
          · simp only [List.cons_append, enter_cons_plain hidle hup, ih]
            constructor
            · rintro ⟨name, hname, hkind, there, hthere, hnames⟩
              exact ⟨there, ⟨name, hname, hkind, hthere⟩, hnames⟩
            · rintro ⟨there, ⟨name, hname, hkind, hthere⟩, hnames⟩
              exact ⟨name, hname, hkind, there, hthere, hnames⟩

/-- Parts that can be followed lead to where they lead by their text. -/
theorem map_bytes_of_enter {t : FileTree} {here names : List Name} {parts : List Bytes}
    (h : t.enter here parts = .ok names) :
    names.map (·.bytes) =
      landFrom (here.map (·.bytes)) (parts.filter fun part => !isIdle part) := by
  induction parts generalizing here with
  | nil =>
      obtain rfl : here = names := by simpa [enter_nil] using h
      rfl
  | cons part parts ih =>
      cases hidle : isIdle part with
      | true =>
          rw [enter_cons_of_isIdle hidle] at h
          rw [List.filter_cons_of_neg (by simp [hidle]), ih h]
      | false =>
          rw [List.filter_cons_of_pos (by simp [hidle])]
          by_cases hup : part = dotDot
          · rw [hup, enter_cons_dotDot] at h
            rw [ih h, hup, landFrom, if_pos rfl, List.map_dropLast]
          · obtain ⟨name, hname, -, h⟩ := (enter_cons_plain hidle hup).mp h
            rw [ih h, landFrom, if_neg hup, List.map_append, List.map_singleton,
              Name.bytes_of_ofBytes? hname]

theorem map_bytes_of_enter_route {t : FileTree} {p : Path} {names : List Name}
    (h : t.enter [] p.route = .ok names) : names.map Name.bytes = p.location := by
  have hmap := map_bytes_of_enter h
  rw [p.filter_route] at hmap
  exact hmap

theorem map_bytes_concat_of_enter {t : FileTree} {p : Path} {parts : List Bytes} {dir : List Name}
    {name : Name} (hroute : p.route = parts ++ [name.bytes]) (h : t.enter [] parts = .ok dir) :
    (dir ++ [name]).map Name.bytes = p.location := by
  have hparts : (parts.filter fun part => !isIdle part) = parts :=
    List.filter_eq_self.mpr fun part hpart => List.filter_eq_self.mp p.filter_route part <| by
      rw [hroute]
      exact List.mem_append_left _ hpart
  rw [Path.location, hroute, Path.landFrom_append_plain _ _ name.isPlain, List.map_append,
    map_bytes_of_enter h, hparts]
  rfl

theorem kind?_of_enter {t : FileTree} {here names : List Name} {parts : List Bytes}
    (hhere : t.kind? here = some .directory) (h : t.enter here parts = .ok names) :
    t.kind? names = some .directory := by
  induction parts generalizing here with
  | nil =>
      obtain rfl : here = names := by simpa [enter_nil] using h
      exact hhere
  | cons part parts ih =>
      cases hidle : isIdle part with
      | true => exact ih hhere (by rwa [enter_cons_of_isIdle hidle] at h)
      | false =>
          by_cases hup : part = dotDot
          · rw [hup, enter_cons_dotDot] at h
            refine ih ?_ h
            by_cases hnil : here = []
            · rwa [hnil] at hhere ⊢
            · rw [← List.dropLast_append_getLast hnil] at hhere
              exact kind?_eq_directory_of_append (List.cons_ne_nil _ _)
                (by rw [hhere]; exact Option.some_ne_none _)
          · obtain ⟨name, -, hkind, h⟩ := (enter_cons_plain hidle hup).mp h
            exact ih hkind h

theorem Extends.enter {t t' : FileTree} (hextends : Extends t t') {here names : List Name}
    {parts : List Bytes} (h : t.enter here parts = .ok names) :
    t'.enter here parts = .ok names := by
  induction parts generalizing here with
  | nil => simpa [enter_nil] using h
  | cons part parts ih =>
      cases hidle : isIdle part with
      | true =>
          rw [enter_cons_of_isIdle hidle] at h ⊢
          exact ih h
      | false =>
          by_cases hup : part = dotDot
          · rw [hup, enter_cons_dotDot] at h ⊢
            exact ih h
          · obtain ⟨name, hname, hkind, h⟩ := (enter_cons_plain hidle hup).mp h
            exact (enter_cons_plain hidle hup).mpr ⟨name, hname, hextends _ hkind, ih h⟩

theorem locate_of_fault {p : Path} {e : FileError} (h : p.fault? = some e) (t : FileTree) :
    t.locate p = .error e := by
  have happroach : t.approach p = .error e := by
    unfold Path.fault? at h
    unfold approach
    split at h
    · rename_i hzero
      rw [if_pos hzero, Option.some.inj h]
    · rename_i hzero
      rw [if_neg hzero]
      split at h
      · rename_i hempty
        rw [if_pos hempty, Option.some.inj h]
      · rename_i hempty
        rw [if_neg hempty]
        split at h
        · rename_i hlimit
          rw [if_pos hlimit, Option.some.inj h]
        · cases h
  rw [locate, happroach]

/-- An entry of a directory, the directory still to be entered. -/
def locateEntry (t : FileTree) (parts : List Bytes) (part : Bytes) (asDirectory : Bool) :
    Except FileError Target :=
  match t.enter [] parts with
  | .error e => .error e
  | .ok dir =>
      match nameOf part with
      | .error e => .error e
      | .ok name => .ok (.entry dir name asDirectory)

theorem locateEntry_eq_ok {t : FileTree} {parts : List Bytes} {part : Bytes} {asDirectory : Bool}
    {target : Target} : t.locateEntry parts part asDirectory = .ok target ↔
      ∃ dir name, t.enter [] parts = .ok dir ∧ name.bytes = part ∧
        target = .entry dir name asDirectory := by
  unfold locateEntry nameOf
  cases t.enter [] parts with
  | error e => simp
  | ok dir =>
      cases hname : Name.ofBytes? part with
      | none =>
          have hnot : ∀ name : Name, name.bytes ≠ part := by
            rintro name rfl
            rw [Name.ofBytes?_bytes] at hname
            cases hname
          simp [hnot]
      | some name =>
          have hbytes := Name.bytes_of_ofBytes? hname
          constructor
          · intro h
            exact ⟨dir, name, rfl, hbytes, (Except.ok.inj h).symm⟩
          · rintro ⟨dir', name', hdir, hname', rfl⟩
            obtain rfl := Except.ok.inj hdir
            rw [Name.bytes_injective (hname'.trans hbytes.symm)]

theorem locate_of_fault?_eq_none {p : Path} (h : p.fault? = none) (t : FileTree) :
    t.locate p =
      match p.steps.getLast? with
      | none => .ok (.directory [])
      | some last =>
          if last = dot ∨ last = dotDot then
            match t.enter [] p.steps with
            | .error e => .error e
            | .ok names => .ok (.directory names)
          else t.locateEntry p.steps.dropLast last (endsInSlash p) := by
  unfold Path.fault? at h
  unfold locate approach locateEntry
  split_ifs at h with hzero hempty hlimit
  rw [if_neg hzero, if_neg hempty, if_neg hlimit]
  have hsteps : (Path.split p.bytes).filter (· ≠ []) = p.steps := rfl
  simp only [hsteps]
  cases p.steps.getLast? with
  | none => rfl
  | some last =>
      by_cases hdots : last = dot ∨ last = dotDot
      · simp only [if_pos hdots]
        cases t.enter [] p.steps <;> rfl
      · simp only [if_neg hdots]
        cases t.enter [] p.steps.dropLast <;> rfl

/-- What a path leads to is a directory that is entered with all of its parts, or an entry of the
directory that is entered with all but the last. -/
theorem locate_cases {p : Path} (h : p.fault? = none) :
    (∀ t : FileTree, t.locate p =
      match t.enter [] p.route with
      | .error e => .error e
      | .ok names => .ok (.directory names)) ∨
    ∃ parts part, p.route = parts ++ [part] ∧ IsPlain part ∧
      ∀ t : FileTree, t.locate p = t.locateEntry parts part (endsInSlash p) := by
  have hroute := p.filter_steps
  have hsteps : ∀ part ∈ p.steps, slash ∉ part ∧ part ≠ [] := fun _ => Path.of_mem_steps
  simp only [locate_of_fault?_eq_none h]
  generalize p.steps = steps at hroute hsteps
  rcases List.eq_nil_or_concat' steps with rfl | ⟨before, last, rfl⟩
  · left
    intro t
    rw [← hroute]
    rfl
  · have hlast : (before ++ [last]).getLast? = some last := by simp
    have hinit : (before ++ [last]).dropLast = before := by simp
    obtain ⟨hslash, hne⟩ := hsteps last (by simp)
    simp only [hlast, hinit]
    by_cases hdots : last = dot ∨ last = dotDot
    · left
      intro t
      rw [if_pos hdots, ← hroute, enter_filter]
    · right
      have hidle : isIdle last = false := by
        simp_all [isIdle]
      refine ⟨before.filter fun part => !isIdle part, last, ?_,
        ⟨hslash, hidle, fun hup => hdots (.inr hup)⟩, fun t => ?_⟩
      · rw [← hroute, List.filter_append, List.filter_cons_of_pos (by simp [hidle]),
          List.filter_nil]
      · rw [if_neg hdots, locateEntry, locateEntry, enter_filter]

theorem locate_append_plain {p : Path} {part : Bytes} (hplain : IsPlain part)
    (h : (p.append ⟨part⟩).fault? = none) (t : FileTree) :
    t.locate (p.append ⟨part⟩) = t.locateEntry p.route part false := by
  have hne : part ≠ [] := by
    rintro rfl
    exact absurd hplain.2.1 (by decide)
  have hsteps : (p.append ⟨part⟩).steps = p.steps ++ [part] := by
    rw [Path.steps, Path.filter_split_append (by decide) (Path.isAbsolute_of_isPlain hplain),
      Path.split_of_not_mem hplain.1, List.filter_cons_of_pos (by simpa using hne), List.filter_nil]
    rfl
  have hdots : ¬ (part = dot ∨ part = dotDot) := by
    rintro (rfl | rfl)
    · exact absurd hplain.2.1 (by decide)
    · exact hplain.2.2 rfl
  have hlast : endsInSlash (p.append ⟨part⟩) = false := by
    have hsuffix : ∃ before, (p.append ⟨part⟩).bytes = before ++ part := by
      rw [Path.append, if_neg (by simp [Path.isAbsolute_of_isPlain hplain])]
      split
      · exact ⟨_, rfl⟩
      · exact ⟨p.bytes ++ [slash], by simp⟩
    obtain ⟨before, hbefore⟩ := hsuffix
    rw [endsInSlash, hbefore, List.getLast?_append_of_ne_nil _ hne,
      List.getLast?_eq_some_getLast hne, beq_eq_false_iff_ne]
    intro hslash
    exact hplain.1 (Option.some.inj hslash ▸ List.getLast_mem hne)
  rw [locate_of_fault?_eq_none h, hsteps, hlast]
  have hgetLast : (p.steps ++ [part]).getLast? = some part := by simp
  have hinit : (p.steps ++ [part]).dropLast = p.steps := by simp
  simp only [hgetLast, hinit]
  rw [if_neg hdots, locateEntry, locateEntry, ← p.filter_steps, enter_filter]

theorem fault?_of_locate {t : FileTree} {p : Path} {target : Target}
    (h : t.locate p = .ok target) : p.fault? = none := by
  cases hfault : p.fault? with
  | none => rfl
  | some e =>
      rw [locate_of_fault hfault t] at h
      cases h

theorem enter_of_locate_directory {t : FileTree} {p : Path} {names : List Name}
    (h : t.locate p = .ok (.directory names)) : t.enter [] p.route = .ok names := by
  rcases locate_cases (fault?_of_locate h) with hlocate | ⟨parts, part, -, -, hlocate⟩
  · rw [hlocate t] at h
    cases henter : t.enter [] p.route with
    | error e =>
        rw [henter] at h
        cases h
    | ok names' =>
        rw [henter] at h
        cases h
        rfl
  · rw [hlocate t] at h
    obtain ⟨_, _, -, -, htarget⟩ := locateEntry_eq_ok.mp h
    cases htarget

theorem enter_of_locate_entry {t : FileTree} {p : Path} {dir : List Name} {name : Name}
    {asDirectory : Bool} (h : t.locate p = .ok (.entry dir name asDirectory)) :
    ∃ parts, p.route = parts ++ [name.bytes] ∧ t.enter [] parts = .ok dir := by
  rcases locate_cases (fault?_of_locate h) with hlocate | ⟨parts, part, hroute, -, hlocate⟩
  · rw [hlocate t] at h
    cases henter : t.enter [] p.route with
    | error e =>
        rw [henter] at h
        cases h
    | ok names =>
        rw [henter] at h
        cases h
  · rw [hlocate t] at h
    obtain ⟨dir', name', hdir, rfl, htarget⟩ := locateEntry_eq_ok.mp h
    cases htarget
    exact ⟨parts, hroute, hdir⟩

theorem Extends.locate {t t' : FileTree} (hextends : Extends t t') {p : Path} {target : Target}
    (h : t.locate p = .ok target) : t'.locate p = .ok target := by
  rcases locate_cases (fault?_of_locate h) with hlocate | ⟨parts, part, -, -, hlocate⟩
  · rw [hlocate t] at h
    rw [hlocate t']
    cases henter : t.enter [] p.route with
    | error e =>
        rw [henter] at h
        cases h
    | ok names =>
        rw [henter] at h
        rw [hextends.enter henter]
        exact h
  · rw [hlocate t, locateEntry_eq_ok] at h
    rw [hlocate t', locateEntry_eq_ok]
    obtain ⟨dir, name, hdir, hname, htarget⟩ := h
    exact ⟨dir, name, hextends.enter hdir, hname, htarget⟩

theorem enter_concat {t : FileTree} {dir : List Name} {parts : List Bytes} {name : Name}
    (hdir : t.enter [] parts = .ok dir)
    (hkind : t.kind? (dir ++ [name]) = some .directory) :
    t.enter [] (parts ++ [name.bytes]) = .ok (dir ++ [name]) := by
  refine enter_append.mpr ⟨dir, hdir, ?_⟩
  exact (enter_cons_plain name.isPlain.2.1 name.isPlain.2.2).mpr
    ⟨name, name.ofBytes?_bytes, hkind, rfl⟩

theorem node_eq_directory {t : FileTree} {p : Path} {entries : List (Name × Node)}
    (h : t.node p = .ok (.directory entries)) : p.fault? = none ∧
      ∃ names, t.enter [] p.route = .ok names ∧ t.find? names = some (.directory entries) := by
  unfold node at h
  split at h
  · cases h
  · rename_i names hlocate
    refine ⟨fault?_of_locate hlocate, names, enter_of_locate_directory hlocate, ?_⟩
    split at h
    · cases h
    · rename_i found hfind
      cases h
      exact hfind
  · rename_i dir name asDirectory hlocate
    obtain ⟨parts, hroute, hdir⟩ := enter_of_locate_entry hlocate
    split at h
    · cases h
    · split at h <;> cases h
    · rename_i found hfind
      cases h
      refine ⟨fault?_of_locate hlocate, dir ++ [name], ?_, hfind⟩
      rw [hroute]
      exact enter_concat hdir (kind?_eq_directory.mpr ⟨_, hfind⟩)

theorem isDirectory_iff {t : FileTree} (hroot : t.kind? [] = some .directory) {p : Path} :
    t.isDirectory p = true ↔ p.fault? = none ∧ ∃ names, t.enter [] p.route = .ok names := by
  unfold isDirectory
  constructor
  · intro h
    split at h
    · rename_i entries hnode
      obtain ⟨hfault, names, henter, -⟩ := node_eq_directory hnode
      exact ⟨hfault, names, henter⟩
    · cases h
  · rintro ⟨hfault, names, henter⟩
    have hnode : ∃ entries, t.node p = .ok (.directory entries) := by
      obtain ⟨entries, hfind⟩ := kind?_eq_directory.mp (kind?_of_enter hroot henter)
      refine ⟨entries, ?_⟩
      unfold node
      rcases locate_cases hfault with hlocate | ⟨parts, part, hroute, hplain, hlocate⟩
      · rw [hlocate t, henter]
        simp only [hfind]
      · rw [hroute] at henter
        obtain ⟨dir, hdir, hlast⟩ := enter_append.mp henter
        obtain ⟨name, hname, -, hnames⟩ := (enter_cons_plain hplain.2.1 hplain.2.2).mp hlast
        obtain rfl : dir ++ [name] = names := by simpa [enter_nil] using hnames
        have hentry : t.locate p = .ok (.entry dir name (endsInSlash p)) := by
          rw [hlocate t, locateEntry_eq_ok]
          exact ⟨dir, name, hdir, Name.bytes_of_ofBytes? hname, rfl⟩
        rw [hentry]
        simp only [hfind]
    obtain ⟨entries, hnode⟩ := hnode
    rw [hnode]

theorem node_eq_file {t : FileTree} (hroot : t.kind? [] = some .directory) {p : Path}
    {content : ByteArray} : t.node p = .ok (.file content) ↔ ∃ dir name,
      t.locate p = .ok (.entry dir name false) ∧
        t.kind? (dir ++ [name]) = some (.file content) := by
  simp only [kind?_eq_file]
  unfold node
  constructor
  · intro h
    split at h
    · cases h
    · rename_i names hlocate
      have hkind := kind?_of_enter hroot (enter_of_locate_directory hlocate)
      obtain ⟨entries, hfind⟩ := kind?_eq_directory.mp hkind
      rw [hfind] at h
      cases h
    · rename_i dir name asDirectory hlocate
      split at h
      · cases h
      · rename_i found hfind
        cases asDirectory with
        | true => cases h
        | false =>
            cases h
            exact ⟨dir, name, hlocate, hfind⟩
      · cases h
  · rintro ⟨dir, name, hlocate, hfind⟩
    rw [hlocate]
    simp only [hfind]
    rfl

end FileTree

end DartTriggers
