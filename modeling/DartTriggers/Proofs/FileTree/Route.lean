import Mathlib.Data.List.DropRight
import DartTriggers.FileTree.Node
/-!
Where paths lead. Without symbolic links it is known from the text of a path: empty parts and
single dots are left out, and `..` takes the part before it away.
-/

namespace DartTriggers.Path

theorem split_nil : split [] = [[]] :=
  rfl

theorem split_cons (c : UInt8) (b : Bytes) :
    split (c :: b) =
      if c = slash then [] :: split b
      else
        match split b with
        | [] => [[c]]
        | part :: parts => (c :: part) :: parts :=
  rfl

theorem split_ne_nil (b : Bytes) : split b ≠ [] := by
  cases b with
  | nil => exact List.cons_ne_nil _ _
  | cons c b =>
      rw [split_cons]
      split
      · exact List.cons_ne_nil _ _
      · split <;> exact List.cons_ne_nil _ _

theorem split_cons_of_ne {c : UInt8} (hc : c ≠ slash) {b part : Bytes} {parts : List Bytes}
    (h : split b = part :: parts) : split (c :: b) = (c :: part) :: parts := by
  rw [split_cons, if_neg hc, h]

theorem split_append_slash (a b : Bytes) : split (a ++ slash :: b) = split a ++ split b := by
  induction a with
  | nil => simp [split_nil, split_cons]
  | cons c a ih =>
      by_cases hc : c = slash
      · simp [split_cons, hc, ih]
      · obtain ⟨part, parts, hsplit⟩ := List.exists_cons_of_ne_nil (split_ne_nil a)
        rw [hsplit] at ih
        rw [List.cons_append, split_cons_of_ne hc hsplit, split_cons_of_ne hc ih]
        rfl

theorem split_of_not_mem {b : Bytes} (h : slash ∉ b) : split b = [b] := by
  induction b with
  | nil => rfl
  | cons c b ih =>
      rw [List.mem_cons, not_or] at h
      exact split_cons_of_ne (Ne.symm h.1) (ih h.2)

theorem slash_not_mem_of_mem_split {b part : Bytes} (h : part ∈ split b) : slash ∉ part := by
  induction b generalizing part with
  | nil => simp_all [split_nil]
  | cons c b ih =>
      by_cases hc : c = slash
      · rw [split_cons, if_pos hc] at h
        rcases List.mem_cons.mp h with rfl | h
        · exact List.not_mem_nil
        · exact ih h
      · obtain ⟨first, parts, hsplit⟩ := List.exists_cons_of_ne_nil (split_ne_nil b)
        rw [split_cons_of_ne hc hsplit] at h
        rw [hsplit] at ih
        rcases List.mem_cons.mp h with rfl | h
        · rw [List.mem_cons, not_or]
          exact ⟨Ne.symm hc, ih List.mem_cons_self⟩
        · exact ih (List.mem_cons_of_mem _ h)

theorem join_cons_of_ne_nil (part : Bytes) {parts : List Bytes} (h : parts ≠ []) :
    join (part :: parts) = part ++ slash :: join parts := by
  cases parts with
  | nil => exact absurd rfl h
  | cons second parts => rfl

theorem join_split (b : Bytes) : join (split b) = b := by
  induction b with
  | nil => rfl
  | cons c b ih =>
      by_cases hc : c = slash
      · rw [split_cons, if_pos hc, join_cons_of_ne_nil _ (split_ne_nil b), ih, hc]
        rfl
      · obtain ⟨first, parts, hsplit⟩ := List.exists_cons_of_ne_nil (split_ne_nil b)
        rw [split_cons_of_ne hc hsplit]
        rw [hsplit] at ih
        cases parts with
        | nil => simpa [join] using ih
        | cons second parts => simpa [join] using ih

theorem split_join {parts : List Bytes} (hne : parts ≠ []) (h : ∀ part ∈ parts, slash ∉ part) :
    split (join parts) = parts := by
  induction parts with
  | nil => exact absurd rfl hne
  | cons part parts ih =>
      rw [List.forall_mem_cons] at h
      cases parts with
      | nil => exact split_of_not_mem h.1
      | cons second parts =>
          rw [join_cons_of_ne_nil _ (List.cons_ne_nil _ _), split_append_slash,
            split_of_not_mem h.1, ih (List.cons_ne_nil _ _) h.2]
          rfl

theorem join_isPrefix {parts parts' : List Bytes} (h : parts <+: parts') :
    join parts <+: join parts' := by
  induction parts generalizing parts' with
  | nil => exact List.nil_prefix
  | cons part parts ih =>
      obtain ⟨more, rfl⟩ := h
      cases parts with
      | nil =>
          cases more with
          | nil => exact List.prefix_refl _
          | cons second more => exact List.prefix_append _ _
      | cons second parts =>
          have hjoin := ih (List.prefix_append (second :: parts) more)
          rw [List.cons_append, join_cons_of_ne_nil part (List.cons_ne_nil second parts),
            join_cons_of_ne_nil part (List.append_ne_nil_of_left_ne_nil (List.cons_ne_nil _ _) _)]
          exact (List.prefix_append_right_inj part).mpr (List.cons_prefix_cons.mpr ⟨rfl, hjoin⟩)

theorem filter_split_append {keep : Bytes → Bool} (hkeep : keep [] = false) {p q : Path}
    (hq : q.isAbsolute = false) :
    (split (p.append q).bytes).filter keep =
      (split p.bytes).filter keep ++ (split q.bytes).filter keep := by
  have hslash : ∀ a b : Bytes, (split (a ++ slash :: b)).filter keep =
      (split a).filter keep ++ (split b).filter keep := by
    intro a b
    rw [split_append_slash, List.filter_append]
  have hnil : (split []).filter keep = [] := by
    rw [split_nil, List.filter_cons_of_neg (by simp [hkeep]), List.filter_nil]
  rw [append, if_neg (by rw [hq]; exact Bool.false_ne_true)]
  split
  · rename_i hempty
    rcases hempty with hempty | hlast
    · rw [List.isEmpty_iff.mp hempty, hnil]
      rfl
    · obtain ⟨before, hbefore⟩ := List.getLast?_eq_some_iff.mp hlast
      have hp := hslash before []
      rw [← hbefore, hnil, List.append_nil] at hp
      rw [hp, hbefore]
      change (split (before ++ [slash] ++ q.bytes)).filter keep = _
      rw [List.append_assoc]
      exact hslash before q.bytes
  · exact hslash p.bytes q.bytes

/-- The parts of a path that lead somewhere. -/
def route (p : Path) : List Bytes :=
  (split p.bytes).filter fun part => !isIdle part

def steps (p : Path) : List Bytes :=
  (split p.bytes).filter (· ≠ [])

theorem of_mem_steps {p : Path} {part : Bytes} (h : part ∈ p.steps) : slash ∉ part ∧ part ≠ [] :=
  ⟨slash_not_mem_of_mem_split (List.mem_of_mem_filter h), by simpa using List.of_mem_filter h⟩

theorem filter_steps (p : Path) : (p.steps.filter fun part => !isIdle part) = p.route := by
  rw [steps, List.filter_filter, route]
  refine List.filter_congr fun part _ => ?_
  cases part <;> simp [isIdle]

theorem filter_route (p : Path) : (p.route.filter fun part => !isIdle part) = p.route := by
  rw [← p.filter_steps, List.filter_filter]
  simp only [Bool.and_self]

theorem route_append {p q : Path} (hq : q.isAbsolute = false) :
    (p.append q).route = p.route ++ q.route :=
  filter_split_append rfl hq

/-- The name of an entry of a directory, as bytes. -/
def IsPlain (part : Bytes) : Prop :=
  slash ∉ part ∧ isIdle part = false ∧ part ≠ dotDot

theorem route_of_isPlain {part : Bytes} (h : IsPlain part) : route ⟨part⟩ = [part] := by
  simp [route, split_of_not_mem h.1, h.2.1]

theorem isAbsolute_of_isPlain {part : Bytes} (h : IsPlain part) :
    isAbsolute ⟨part⟩ = false := by
  cases part with
  | nil => rfl
  | cons c part =>
      have hc : c ≠ slash := fun hc => h.1 (by rw [hc]; exact List.mem_cons_self)
      simp [isAbsolute, hc]

theorem route_append_plain {p : Path} {part : Bytes} (h : IsPlain part) :
    (p.append ⟨part⟩).route = p.route ++ [part] := by
  rw [route_append (isAbsolute_of_isPlain h), route_of_isPlain h]

theorem anchor_cases (p : Path) :
    (∃ rest, p.bytes = slash :: rest ∧ p.anchor = some .root ∧ p.parts = split rest) ∨
      (p.anchor = some .here ∧ split p.bytes = dot :: p.parts) ∨
        (p.anchor = none ∧ p.parts = split p.bytes) := by
  unfold parts
  cases habsolute : p.isAbsolute with
  | true =>
      left
      obtain ⟨_ | ⟨c, rest⟩⟩ := p
      · cases habsolute
      · obtain rfl : c = slash := by simpa [isAbsolute] using habsolute
        refine ⟨rest, rfl, by simp [anchor, habsolute], ?_⟩
        simp [anchor, habsolute, split_cons]
  | false =>
      right
      by_cases hhead : (split p.bytes).head? = some dot
      · left
        have hanchor : p.anchor = some .here := by simp [anchor, habsolute, hhead]
        obtain ⟨rest, hsplit⟩ := List.head?_eq_some_iff.mp hhead
        refine ⟨hanchor, ?_⟩
        rw [hanchor, hsplit]
        rfl
      · right
        have hanchor : p.anchor = none := by simp [anchor, habsolute, hhead]
        exact ⟨hanchor, by rw [hanchor]; rfl⟩

/-- The anchor of a path says nothing about where it leads. -/
theorem filter_parts (p : Path) : (p.parts.filter fun part => !isIdle part) = p.route := by
  unfold route
  rcases anchor_cases p with ⟨rest, hbytes, -, hparts⟩ | ⟨-, hsplit⟩ | ⟨-, hparts⟩
  · rw [hparts, hbytes, split_cons, if_pos rfl, List.filter_cons_of_neg (by decide)]
  · rw [hsplit, List.filter_cons_of_neg (by decide)]
  · rw [hparts]

theorem slash_not_mem_of_mem_parts {p : Path} {part : Bytes} (h : part ∈ p.parts) :
    slash ∉ part := by
  rcases anchor_cases p with ⟨rest, -, -, hparts⟩ | ⟨-, hsplit⟩ | ⟨-, hparts⟩
  · exact slash_not_mem_of_mem_split (hparts ▸ h)
  · exact slash_not_mem_of_mem_split (hsplit ▸ List.mem_cons_of_mem _ h)
  · exact slash_not_mem_of_mem_split (hparts ▸ h)

theorem filterMap_componentOf? (parts : List Bytes) :
    parts.filterMap componentOf? = (parts.filter fun part => !isIdle part).map fun part =>
      if part = dotDot then .up else .name part := by
  induction parts with
  | nil => rfl
  | cons part parts ih =>
      cases hidle : isIdle part with
      | true =>
          rw [List.filterMap_cons_none (by simp [componentOf?, hidle]), ih,
            List.filter_cons_of_neg (by simp [hidle])]
      | false =>
          have hcomponent : componentOf? part =
              some (if part = dotDot then .up else .name part) := by
            rw [componentOf?, hidle, if_neg Bool.false_ne_true]
            split <;> rfl
          rw [List.filterMap_cons_some hcomponent, ih, List.filter_cons_of_pos (by simp [hidle]),
            List.map_cons]

/-- A path ends in a name if the last part that leads somewhere is not `..`. -/
theorem fileName?_eq_some_iff {p : Path} {part : Bytes} :
    p.fileName? = some part ↔ p.route.getLast? = some part ∧ part ≠ dotDot := by
  have hanchor : ∀ component, p.anchor.toList.getLast? ≠ some (.name component) := by
    intro component
    rcases anchor_cases p with ⟨_, -, hanchor, -⟩ | ⟨hanchor, -⟩ | ⟨hanchor, -⟩ <;>
      simp [hanchor]
  unfold fileName? components
  rw [filterMap_componentOf?, filter_parts]
  cases hroute : p.route.getLast? with
  | none =>
      rw [List.getLast?_eq_none_iff.mp hroute, List.map_nil, List.append_nil]
      split
      · rename_i component hlast
        exact absurd hlast (hanchor component)
      · simp
  | some last =>
      rw [List.getLast?_append, List.getLast?_map, hroute]
      by_cases hup : last = dotDot
      · simp only [Option.map_some, hup, if_true, Option.some_or]
        simp
        rintro rfl
        rfl
      · simp only [Option.map_some, hup, if_false, Option.some_or]
        simp
        rintro rfl
        exact hup

theorem fileName?_eq_none_iff {p : Path} :
    p.fileName? = none ↔ ∀ part, p.components.getLast? ≠ some (.name part) := by
  unfold fileName?
  split
  · next part hlast => simp [hlast]
  · next hlast => simpa using hlast

theorem ne_nil_of_fileName? {p : Path} {part : Bytes} (h : p.fileName? = some part) :
    part ≠ [] := by
  have hmem := List.mem_of_getLast? (fileName?_eq_some_iff.mp h).1
  have hkept := List.of_mem_filter hmem
  rintro rfl
  exact absurd hkept (by decide)

theorem trimEnd_isPrefix (parts : List Bytes) : trimEnd parts <+: parts :=
  List.rdropWhile_prefix isIdle parts

theorem filter_trimEnd (parts : List Bytes) :
    ((trimEnd parts).filter fun part => !isIdle part) = parts.filter fun part => !isIdle part := by
  have hdrop : ∀ l : List Bytes, ((l.dropWhile isIdle).filter fun part => !isIdle part) =
      l.filter fun part => !isIdle part := by
    intro l
    induction l with
    | nil => rfl
    | cons part l ih =>
        cases hidle : isIdle part with
        | true =>
            rw [List.dropWhile_cons_of_pos hidle, ih, List.filter_cons_of_neg (by simp [hidle])]
        | false => rw [List.dropWhile_cons_of_neg (by simp [hidle])]
  rw [trimEnd, List.filter_reverse, hdrop, List.filter_reverse, List.reverse_reverse]

theorem filter_dropLast_trimEnd (parts : List Bytes) :
    ((trimEnd parts).dropLast.filter fun part => !isIdle part) =
      (parts.filter fun part => !isIdle part).dropLast := by
  rw [← filter_trimEnd parts]
  by_cases hnil : trimEnd parts = []
  · rw [hnil]
    rfl
  · have hlast : isIdle ((trimEnd parts).getLast hnil) = false := by
      exact Bool.eq_false_iff.mpr (List.rdropWhile_last_not isIdle parts hnil)
    have hsplit := List.dropLast_append_getLast hnil
    conv_rhs => rw [← hsplit]
    rw [List.filter_append, List.filter_cons_of_pos (by simp [hlast]), List.filter_nil,
      List.dropLast_concat]

theorem route_assemble (anchor : Option Component) {parts : List Bytes}
    (h : ∀ part ∈ parts, slash ∉ part) :
    (assemble anchor parts).route = parts.filter fun part => !isIdle part := by
  have hjoin : route ⟨join parts⟩ = parts.filter fun part => !isIdle part := by
    cases parts with
    | nil => rfl
    | cons part parts => rw [route, split_join (List.cons_ne_nil _ _) h]
  have hroot : route ⟨slash :: join parts⟩ = route ⟨join parts⟩ := by
    simp only [route, split_cons, if_true]
    rw [List.filter_cons_of_neg (by decide)]
  have hdot : ∀ part ∈ dot :: parts, slash ∉ part :=
    List.forall_mem_cons.mpr ⟨by decide, h⟩
  have hhere : parts ≠ [] → route ⟨join (dot :: parts)⟩ = route ⟨join parts⟩ := by
    intro _
    rw [hjoin, route, split_join (List.cons_ne_nil _ _) hdot, List.filter_cons_of_neg (by decide)]
  cases anchor with
  | none => exact hjoin
  | some component =>
      cases component with
      | root => rw [← hjoin, ← hroot]; rfl
      | _ =>
          cases parts with
          | nil => rfl
          | cons part parts => rw [← hjoin, ← hhere (List.cons_ne_nil _ _)]; rfl

theorem bytes_assemble_isPrefix {p : Path} {parts : List Bytes} (h : parts <+: p.parts) :
    (assemble p.anchor parts).bytes <+: p.bytes := by
  rcases anchor_cases p with ⟨rest, hbytes, hanchor, hparts⟩ | ⟨hanchor, hsplit⟩ |
    ⟨hanchor, hparts⟩
  · have hjoin : join parts <+: rest := by
      rw [← join_split rest, ← hparts]
      exact join_isPrefix h
    rw [hanchor, hbytes]
    exact List.cons_prefix_cons.mpr ⟨rfl, hjoin⟩
  · have hjoin : join (dot :: parts) <+: p.bytes := by
      rw [← join_split p.bytes, hsplit]
      exact join_isPrefix (List.cons_prefix_cons.mpr ⟨rfl, h⟩)
    rw [hanchor]
    cases parts with
    | nil => exact hjoin
    | cons part parts => exact hjoin
  · have hjoin : join parts <+: p.bytes := by
      rw [← join_split p.bytes, ← hparts]
      exact join_isPrefix h
    rw [hanchor]
    exact hjoin

/-- The path above another one leads to where that one leads but for its last part. -/
theorem route_of_parent?_eq_some {p q : Path} (h : p.parent? = some q) :
    q.route = p.route.dropLast ∧ q.bytes <+: p.bytes := by
  have hkept : trimEnd (trimEnd p.parts).dropLast <+: p.parts :=
    (trimEnd_isPrefix _).trans ((List.dropLast_prefix _).trans (trimEnd_isPrefix _))
  unfold parent? at h
  split at h
  · rename_i hnil
    have hroute : p.route = [] := by rw [← filter_parts, ← filter_trimEnd, hnil]; rfl
    split at h
    · obtain rfl := Option.some.inj h
      rw [hroute]
      exact ⟨rfl, List.nil_prefix⟩
    · cases h
  · obtain rfl := Option.some.inj h
    refine ⟨?_, bytes_assemble_isPrefix hkept⟩
    have hslash : ∀ part ∈ trimEnd (trimEnd p.parts).dropLast, slash ∉ part :=
      fun part hpart => slash_not_mem_of_mem_parts (hkept.subset hpart)
    rw [route_assemble _ hslash, filter_trimEnd, filter_dropLast_trimEnd, filter_parts]

theorem isSome_parent? {p : Path} (h : p.route ≠ []) : p.parent?.isSome := by
  unfold parent?
  split
  · rename_i hnil
    refine absurd ?_ h
    rw [← filter_parts, ← filter_trimEnd, hnil]
    rfl
  · rfl

/-- Where parts lead from a directory. -/
def landFrom : (here : List Bytes) → List Bytes → List Bytes
  | here, [] => here
  | here, part :: parts =>
      if part = dotDot then landFrom here.dropLast parts else landFrom (here ++ [part]) parts

/-- Where a path leads, as the names from the root on. -/
def location (p : Path) : List Bytes :=
  landFrom [] p.route

theorem landFrom_append (here parts parts' : List Bytes) :
    landFrom here (parts ++ parts') = landFrom (landFrom here parts) parts' := by
  induction parts generalizing here with
  | nil => rfl
  | cons part parts ih =>
      simp only [List.cons_append, landFrom]
      split
      · exact ih _
      · exact ih _

theorem landFrom_append_plain (here parts : List Bytes) {part : Bytes} (h : IsPlain part) :
    landFrom here (parts ++ [part]) = landFrom here parts ++ [part] := by
  rw [landFrom_append, landFrom, if_neg h.2.2]
  rfl

theorem location_append_plain {p : Path} {part : Bytes} (h : IsPlain part) :
    (p.append ⟨part⟩).location = p.location ++ [part] := by
  rw [location, route_append_plain h, landFrom_append_plain _ _ h]
  rfl

end DartTriggers.Path

namespace DartTriggers

theorem Name.isPlain (name : Name) : Path.IsPlain name.bytes := by
  have hvalid := name.valid
  simp only [isFileName, Bool.and_eq_true, Bool.not_eq_true', bne_iff_ne] at hvalid
  obtain ⟨⟨⟨⟨⟨hempty, -⟩, hdot⟩, hup⟩, hslash⟩, -⟩ := hvalid
  refine ⟨by simpa using hslash, ?_, hup⟩
  simp_all [Path.isIdle]

theorem Name.ofBytes?_bytes (name : Name) : Name.ofBytes? name.bytes = some name := by
  rw [Name.ofBytes?, dif_pos name.valid]

theorem Name.bytes_of_ofBytes? {b : Bytes} {name : Name} (h : Name.ofBytes? b = some name) :
    name.bytes = b := by
  unfold Name.ofBytes? at h
  split at h
  · obtain rfl := Option.some.inj h
    rfl
  · cases h

theorem Name.bytes_injective : Function.Injective Name.bytes := by
  rintro ⟨a, ha⟩ ⟨b, hb⟩ (rfl : a = b)
  rfl

end DartTriggers
