import Mathlib.Data.List.Forall2
import Mathlib.Data.List.Induction
import Mathlib.Data.List.Nodup
import DartTriggers.Descriptor.Basic
/-!
The names that repeat in a list, and two ways to find them. One gives each of them where it repeats
first, the other keeps a list of those found so far and adds to its end. They find the same names in
the same order, that of the second occurrences.
-/

namespace DartTriggers

/-- A name is found to repeat if it has not been found before and occurs twice, the names seen
before counting for one occurrence. -/
theorem mem_repeatsAfter {seen found names : List String} {name : String} :
    name ∈ repeatsAfter seen found names ↔
      name ∉ found ∧ 2 ≤ names.count name + if name ∈ seen then 1 else 0 := by
  induction names generalizing seen found with
  | nil =>
      rw [repeatsAfter]
      split <;> simp
  | cons first names ih =>
      rw [repeatsAfter]
      by_cases hfirst : name = first
      · subst hfirst
        by_cases hseen : name ∈ seen
        · by_cases hfound : name ∈ found
          · simp [hseen, hfound, ih]
          · simp [hseen, hfound]
        · simp [hseen, ih]
      · have hcount : (first :: names).count name = names.count name :=
          List.count_cons_of_ne (Ne.symm hfirst)
        split
        · split
          · rw [ih, hcount]
          · simp [ih, hcount, hfirst]
        · simp [ih, hcount, hfirst]

theorem nodup_repeatsAfter (seen found names : List String) :
    (repeatsAfter seen found names).Nodup := by
  induction names generalizing seen found with
  | nil => exact List.nodup_nil
  | cons first names ih =>
      rw [repeatsAfter]
      split
      · split
        · exact ih seen found
        · refine List.nodup_cons.mpr ⟨fun hmem => ?_, ih seen (first :: found)⟩
          exact (mem_repeatsAfter.mp hmem).1 List.mem_cons_self
      · exact ih (first :: seen) found

theorem nodup_repeats (names : List String) : (repeats names).Nodup :=
  nodup_repeatsAfter [] [] names

theorem mem_repeats {names : List String} {name : String} :
    name ∈ repeats names ↔ 2 ≤ names.count name := by
  simp [repeats, mem_repeatsAfter]

theorem mem_of_mem_repeats {names : List String} {name : String} (h : name ∈ repeats names) :
    name ∈ names := by
  have htwice := mem_repeats.mp h
  apply List.count_pos_iff.mp
  omega

/-- Which names repeat does not depend on the order of a list, only the order in which they are
found does. -/
theorem repeats_perm {names names' : List String} (h : names.Perm names') :
    (repeats names).Perm (repeats names') := by
  apply (List.perm_ext_iff_of_nodup (nodup_repeats names) (nodup_repeats names')).mpr
  intro name
  rw [mem_repeats, mem_repeats, h.count_eq]

theorem repeats_eq_nil_iff (names : List String) : repeats names = [] ↔ names.Nodup := by
  simp only [List.eq_nil_iff_forall_not_mem, mem_repeats, List.nodup_iff_count_le_one]
  exact forall_congr' fun name => by omega

/-- The names that the first way gives for the rest of a list are those that the second adds to its
list there. What the first has found matters only for which names are in it. -/
theorem repeated_foldl_add {s : Sightings} {found : List String}
    (hfound : ∀ name, name ∈ found ↔ name ∈ s.repeated) (names : List String) :
    (names.foldl Sightings.add s).repeated = s.repeated ++ repeatsAfter s.seen found names := by
  induction names generalizing s found with
  | nil => simp [repeatsAfter]
  | cons name names ih =>
      rw [List.foldl_cons, repeatsAfter, Sightings.add]
      by_cases hseen : name ∈ s.seen
      · by_cases hrepeated : name ∈ s.repeated
        · rw [if_pos hseen, if_pos hrepeated, if_pos hseen, if_pos ((hfound name).mpr hrepeated)]
          exact ih hfound
        · have hnew : ∀ other, other ∈ name :: found ↔ other ∈ s.repeated ++ [name] := by
            intro other
            rw [List.mem_cons, List.mem_append, List.mem_singleton, hfound, or_comm]
          rw [if_pos hseen, if_neg hrepeated, if_pos hseen, if_neg (mt (hfound name).mp hrepeated),
            ih hnew, List.append_assoc, List.singleton_append]
      · rw [if_neg hseen, if_neg hseen]
        exact ih hfound

theorem repeated_eq_repeats (names : List String) :
    (names.foldl Sightings.add {}).repeated = repeats names :=
  repeated_foldl_add (fun _ => Iff.rfl) names

theorem Entity.repeatedNames_eq (e : Entity) : e.repeatedNames = repeats e.attributeNames :=
  repeated_eq_repeats e.attributeNames

theorem mem_seen_foldl_add (names : List String) (name : String) :
    name ∈ (names.foldl Sightings.add {}).seen ↔ name ∈ names := by
  induction names using List.reverseRecOn with
  | nil => rfl
  | append_singleton names last ih =>
      rw [List.foldl_append, List.mem_append, List.mem_singleton, ← ih, List.foldl_cons,
        List.foldl_nil, Sightings.add]
      split
      · next hseen =>
          have hlast : name = last → name ∈ (names.foldl Sightings.add {}).seen := by
            rintro rfl
            exact hseen
          rw [or_iff_left_of_imp hlast]
          split <;> rfl
      · exact List.mem_cons.trans or_comm

/-- A name stands at a position of a list, and once before it. -/
def SecondAt (names : List String) (name : String) (position : Nat) : Prop :=
  names[position]? = some name ∧ (names.take position).count name = 1

theorem SecondAt.lt {names : List String} {name : String} {position : Nat}
    (h : SecondAt names name position) : position < names.length :=
  (List.getElem?_eq_some_iff.mp h.1).1

theorem SecondAt.append {names : List String} {name : String} {position : Nat}
    (h : SecondAt names name position) (more : List String) :
    SecondAt (names ++ more) name position := by
  refine ⟨?_, ?_⟩
  · rw [List.getElem?_append_left h.lt]
    exact h.1
  · rw [List.take_append_of_le_length (Nat.le_of_lt h.lt)]
    exact h.2

theorem secondAt_length {names : List String} {name : String} (h : names.count name = 1) :
    SecondAt (names ++ [name]) name names.length := by
  refine ⟨List.getElem?_concat_length, ?_⟩
  rw [List.take_left]
  exact h

/-- A name at the end of a list repeats there for the first time if it stands once before. -/
theorem repeats_concat (names : List String) (last : String) :
    repeats (names ++ [last]) =
      if names.count last = 1 then repeats names ++ [last] else repeats names := by
  rw [← repeated_eq_repeats, List.foldl_append, List.foldl_cons, List.foldl_nil, Sightings.add]
  by_cases hseen : last ∈ (names.foldl Sightings.add {}).seen
  · have hpos := List.count_pos_iff.mpr ((mem_seen_foldl_add names last).mp hseen)
    rw [if_pos hseen]
    by_cases hrepeated : last ∈ (names.foldl Sightings.add {}).repeated
    · rw [if_pos hrepeated, repeated_eq_repeats, if_neg]
      rw [repeated_eq_repeats, mem_repeats] at hrepeated
      omega
    · rw [if_neg hrepeated, repeated_eq_repeats, if_pos]
      rw [repeated_eq_repeats, mem_repeats] at hrepeated
      omega
  · have hnone := List.count_eq_zero.mpr (mt (mem_seen_foldl_add names last).mpr hseen)
    rw [if_neg hseen, if_neg (by omega), ← repeated_eq_repeats]

/-- The positions at which the names stand for the second time increase. -/
theorem exists_positions_repeats (names : List String) :
    ∃ positions : List Nat, positions.Pairwise (· < ·) ∧
      List.Forall₂ (SecondAt names) (repeats names) positions := by
  -- A name that is added repeats after all positions so far, which the bound is for.
  suffices h : ∃ positions : List Nat, positions.Pairwise (· < ·) ∧
      (∀ i ∈ positions, i < names.length) ∧
      List.Forall₂ (SecondAt names) (repeats names) positions by
    obtain ⟨positions, hincreasing, -, hsecond⟩ := h
    exact ⟨positions, hincreasing, hsecond⟩
  induction names using List.reverseRecOn with
  | nil => exact ⟨[], .nil, List.forall_mem_nil _, .nil⟩
  | append_singleton names last ih =>
      obtain ⟨positions, hincreasing, hbound, hsecond⟩ := ih
      have hkept : List.Forall₂ (SecondAt (names ++ [last])) (repeats names) positions :=
        hsecond.imp fun _ _ h => h.append [last]
      have hbound' : ∀ i ∈ positions, i < (names ++ [last]).length := by
        intro i hi
        rw [List.length_append]
        exact Nat.lt_add_right _ (hbound i hi)
      rw [repeats_concat]
      split
      · next hcount =>
          refine ⟨positions ++ [names.length], ?_, ?_, ?_⟩
          · rw [List.pairwise_append]
            refine ⟨hincreasing, List.pairwise_singleton _ _, fun i hi j hj => ?_⟩
            rw [List.mem_singleton.mp hj]
            exact hbound i hi
          · rw [List.forall_mem_append, List.forall_mem_singleton]
            exact ⟨hbound', by simp⟩
          · exact List.rel_append hkept (.cons (secondAt_length hcount) .nil)
      · exact ⟨positions, hincreasing, hbound', hkept⟩

end DartTriggers
