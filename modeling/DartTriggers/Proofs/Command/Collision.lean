import Mathlib.Data.List.Pairwise
import DartTriggers.Command.Generate
import DartTriggers.Proofs.UnitName
/-!
The search for two descriptors of one target. Descriptors have one target in a directory exactly if
they have one unit, so that the search finds nothing exactly if no two descriptors have one unit,
and else the first descriptor whose unit an earlier one has.
-/

namespace DartTriggers.Generate

/-- Two descriptors that do not have one unit. -/
def Apart (d d' : Path) : Prop :=
  ∀ unit, UnitName.ofPath? d = some unit → UnitName.ofPath? d' ≠ some unit

theorem Apart.symm {d d' : Path} (h : Apart d d') : Apart d' d :=
  fun unit hunit' hunit => h unit hunit hunit'

theorem apart_of_pairwise {descriptors : List Path} (h : descriptors.Pairwise Apart) {d d' : Path}
    (hd : d ∈ descriptors) (hd' : d' ∈ descriptors) (hne : d ≠ d') : Apart d d' := by
  have hsymm : Std.Symm Apart := ⟨fun _ _ => Apart.symm⟩
  exact h.forall hd hd' hne

theorem pairwise_apart_concat {done : List Path} (hdone : done.Pairwise Apart) {d : Path}
    (hd : ∀ d' ∈ done, Apart d' d) : (done ++ [d]).Pairwise Apart := by
  refine List.pairwise_append.mpr ⟨hdone, List.pairwise_singleton _ _, ?_⟩
  intro d' hd' d'' hd''
  rw [List.mem_singleton.mp hd'']
  exact hd d' hd'

theorem not_pairwise_apart {before rest : List Path} {d later : Path} {unit : UnitName}
    (hlater : UnitName.ofPath? later = some unit) (hd : d ∈ before)
    (hunit : UnitName.ofPath? d = some unit) :
    ¬ (before ++ later :: rest).Pairwise Apart := by
  intro h
  have hapart : Apart d later := (List.pairwise_append.mp h).2.2 d hd later List.mem_cons_self
  exact hapart unit hunit hlater

/-- The first descriptor with the unit of an earlier one, which is the only one before it that has
this unit. -/
structure FirstRepeat (descriptors : List Path) (earlier later : Path) (unit : UnitName) :
    Prop where
  unit_later : UnitName.ofPath? later = some unit
  exists_split : ∃ before rest, descriptors = before ++ later :: rest ∧ before.Pairwise Apart ∧
    ∀ d, d = earlier ↔ d ∈ before ∧ UnitName.ofPath? d = some unit

namespace FirstRepeat

variable {descriptors : List Path} {earlier later earlier' later' : Path} {unit unit' : UnitName}

theorem not_pairwise (h : FirstRepeat descriptors earlier later unit) :
    ¬ descriptors.Pairwise Apart := by
  obtain ⟨hlater, before, rest, rfl, -, hearlier⟩ := h
  obtain ⟨hmem, hunit⟩ := (hearlier earlier).mp rfl
  exact not_pairwise_apart hlater hmem hunit

theorem one_lt_length (h : FirstRepeat descriptors earlier later unit) :
    1 < descriptors.length := by
  obtain ⟨-, before, rest, rfl, -, hearlier⟩ := h
  obtain ⟨hmem, -⟩ := (hearlier earlier).mp rfl
  have hbefore : 0 < before.length := List.length_pos_of_mem hmem
  rw [List.length_append, List.length_cons]
  omega

/-- Descriptors that are apart do not go on past a repeat. -/
theorem eq_nil_of_pairwise {before more rest rest' : List Path}
    (hlater : UnitName.ofPath? later = some unit) (hmem : earlier ∈ before)
    (hunit : UnitName.ofPath? earlier = some unit) (hpairwise : (before ++ more).Pairwise Apart)
    (hrest : later :: rest = more ++ later' :: rest') : more = [] := by
  cases more with
  | nil => rfl
  | cons first more =>
      obtain ⟨rfl, -⟩ := List.cons.inj hrest
      exact absurd hpairwise (not_pairwise_apart hlater hmem hunit)

theorem unique (h : FirstRepeat descriptors earlier later unit)
    (h' : FirstRepeat descriptors earlier' later' unit') :
    earlier = earlier' ∧ later = later' ∧ unit = unit' := by
  obtain ⟨hlater, before, rest, hsplit, hpairwise, hearlier⟩ := h
  obtain ⟨hlater', before', rest', hsplit', hpairwise', hearlier'⟩ := h'
  obtain ⟨hmem, hunit⟩ := (hearlier earlier).mp rfl
  obtain ⟨hmem', hunit'⟩ := (hearlier' earlier').mp rfl
  rw [hsplit] at hsplit'
  have hbefore : before = before' := by
    rcases List.append_eq_append_iff.mp hsplit' with ⟨more, rfl, hrest⟩ | ⟨more, rfl, hrest⟩
    · rw [eq_nil_of_pairwise hlater hmem hunit hpairwise' hrest, List.append_nil]
    · rw [eq_nil_of_pairwise hlater' hmem' hunit' hpairwise hrest, List.append_nil]
  subst hbefore
  obtain ⟨rfl, -⟩ := List.cons.inj (List.append_cancel_left hsplit')
  obtain rfl : unit = unit' := Option.some.inj (hlater.symm.trans hlater')
  exact ⟨(hearlier' earlier).mpr ⟨hmem, hunit⟩, rfl, rfl⟩

end FirstRepeat

section

variable {options : Options} (hextension : options.extension = "dart") {dir : Path}

include hextension

/-- Units that are named after descriptors have one file in a directory only if they are one. -/
theorem components_unitFile_inj {d d' : Path} {unit unit' : UnitName}
    (hunit : UnitName.ofPath? d = some unit) (hunit' : UnitName.ofPath? d' = some unit')
    (h : (unitFile options unit dir).components = (unitFile options unit' dir).components) :
    unit = unit' := by
  have hfileName : ∀ {d : Path} {unit : UnitName}, UnitName.ofPath? d = some unit →
      (unitFile options unit dir).fileName? =
        some (Bytes.ofString (unit.generatedFile "dart")) := by
    intro d unit hunit
    have hplain := UnitName.isPlain_generatedFile hunit
    refine Path.fileName?_eq_some_iff.mpr ⟨?_, hplain.2.2⟩
    have hroute := Path.route_append_plain (p := dir) hplain
    rw [unitFile, hextension]
    change (dir.append ⟨Bytes.ofString (unit.generatedFile "dart")⟩).route.getLast? = _
    rw [hroute, List.getLast?_concat]
  have hsame : (unitFile options unit dir).fileName? = (unitFile options unit' dir).fileName? := by
    rw [Path.fileName?, Path.fileName?, h]
  rw [hfileName hunit, hfileName hunit'] at hsame
  exact UnitName.generatedFile_injective (Bytes.ofString_injective (Option.some.inj hsame))

end

/-- What a search for a repeat finds out about descriptors. -/
def Verdict (options : Options) (dir : Path) (descriptors : List Path) :
    Option (Path × Path × Path) → Prop
  | none => descriptors.Pairwise Apart
  | some (earlier, later, target) =>
      ∃ unit, FirstRepeat descriptors earlier later unit ∧ target = unitFile options unit dir

/-- The targets that have been seen are those of the descriptors that are done. -/
def Records (options : Options) (dir : Path) (seen : List (List Path.Component × Path))
    (done : List Path) : Prop :=
  ∀ {next unit}, UnitName.ofPath? next = some unit → ∀ d,
    seen.lookup (unitFile options unit dir).components = some d ↔
      d ∈ done ∧ UnitName.ofPath? d = some unit

namespace Records

variable {options : Options} {dir : Path} {seen : List (List Path.Component × Path)}
  {done : List Path} {d : Path} {unit : UnitName}

theorem nil : Records options dir [] [] := by
  intro next unit _ d
  simp

theorem mem_concat_iff (hd : UnitName.ofPath? d ≠ some unit) (d' : Path) :
    d' ∈ done ++ [d] ∧ UnitName.ofPath? d' = some unit ↔
      d' ∈ done ∧ UnitName.ofPath? d' = some unit := by
  rw [List.mem_append, List.mem_singleton]
  refine and_congr_left fun hunit => ⟨fun hmem => hmem.resolve_right ?_, .inl⟩
  rintro rfl
  exact hd hunit

theorem concat_of_none (h : Records options dir seen done) (hd : UnitName.ofPath? d = none) :
    Records options dir seen (done ++ [d]) := by
  intro next unit hunit d'
  have hother : UnitName.ofPath? d ≠ some unit := by
    rw [hd]
    nofun
  rw [h hunit, mem_concat_iff hother]

theorem ne_of_lookup_eq_none (h : Records options dir seen done)
    (hd : UnitName.ofPath? d = some unit)
    (hlookup : seen.lookup (unitFile options unit dir).components = none) :
    ∀ d' ∈ done, UnitName.ofPath? d' ≠ some unit := by
  intro d' hd' hunit
  rw [(h hd d').mpr ⟨hd', hunit⟩] at hlookup
  cases hlookup

theorem concat (h : Records options dir seen done) (hextension : options.extension = "dart")
    (hd : UnitName.ofPath? d = some unit)
    (hlookup : seen.lookup (unitFile options unit dir).components = none) :
    Records options dir (((unitFile options unit dir).components, d) :: seen) (done ++ [d]) := by
  intro next unit' hunit' d'
  rw [List.lookup_cons]
  by_cases hsame : unit' = unit
  · subst hsame
    simp only [beq_self_eq_true, Option.some.injEq]
    constructor
    · rintro rfl
      exact ⟨List.mem_append_right _ List.mem_cons_self, hd⟩
    · rintro ⟨hmem, hunit⟩
      rcases List.mem_append.mp hmem with hmem | hmem
      · exact absurd hunit (h.ne_of_lookup_eq_none hd hlookup d' hmem)
      · exact (List.mem_singleton.mp hmem).symm
  · have hother : UnitName.ofPath? d ≠ some unit' := by
      rw [hd]
      exact fun heq => hsame (Option.some.inj heq).symm
    have htarget : (unitFile options unit' dir).components ≠
        (unitFile options unit dir).components :=
      fun heq => hsame (components_unitFile_inj hextension hunit' hd heq)
    simp only [beq_eq_false_iff_ne.mpr htarget]
    rw [h hunit', mem_concat_iff hother]

end Records

section

variable {options : Options} (hextension : options.extension = "dart") {dir : Path}

include hextension

/-- What has been seen and that the descriptors that are done are apart carries the search on to the
next one. -/
theorem verdict_collisionAfter {seen : List (List Path.Component × Path)} {done rest : List Path}
    (hdone : done.Pairwise Apart) (hseen : Records options dir seen done) :
    Verdict options dir (done ++ rest) (collisionAfter options dir seen rest) := by
  induction rest generalizing seen done with
  | nil =>
      rw [collisionAfter, List.append_nil]
      exact hdone
  | cons d rest ih =>
      rw [collisionAfter]
      cases hd : UnitName.ofPath? d with
      | none =>
          have hnext : (done ++ [d]).Pairwise Apart := by
            refine pairwise_apart_concat hdone fun d' _ unit _ hunit => ?_
            rw [hd] at hunit
            cases hunit
          rw [List.append_cons]
          exact ih hnext (hseen.concat_of_none hd)
      | some unit =>
          cases hlookup : seen.lookup (unitFile options unit dir).components with
          | some earlier =>
              simp only [hlookup]
              refine ⟨unit, ⟨hd, done, rest, rfl, hdone, fun d' => ?_⟩, rfl⟩
              rw [← hseen hd, hlookup, Option.some.injEq]
              exact eq_comm
          | none =>
              simp only [hlookup]
              have hnext : (done ++ [d]).Pairwise Apart := by
                refine pairwise_apart_concat hdone fun d' hd' unit' hunit' hunit => ?_
                obtain rfl : unit = unit' := Option.some.inj (hd.symm.trans hunit)
                exact hseen.ne_of_lookup_eq_none hd hlookup d' hd' hunit'
              rw [List.append_cons]
              exact ih hnext (hseen.concat hextension hd hlookup)

theorem verdict_collisionAfter_nil (dir : Path) (descriptors : List Path) :
    Verdict options dir descriptors (collisionAfter options dir [] descriptors) :=
  verdict_collisionAfter hextension List.Pairwise.nil Records.nil

theorem collisionAfter_eq_some_iff {descriptors : List Path} {earlier later target : Path} :
    collisionAfter options dir [] descriptors = some (earlier, later, target) ↔
      ∃ unit, FirstRepeat descriptors earlier later unit ∧
        target = unitFile options unit dir := by
  have hverdict := verdict_collisionAfter_nil hextension dir descriptors
  constructor
  · intro h
    rw [h] at hverdict
    exact hverdict
  · rintro ⟨unit, hrepeat, rfl⟩
    cases h : collisionAfter options dir [] descriptors with
    | none =>
        rw [h] at hverdict
        exact absurd hverdict hrepeat.not_pairwise
    | some found =>
        obtain ⟨earlier', later', target'⟩ := found
        rw [h] at hverdict
        obtain ⟨unit', hrepeat', rfl⟩ := hverdict
        obtain ⟨rfl, rfl, rfl⟩ := hrepeat.unique hrepeat'
        rfl

theorem collisionAfter_eq_none_iff {descriptors : List Path} :
    collisionAfter options dir [] descriptors = none ↔ descriptors.Pairwise Apart := by
  constructor
  · intro h
    have hverdict := verdict_collisionAfter_nil hextension dir descriptors
    rw [h] at hverdict
    exact hverdict
  · intro hpairwise
    cases h : collisionAfter options dir [] descriptors with
    | none => rfl
    | some found =>
        obtain ⟨unit, hrepeat, -⟩ := (collisionAfter_eq_some_iff hextension).mp h
        exact absurd hpairwise hrepeat.not_pairwise

end

theorem pairwise_or_firstRepeat (descriptors : List Path) :
    descriptors.Pairwise Apart ∨
      ∃ earlier later unit, FirstRepeat descriptors earlier later unit := by
  -- The search decides it, wherever it takes the targets to be.
  have hverdict := @verdict_collisionAfter_nil {} rfl ⟨Path.dot⟩ descriptors
  cases h : collisionAfter {} ⟨Path.dot⟩ [] descriptors with
  | none =>
      rw [h] at hverdict
      exact .inl hverdict
  | some found =>
      rw [h] at hverdict
      obtain ⟨unit, hrepeat, -⟩ := hverdict
      exact .inr ⟨_, _, unit, hrepeat⟩

/-- There is a repeat exactly if two descriptors have one unit, no descriptor being there twice. -/
theorem exists_firstRepeat_iff {descriptors : List Path} (hnodup : descriptors.Nodup) :
    (∃ earlier later unit, FirstRepeat descriptors earlier later unit) ↔
      ∃ d ∈ descriptors, ∃ d' ∈ descriptors, d ≠ d' ∧ ∃ unit,
        UnitName.ofPath? d = some unit ∧ UnitName.ofPath? d' = some unit := by
  constructor
  · rintro ⟨earlier, later, unit, hlater, before, rest, rfl, -, hearlier⟩
    obtain ⟨hmem, hunit⟩ := (hearlier earlier).mp rfl
    refine ⟨earlier, List.mem_append_left _ hmem, later, by simp, ?_, unit, hunit, hlater⟩
    exact (List.nodup_append.mp hnodup).2.2 earlier hmem later List.mem_cons_self
  · rintro ⟨d, hd, d', hd', hne, unit, hunit, hunit'⟩
    rcases pairwise_or_firstRepeat descriptors with hpairwise | hrepeat
    · exact absurd hunit' (apart_of_pairwise hpairwise hd hd' hne unit hunit)
    · exact hrepeat

end DartTriggers.Generate
