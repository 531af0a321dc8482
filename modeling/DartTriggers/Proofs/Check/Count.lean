import Mathlib.Algebra.GroupWithZero.Nat
import Mathlib.Computability.RegularExpressions
import Mathlib.Data.List.Dedup
import DartTriggers.Proofs.Check.Errors
/-!
How many errors a check finds: one for each name of several entities, one for each name of several
attributes of an entity, and one for every name that does not match the pattern of identifiers.
-/

namespace DartTriggers.Check

/-- One of some characters. -/
def oneOf (chars : List Char) : RegularExpression Char :=
  (chars.map .char).sum

def letters : List Char :=
  "ABCDEFGHIJKLMNOPQRSTUVWXYZabcdefghijklmnopqrstuvwxyz".toList

def digits : List Char :=
  "0123456789".toList

/-- The pattern `[A-Za-z_$][A-Za-z0-9_$]*`. -/
def identifierPattern : RegularExpression Char :=
  oneOf (letters ++ ['_', '$']) * .star (oneOf (letters ++ digits ++ ['_', '$']))

def MatchesPattern (name : String) : Prop :=
  name.toList ∈ identifierPattern.matches'

theorem mem_oneOf {chars word : List Char} :
    word ∈ (oneOf chars).matches' ↔ ∃ c ∈ chars, word = [c] := by
  induction chars with
  | nil => exact iff_of_false id (by simp)
  | cons c chars ih =>
      change word ∈ (RegularExpression.char c + oneOf chars).matches' ↔ _
      rw [RegularExpression.matches'_add, Language.mem_add, ih]
      simp only [List.mem_cons, exists_eq_or_imp]
      rfl

theorem mem_star_oneOf {chars word : List Char} :
    word ∈ (RegularExpression.star (oneOf chars)).matches' ↔ ∀ c ∈ word, c ∈ chars := by
  rw [RegularExpression.matches'_star, Language.mem_kstar]
  constructor
  · rintro ⟨words, rfl, hwords⟩ c hc
    obtain ⟨piece, hpiece, hc⟩ := List.mem_flatten.mp hc
    obtain ⟨c', hc', rfl⟩ := mem_oneOf.mp (hwords piece hpiece)
    rwa [List.mem_singleton.mp hc]
  · intro h
    refine ⟨word.map fun c => [c], ?_, ?_⟩
    · rw [← List.flatMap_def, List.flatMap_singleton']
    · rw [List.forall_mem_map]
      exact fun c hc => mem_oneOf.mpr ⟨c, h c hc, rfl⟩

theorem mem_identifierPattern {word : List Char} :
    word ∈ identifierPattern.matches' ↔ ∃ c rest, word = c :: rest ∧
      c ∈ letters ++ ['_', '$'] ∧ ∀ d ∈ rest, d ∈ letters ++ digits ++ ['_', '$'] := by
  rw [identifierPattern, RegularExpression.matches'_mul, Language.mem_mul]
  constructor
  · rintro ⟨first, hfirst, rest, hrest, rfl⟩
    obtain ⟨c, hc, rfl⟩ := mem_oneOf.mp hfirst
    exact ⟨c, rest, rfl, hc, mem_star_oneOf.mp hrest⟩
  · rintro ⟨c, rest, rfl, hc, hrest⟩
    exact ⟨[c], mem_oneOf.mpr ⟨c, hc, rfl⟩, rest, mem_star_oneOf.mpr hrest, rfl⟩

/-- A property of ASCII characters is looked up for each of them. -/
theorem mem_iff_of_ascii {chars : List Char} {isOne : Char → Bool}
    (hmem : chars.all isOne = true) (hlow : ∀ c, isOne c = true → c.toNat < 128)
    (hall : ∀ n < 128, isOne (Char.ofNat n) = true → Char.ofNat n ∈ chars) (c : Char) :
    c ∈ chars ↔ isOne c = true := by
  refine ⟨List.all_eq_true.mp hmem c, fun h => ?_⟩
  rw [← Char.ofNat_toNat c] at h ⊢
  exact hall _ (hlow c (by rwa [Char.ofNat_toNat] at h)) h

theorem mem_letters (c : Char) : c ∈ letters ↔ c.isAlpha = true := by
  refine mem_iff_of_ascii (by decide) (fun c h => ?_) (by decide) c
  have hupper : c.isUpper = true → c.toNat ≤ 90 := fun h =>
    UInt32.le_iff_toNat_le.mp (of_decide_eq_true (p := c.val ≥ 'A'.val ∧ c.val ≤ 'Z'.val) h).2
  have hlower : c.isLower = true → c.toNat ≤ 122 := fun h =>
    UInt32.le_iff_toNat_le.mp (of_decide_eq_true (Bool.and_eq_true_iff.mp h).2)
  rcases Bool.or_eq_true_iff.mp h with h | h
  · have := hupper h
    omega
  · have := hlower h
    omega

theorem mem_digits (c : Char) : c ∈ digits ↔ c.isDigit = true := by
  refine mem_iff_of_ascii (by decide) (fun c h => ?_) (by decide) c
  have hle : c.toNat ≤ 57 :=
    UInt32.le_iff_toNat_le.mp (of_decide_eq_true (Bool.and_eq_true_iff.mp h).2)
  omega

theorem isIdentifier_iff_matchesPattern {name : String} :
    isIdentifier name = true ↔ MatchesPattern name := by
  have hstart : ∀ c, isIdentifierStart c = true ↔ c ∈ letters ++ ['_', '$'] := by
    intro c
    rw [List.mem_append, mem_letters]
    simp [isIdentifierStart, or_assoc]
  have hpart : ∀ c, isIdentifierPart c = true ↔ c ∈ letters ++ digits ++ ['_', '$'] := by
    intro c
    rw [isIdentifierPart, Bool.or_eq_true, hstart]
    simp only [List.mem_append, mem_digits]
    exact or_right_comm
  rw [MatchesPattern, mem_identifierPattern, isIdentifier]
  cases name.toList with
  | nil => simp
  | cons c rest => simp [hstart, hpart, List.all_eq_true]

instance (name : String) : Decidable (MatchesPattern name) :=
  decidable_of_iff _ isIdentifier_iff_matchesPattern

/-- How many different names occur at least twice. -/
def repeatedCount (names : List String) : Nat :=
  names.dedup.countP fun name => 2 ≤ names.count name

theorem length_repeats (names : List String) : (repeats names).length = repeatedCount names := by
  have hperm : (repeats names).Perm (names.dedup.filter fun name => 2 ≤ names.count name) := by
    refine (List.perm_ext_iff_of_nodup (nodup_repeats names)
      (names.nodup_dedup.filter _)).mpr fun name => ?_
    rw [mem_repeats, List.mem_filter, List.mem_dedup, decide_eq_true_eq]
    exact ⟨fun h => ⟨List.count_pos_iff.mp (by omega), h⟩, fun h => h.2⟩
  rw [repeatedCount, List.countP_eq_length_filter, hperm.length_eq]

/-- How many errors there are in an entity. -/
def errorCount (e : Entity) : Nat :=
  repeatedCount e.attributeNames + (if MatchesPattern e.name then 0 else 1) +
    e.attributeNames.countP fun name => ¬ MatchesPattern name

theorem countP_checkWhole (r : Registry) :
    (Rule.builtin.flatMap (Rule.checkWhole r)).countP (·.isError) =
      repeatedCount r.entityNames := by
  rw [checkWhole_builtin, List.countP_map, ← length_repeats]
  exact List.countP_eq_length.mpr fun _ _ => rfl

theorem countP_checkEntity (e : Entity) :
    (Rule.builtin.flatMap (Rule.checkEntity e)).countP (·.isError) = errorCount e := by
  have hrepeated : (Rule.checkEntity e .duplicateAttribute).countP (·.isError) =
      repeatedCount e.attributeNames := by
    rw [Rule.checkEntity, List.countP_map, ← length_repeats, Entity.repeatedNames_eq]
    exact List.countP_eq_length.mpr fun _ _ => rfl
  have hidentifiers : (Rule.checkEntity e .invalidIdentifier).countP (·.isError) =
      (if MatchesPattern e.name then 0 else 1) +
        e.attributeNames.countP fun name => ¬ MatchesPattern name := by
    rw [Rule.checkEntity, List.countP_append]
    congr 1
    · simp only [← isIdentifier_iff_matchesPattern]
      split <;> simp
    · rw [List.countP_map, List.countP_eq_length_filter (l := e.attributeNames)]
      simp [← isIdentifier_iff_matchesPattern]
  have hreserved : (Rule.checkEntity e .reservedWord).countP (·.isError) = 0 := by
    simp [Rule.checkEntity]
  have hempty : (Rule.checkEntity e .emptyEntity).countP (·.isError) = 0 := by
    rw [Rule.checkEntity]
    split <;> simp
  simp only [Rule.builtin, List.flatMap_cons, List.flatMap_nil, List.countP_append, hrepeated,
    hidentifiers, hreserved, hempty, errorCount]
  simp [Rule.checkEntity, Nat.add_assoc]

/-- A check finds one error for each name of several entities and those of every entity, so that
there is none exactly if the names of the entities differ, those of the attributes of every entity
do, and all of them match the pattern. -/
theorem countP_all (r : Registry) :
    (all r).countP (·.isError) =
        repeatedCount r.entityNames + (r.entities.map errorCount).sum ∧
      ((∀ d ∈ all r, d.isError = false) ↔ r.entityNames.Nodup ∧ ∀ e ∈ r.entities,
        e.attributeNames.Nodup ∧ MatchesPattern e.name ∧
          ∀ name ∈ e.attributeNames, MatchesPattern name) := by
  constructor
  · rw [all, run, List.countP_append, countP_checkWhole, List.countP_flatMap]
    simp only [Function.comp_def, countP_checkEntity]
  · rw [forall_all_iff]
    simp only [Clean, isIdentifier_iff_matchesPattern]

end DartTriggers.Check
