import DartTriggers.Text.Bytes
/-!
Bytes as characters. Where bytes are worked on as text whatever they stand for, each one is taken
as the character of its number, so that a character is always one byte.
-/

namespace DartTriggers.Bytes

/-- Each byte as a character. -/
def toOctets (b : Bytes) : String :=
  .ofList (b.map fun b => Char.ofNat b.toNat)

/-- The bytes that characters stand for. -/
def ofOctets (s : String) : Bytes :=
  s.toList.map fun c => UInt8.ofNat c.toNat

theorem ofNat_toNat_ofNat (b : UInt8) : UInt8.ofNat (Char.ofNat b.toNat).toNat = b := by
  have valid : b.toNat.isValidChar := Or.inl (Nat.lt_trans b.toNat_lt (by decide))
  rw [Char.ofNat, dif_pos valid]
  exact UInt8.ofNat_toNat

/-- Nothing is lost on the way to characters and back. -/
theorem ofOctets_toOctets (b : Bytes) : ofOctets b.toOctets = b := by
  simp [ofOctets, toOctets, Function.comp_def, ofNat_toNat_ofNat]

end DartTriggers.Bytes
