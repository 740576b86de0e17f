/-
AtaVolume.Proofs.Bytes.Words — a number and its bytes determine each other.

`toNat_join16` and `toNat_join32` give the value of a number that is read from
bytes; everything else is arithmetic on that. `join16_le16` and `join32_le32`
say that a number written byte by byte reads back, and the lemmas
`le16_join16` and `le32_join32` that bytes read as a number are its bytes.
-/
import Mathlib.Data.UInt
import Mathlib.Tactic.Ring
import AtaVolume.Bytes.LittleEndian

namespace AtaVolume.LittleEndian

/-! ## §1 Values -/

/-- A value shifted beyond another one is added to it by `|||`. -/
theorem or_shiftLeft_eq_add {a : Nat} (b : Nat) {i : Nat} (h : a < 2 ^ i) :
    a ||| b <<< i = a + b * 2 ^ i := by
  rw [Nat.or_comm, ← Nat.shiftLeft_add_eq_or_of_lt h, Nat.shiftLeft_eq, Nat.add_comm]

theorem toNat_join16 (a b : UInt8) : (join16 a b).toNat = a.toNat + b.toNat * 2 ^ 8 := by
  have ha := a.toNat_lt
  have hb := b.toNat_lt
  have h := or_shiftLeft_eq_add b.toNat ha
  simp only [join16, UInt16.toNat_or, UInt16.toNat_shiftLeft, UInt8.toNat_toUInt16]
  rw [show (8 : UInt16).toNat % 16 = 8 from rfl, Nat.mod_eq_of_lt (by rw [Nat.shiftLeft_eq]; omega), h]

theorem toNat_join32 (a b c d : UInt8) :
    (join32 a b c d).toNat
      = a.toNat + b.toNat * 2 ^ 8 + c.toNat * 2 ^ 16 + d.toNat * 2 ^ 24 := by
  have ha := a.toNat_lt
  have hb := b.toNat_lt
  have hc := c.toNat_lt
  have hd := d.toNat_lt
  simp only [join32, UInt32.toNat_or, UInt32.toNat_shiftLeft, UInt8.toNat_toUInt32]
  rw [show (8 : UInt32).toNat % 32 = 8 from rfl, show (16 : UInt32).toNat % 32 = 16 from rfl,
    show (24 : UInt32).toNat % 32 = 24 from rfl]
  rw [Nat.mod_eq_of_lt (a := b.toNat <<< 8) (by rw [Nat.shiftLeft_eq]; omega),
    Nat.mod_eq_of_lt (a := c.toNat <<< 16) (by rw [Nat.shiftLeft_eq]; omega),
    Nat.mod_eq_of_lt (a := d.toNat <<< 24) (by rw [Nat.shiftLeft_eq]; omega)]
  rw [or_shiftLeft_eq_add b.toNat ha,
    or_shiftLeft_eq_add c.toNat (a := a.toNat + b.toNat * 2 ^ 8) (i := 16) (by omega),
    or_shiftLeft_eq_add d.toNat (i := 24) (by omega)]

/-- Byte `i` of a 16-bit number is what is left of it after division. -/
theorem toNat_byte16 (w : UInt16) : (w >>> 8).toUInt8.toNat = w.toNat / 2 ^ 8 := by
  have := w.toNat_lt
  simp [Nat.shiftRight_eq_div_pow]
  omega

theorem toNat_byte32 (w : UInt32) :
    (w >>> 8).toUInt8.toNat = w.toNat / 2 ^ 8 % 2 ^ 8
      ∧ (w >>> 16).toUInt8.toNat = w.toNat / 2 ^ 16 % 2 ^ 8
      ∧ (w >>> 24).toUInt8.toNat = w.toNat / 2 ^ 24 % 2 ^ 8 := by
  refine ⟨?_, ?_, ?_⟩ <;> simp [Nat.shiftRight_eq_div_pow]

/-! ## §2 Round trips -/

theorem join16_le16 (w : UInt16) : join16 w.toUInt8 (w >>> 8).toUInt8 = w := by
  apply UInt16.toNat_inj.1
  rw [toNat_join16, toNat_byte16, UInt16.toNat_toUInt8]
  omega

theorem join32_le32 (w : UInt32) :
    join32 w.toUInt8 (w >>> 8).toUInt8 (w >>> 16).toUInt8 (w >>> 24).toUInt8 = w := by
  have hw := w.toNat_lt
  obtain ⟨h1, h2, h3⟩ := toNat_byte32 w
  apply UInt32.toNat_inj.1
  rw [toNat_join32, h1, h2, h3, UInt32.toNat_toUInt8]
  omega

theorem le16_join16 (a b : UInt8) : le16 (join16 a b) = [a, b] := by
  have ha := a.toNat_lt
  have hb := b.toNat_lt
  have h := toNat_join16 a b
  simp only [le16, List.cons.injEq, and_true]
  constructor <;> apply UInt8.toNat_inj.1
  · rw [UInt16.toNat_toUInt8]; omega
  · rw [toNat_byte16]; omega

theorem le32_join32 (a b c d : UInt8) : le32 (join32 a b c d) = [a, b, c, d] := by
  have ha := a.toNat_lt
  have hb := b.toNat_lt
  have hc := c.toNat_lt
  have hd := d.toNat_lt
  have h := toNat_join32 a b c d
  obtain ⟨h1, h2, h3⟩ := toNat_byte32 (join32 a b c d)
  simp only [le32, List.cons.injEq, and_true]
  refine ⟨?_, ?_, ?_, ?_⟩ <;> apply UInt8.toNat_inj.1
  · rw [UInt32.toNat_toUInt8]; omega
  · rw [h1]; omega
  · rw [h2]; omega
  · rw [h3]; omega

end AtaVolume.LittleEndian
