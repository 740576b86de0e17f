/-
AtaVolume.Proofs.Bytes.Runs — runs of bytes and sectors, looked up byte by byte.

Two runs of bytes are equal if they have one length and agree at every offset
(`ext_getD`), two sectors if they agree at every offset (`Sector.ext_byte`).
For each operation there is a lemma on the length and one on the byte at an
offset, so that every other fact on bytes is a comparison of offsets.
-/
import AtaVolume.Sector

namespace AtaVolume

/-! ## §1 Runs of bytes -/

theorem getD_eq_zero {bytes : Bytes} {i : Nat} (h : bytes.size ≤ i) : bytes.getD i 0 = 0 := by
  rw [Array.getD_eq_getD_getElem?, Array.getElem?_eq_none h]
  rfl

theorem ext_getD {a b : Bytes} (hsize : a.size = b.size)
    (h : ∀ i, i < a.size → a.getD i 0 = b.getD i 0) : a = b := by
  apply Array.ext hsize
  intro i ha hb
  simpa [Array.getD, ha, hb] using h i ha

theorem getD_append (a b : Bytes) (i : Nat) :
    (a ++ b).getD i 0 = if i < a.size then a.getD i 0 else b.getD (i - a.size) 0 := by
  simp only [Array.getD_eq_getD_getElem?, Array.getElem?_append]
  split <;> rfl

theorem getD_extract (bytes : Bytes) (start stop i : Nat) :
    (bytes.extract start stop).getD i 0
      = if i < stop - start then bytes.getD (start + i) 0 else 0 := by
  simp only [Array.getD_eq_getD_getElem?, Array.getElem?_extract]
  by_cases h : i < stop - start
  · rw [if_pos h]
    by_cases hs : start + i < bytes.size
    · rw [if_pos (by omega)]
    · rw [if_neg (by omega), Array.getElem?_eq_none (by omega)]
  · rw [if_neg h, if_neg (by omega)]
    rfl

@[simp] theorem size_zeroes (n : Nat) : (zeroes n).size = n := Array.size_replicate

@[simp] theorem getD_zeroes (n i : Nat) : (zeroes n).getD i 0 = 0 := by
  simp only [zeroes, Array.getD_eq_getD_getElem?, Array.getElem?_replicate]
  split <;> rfl

@[simp] theorem size_fitTo (n : Nat) (bytes : Bytes) : (fitTo n bytes).size = n := by
  simp only [fitTo, Array.size_append, Array.size_extract, Array.size_replicate]
  omega

theorem getD_fitTo (n : Nat) (bytes : Bytes) (i : Nat) :
    (fitTo n bytes).getD i 0 = if i < n then bytes.getD i 0 else 0 := by
  rw [fitTo, getD_append, getD_extract, Array.size_extract,
    show Array.replicate (n - bytes.size) 0 = zeroes (n - bytes.size) from rfl, getD_zeroes,
    Nat.zero_add, Nat.sub_zero, Nat.sub_zero]
  by_cases hn : i < n
  · rw [if_pos hn]
    by_cases hi : i < bytes.size
    · rw [if_pos (by omega)]
    · rw [if_neg (by omega), getD_eq_zero (by omega)]
  · rw [if_neg hn, ite_self]

/-- Zeros stay zeros, however many. -/
theorem fitTo_zeroes (n k : Nat) : fitTo n (zeroes k) = zeroes n := by
  apply ext_getD (by rw [size_fitTo, size_zeroes])
  intro i _
  rw [getD_fitTo, getD_zeroes, getD_zeroes, ite_self]

theorem getD_overwriteFront (front buffer : Bytes) (i : Nat) :
    (overwriteFront front buffer).getD i 0
      = if i < front.size ∧ i < buffer.size then front.getD i 0 else buffer.getD i 0 := by
  rw [overwriteFront, getD_append, getD_extract, getD_extract, Array.size_extract, Nat.zero_add,
    Nat.sub_zero, Nat.sub_zero]
  by_cases hf : i < front.size
  · by_cases hb : i < buffer.size
    · rw [if_pos (by omega), if_pos hb, if_pos ⟨hf, hb⟩]
    · rw [if_neg (by omega), if_neg (by omega), if_neg (by omega), getD_eq_zero (by omega)]
  · rw [if_neg (by omega), if_neg (show ¬ (i < front.size ∧ i < buffer.size) by omega)]
    by_cases hb : i < buffer.size
    · rw [if_pos (by omega)]
      congr 1
      omega
    · rw [if_neg (by omega), getD_eq_zero (by omega)]

theorem overwriteFront_eq_append {front buffer : Bytes} (h : front.size ≤ buffer.size) :
    overwriteFront front buffer = front ++ buffer.extract front.size buffer.size := by
  rw [overwriteFront, Array.extract_eq_self_of_le h]

theorem overwriteFront_empty (buffer : Bytes) : overwriteFront #[] buffer = buffer := by
  rw [overwriteFront_eq_append (Nat.zero_le _), Array.empty_append]
  exact Array.extract_eq_self_of_le (Nat.le_refl _)

/-- A run of the buffer's length replaces all of it. -/
theorem overwriteFront_eq_left {front buffer : Bytes} (h : front.size = buffer.size) :
    overwriteFront front buffer = front := by
  apply ext_getD (by rw [size_overwriteFront, h])
  intro i hi
  rw [size_overwriteFront] at hi
  rw [getD_overwriteFront, if_pos ⟨by omega, hi⟩]

theorem size_sectorBytes {bytes : Bytes} {k : Nat} (h : k < wholeSectors bytes) :
    (sectorBytes bytes k).size = 512 := by
  have : k < bytes.size / 512 := h
  have : (sectorBytes bytes k).size = min ((k + 1) * 512) bytes.size - k * 512 := Array.size_extract
  omega

theorem getD_sectorBytes (bytes : Bytes) (k : Nat) {i : Nat} (h : i < 512) :
    (sectorBytes bytes k).getD i 0 = bytes.getD (k * 512 + i) 0 := by
  have : i < (k + 1) * 512 - k * 512 := by omega
  exact (getD_extract bytes _ _ i).trans (if_pos this)

/-! ## §2 Sectors -/

namespace Sector

theorem byte_eq_getElem (s : Sector) {i : Nat} (h : i < 512) : s.byte i = s[i] := by
  simp [byte, Array.getD, h]

theorem byte_eq_zero (s : Sector) {i : Nat} (h : 512 ≤ i) : s.byte i = 0 :=
  @getD_eq_zero s.toArray i (by rw [Vector.size_toArray]; exact h)

theorem ext_byte {s t : Sector} (h : ∀ i, i < 512 → s.byte i = t.byte i) : s = t := by
  apply Vector.ext
  intro i hi
  rw [← byte_eq_getElem s hi, ← byte_eq_getElem t hi, h i hi]

@[simp] theorem byte_zero (i : Nat) : zero.byte i = 0 := by
  by_cases h : i < 512
  · rw [byte_eq_getElem zero h, zero, Vector.getElem_replicate]
  · exact byte_eq_zero zero (by omega)

theorem byte_ofBytes (bytes : Bytes) {i : Nat} (h : i < 512) :
    (ofBytes bytes).byte i = bytes.getD i 0 := by
  rw [byte_eq_getElem _ h, ofBytes, Vector.getElem_ofFn]

@[simp] theorem size_toBytes (s : Sector) : s.toBytes.size = 512 := s.size_toArray

@[simp] theorem getD_toBytes (s : Sector) (i : Nat) : s.toBytes.getD i 0 = s.byte i := rfl

theorem byte_setIfInBounds (s : Sector) {i : Nat} (h : i < 512) (b : UInt8) (k : Nat) :
    Sector.byte (s.setIfInBounds i b) k = if k = i then b else s.byte k := by
  by_cases hk : k < 512
  · rw [byte_eq_getElem _ hk, byte_eq_getElem _ hk, Vector.getElem_setIfInBounds]
    simp only [eq_comm]
  · rw [byte_eq_zero _ (by omega), byte_eq_zero _ (by omega), if_neg (by omega)]

theorem byte_setWord (s : Sector) {i : Nat} (h : i + 1 < 512) (w : UInt16) (k : Nat) :
    (s.setWord i w).byte k
      = if k = i then w.toUInt8 else if k = i + 1 then (w >>> 8).toUInt8 else s.byte k := by
  rw [setWord, byte_setIfInBounds _ h, byte_setIfInBounds s (by omega)]
  by_cases hi : k = i
  · rw [if_neg (by omega), if_pos hi, if_pos hi]
  · rw [if_neg hi, if_neg hi]

end Sector

end AtaVolume
