/-
AtaVolume.Proofs.Media.FileBytes — the file behind an image is an array of bytes.

A file is kept in pieces of one sector, and the bytes behind its end are zeros
(`FileContent.Ended`). Then the pieces are one way to write down the array
`FileContent.bytes` (`bytes_eq_pieces`): writing a piece replaces the bytes at its place
(`byteAt_writePiece`), and lengthening puts zeros behind the others (`bytes_lengthen`).
-/
import AtaVolume.Proofs.Media.Content

namespace AtaVolume

namespace FileContent

variable {f : FileContent}

/-! ## §1 The bytes of a file -/

/-- The bytes from the start to the end of the file. -/
def bytes (f : FileContent) : Bytes := Array.ofFn fun i : Fin f.length => f.byteAt i

/-- Nothing is kept behind the end. -/
def Ended (f : FileContent) : Prop := ∀ i, f.length ≤ i → f.byteAt i = 0

@[simp] theorem size_bytes (f : FileContent) : f.bytes.size = f.length := Array.size_ofFn

theorem getD_bytes (h : f.Ended) (i : Nat) : f.bytes.getD i 0 = f.byteAt i := by
  by_cases hi : i < f.length
  · simp [bytes, Array.getD, hi]
  · rw [getD_eq_zero (by simpa using hi), h i (by omega)]

/-- The bytes of a piece lie one behind the other. -/
theorem byteAt_piece (f : FileContent) (k : Nat) {i : Nat} (h : i < 512) :
    f.byteAt (k * 512 + i) = (f.piece k).byte i := by
  have hdiv : (k * 512 + i) / 512 = k := by omega
  have hmod : (k * 512 + i) % 512 = i := by omega
  simp [byteAt, hdiv, hmod]

/-- A piece behind the end is zeros. -/
theorem piece_eq_zero (h : f.Ended) {k : Nat} (hk : f.length ≤ k * 512) :
    f.piece k = Sector.zero := by
  apply Sector.ext_byte
  intro i hi
  have hbehind : f.byteAt (k * 512 + i) = 0 := h _ (Nat.le_add_right_of_le hk)
  rw [← byteAt_piece f k hi, hbehind, Sector.byte_zero]

/-- The file as its pieces, one behind the other. -/
theorem bytes_eq_pieces (h : f.Ended) {n : Nat} (hn : f.length = n * 512) :
    f.bytes = Sectors.bytes f.piece 0 n := by
  apply ext_getD
  · rw [size_bytes, Sectors.size_bytes, hn]
  · intro i hi
    rw [size_bytes, hn] at hi
    rw [getD_bytes h, Sectors.getD_bytes _ _ hi, Nat.zero_add]
    rfl

/-! ## §2 New and longer files -/

theorem ended_empty : empty.Ended := by
  intro i _
  simp [byteAt, piece, empty]

theorem byteAt_lengthen (f : FileContent) (n i : Nat) : (f.lengthen n).byteAt i = f.byteAt i := rfl

theorem Ended.lengthen (h : f.Ended) (n : Nat) : (f.lengthen n).Ended := by
  intro i hi
  exact h i (Nat.le_trans (Nat.le_max_left ..) hi)

/-- **A file is lengthened by zeros.** -/
theorem bytes_lengthen (h : f.Ended) (n : Nat) :
    (f.lengthen n).bytes = f.bytes ++ zeroes (n - f.length) := by
  apply ext_getD
  · simp only [size_bytes, Array.size_append, size_zeroes, lengthen]
    omega
  · intro i _
    rw [getD_bytes (h.lengthen n), getD_append, getD_bytes h, getD_zeroes, byteAt_lengthen,
      size_bytes]
    split
    · rfl
    · exact h i (by omega)

/-! ## §3 Writing -/

theorem byteAt_writePiece (f : FileContent) (k : Nat) (data : Sector) (i : Nat) :
    (f.writePiece k data).byteAt i
      = if k * 512 ≤ i ∧ i < (k + 1) * 512 then data.byte (i - k * 512) else f.byteAt i := by
  simp only [byteAt, piece_writePiece]
  by_cases h : i / 512 = k
  · have hoffset : i % 512 = i - k * 512 := by omega
    rw [if_pos h, if_pos (by omega), hoffset]
  · rw [if_neg h, if_neg (by omega)]

theorem Ended.writePiece (h : f.Ended) (k : Nat) (data : Sector) :
    (f.writePiece k data).Ended := by
  intro i hi
  have hlength : max f.length ((k + 1) * 512) ≤ i := hi
  rw [byteAt_writePiece, if_neg (by omega)]
  exact h i (by omega)

end FileContent

end AtaVolume
