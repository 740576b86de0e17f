/-
AtaVolume.Proofs.Volume.Bitmap — the bitmap tells about each block by itself.

`bit_eq_getLsbD` gives the bit of a block as a bit of a bit vector, and
everything else follows bit by bit: marking a block changes its own bit only
(`bit_setUsed`, `bit_setFree`), the search passes over used blocks only
(`searchFree_eq_some`, `searchFree_eq_none`), and the numbers that are kept
beside the bits count them (`countUsed_eq_countP`).
-/
import AtaVolume.Proofs.Bytes.Runs
import AtaVolume.Volume.Bitmap

namespace AtaVolume

namespace BlockBitmap

/-! ## §1 Bits -/

theorem and_mask_ne_zero (x : UInt8) (block : Nat) :
    (x &&& mask block != 0) = x.toBitVec.getLsbD (block % 8) := by
  have hall : ∀ n : Fin 256, ∀ k : Fin 8,
      (UInt8.ofNat n.val &&& (1 <<< UInt8.ofNat k.val) != 0)
        = (UInt8.ofNat n.val).toBitVec.getLsbD k.val := by decide +kernel
  have := hall ⟨x.toNat, x.toNat_lt⟩ ⟨block % 8, Nat.mod_lt _ (by decide)⟩
  simp only [UInt8.ofNat_toNat] at this
  exact this

/-- The bit of a block is a bit of its byte. -/
theorem bit_eq_getLsbD (bits : Bytes) (block : Nat) :
    bit bits block = (bits.getD (block / 8) 0).toBitVec.getLsbD (block % 8) :=
  and_mask_ne_zero _ block

theorem getLsbD_mask (block : Nat) {i : Nat} (h : i < 8) :
    (mask block).toBitVec.getLsbD i = decide (i = block % 8) := by
  have hall : ∀ k i : Fin 8,
      (1 <<< UInt8.ofNat k.val : UInt8).toBitVec.getLsbD i.val = decide (i.val = k.val) := by
    decide
  exact hall ⟨block % 8, Nat.mod_lt _ (by decide)⟩ ⟨i, h⟩

theorem bit_zeroes (n block : Nat) : bit (zeroes n) block = false := by
  rw [bit_eq_getLsbD, getD_zeroes]
  simp

theorem getD_modify (bits : Bytes) (f : UInt8 → UInt8) {i : Nat} (h : i < bits.size) (j : Nat) :
    (bits.modify i f).getD j 0 = if i = j then f (bits.getD j 0) else bits.getD j 0 := by
  simp only [Array.getD_eq_getD_getElem?, Array.getElem?_modify]
  by_cases hij : i = j
  · subst hij
    simp [h]
  · simp [hij]

/-- A bit of the bits with one byte changed. -/
theorem bit_modify (bits : Bytes) (f : UInt8 → UInt8) {block : Nat} (h : block / 8 < bits.size)
    (k : Nat) :
    bit (bits.modify (block / 8) f) k
      = if block / 8 = k / 8 then (f (bits.getD (k / 8) 0)).toBitVec.getLsbD (k % 8)
        else bit bits k := by
  rw [bit_eq_getLsbD, getD_modify _ _ h]
  split
  · rfl
  · rw [bit_eq_getLsbD]

/-! ## §2 Marking blocks -/

variable {m : BlockBitmap}

theorem isUsed_of_lt {block : UInt32} (h : block.toNat < m.total.toNat) :
    m.isUsed block = bit m.bits block.toNat := by
  rw [isUsed, if_neg (by rw [UInt32.le_iff_toNat_le]; omega)]

theorem isUsed_of_le {block : UInt32} (h : m.total.toNat ≤ block.toNat) :
    m.isUsed block = true := by
  rw [isUsed, if_pos (by rw [UInt32.le_iff_toNat_le]; omega)]

/-- Marking a block as used sets its bit and no other. -/
theorem bit_setUsed {block : UInt32} (hblock : block.toNat < m.total.toNat)
    (hsize : m.total.toNat ≤ m.bits.size * 8) (k : Nat) :
    bit (m.setUsed block).2.bits k = (bit m.bits k || k == block.toNat) := by
  rw [setUsed, isUsed_of_lt hblock]
  by_cases hused : bit m.bits block.toNat = true
  · rw [if_pos hused]
    by_cases hk : k = block.toNat
    · simp [hk, hused]
    · simp [hk]
  · rw [if_neg hused]
    simp only
    rw [bit_modify _ _ (by omega)]
    by_cases hbyte : block.toNat / 8 = k / 8
    · have hbit : (k % 8 = block.toNat % 8) ↔ k = block.toNat := by omega
      rw [if_pos hbyte, UInt8.toBitVec_or, BitVec.getLsbD_or, getLsbD_mask _ (Nat.mod_lt _ (by decide)),
        bit_eq_getLsbD]
      simp only [hbit]
      rfl
    · have hk : k ≠ block.toNat := by
        rintro rfl
        exact hbyte rfl
      simp [hbyte, hk]

/-- Marking a block as free clears its bit and no other. -/
theorem bit_setFree {block : UInt32} (hblock : block.toNat < m.total.toNat)
    (hsize : m.total.toNat ≤ m.bits.size * 8) (k : Nat) :
    bit (m.setFree block).2.bits k = (bit m.bits k && k != block.toNat) := by
  rw [setFree, if_neg (by rw [UInt32.le_iff_toNat_le]; omega), isUsed_of_lt hblock]
  by_cases hused : bit m.bits block.toNat = true
  · rw [if_pos hused]
    simp only
    rw [bit_modify _ _ (by omega)]
    by_cases hbyte : block.toNat / 8 = k / 8
    · have hlt : k % 8 < 8 := Nat.mod_lt _ (by decide)
      have hbit : (k % 8 = block.toNat % 8) ↔ k = block.toNat := by omega
      rw [if_pos hbyte, UInt8.toBitVec_and, UInt8.toBitVec_not, BitVec.getLsbD_and,
        BitVec.getLsbD_not, getLsbD_mask _ hlt, bit_eq_getLsbD]
      simp only [hbit, hlt, decide_true, Bool.true_and]
      rfl
    · have hk : k ≠ block.toNat := by
        rintro rfl
        exact hbyte rfl
      simp [hbyte, hk]
  · rw [if_neg hused]
    by_cases hk : k = block.toNat
    · simp [hk, hused]
    · simp [hk]

@[simp] theorem total_setUsed (block : UInt32) : (m.setUsed block).2.total = m.total := by
  rw [setUsed]
  split <;> rfl

@[simp] theorem size_bits_setUsed (block : UInt32) :
    (m.setUsed block).2.bits.size = m.bits.size := by
  rw [setUsed]
  split <;> simp

@[simp] theorem total_setFree (block : UInt32) : (m.setFree block).2.total = m.total := by
  rw [setFree]
  split
  · rfl
  · split <;> rfl

@[simp] theorem size_bits_setFree (block : UInt32) :
    (m.setFree block).2.bits.size = m.bits.size := by
  rw [setFree]
  split
  · rfl
  · split <;> simp

/-! ## §3 First fit -/

/-- All blocks of a full byte are used. -/
theorem bit_of_full {bits : Bytes} {block : Nat} (h : bits.getD (block / 8) 0 = 0xFF) :
    bit bits block = true := by
  have hall : ∀ k : Fin 8, (0xFF : UInt8).toBitVec.getLsbD k.val = true := by decide
  rw [bit_eq_getLsbD, h]
  exact hall ⟨block % 8, Nat.mod_lt _ (by decide)⟩

/-- **A search that finds a block has passed over used ones only.** -/
theorem searchFree_eq_some {bits : Bytes} {total start block : Nat}
    (h : searchFree bits total start = some block) :
    start ≤ block ∧ block < total ∧ bit bits block = false
      ∧ ∀ k, start ≤ k → k < block → bit bits k = true := by
  fun_induction searchFree bits total start with
  | case1 start hlt hfull ih =>
    obtain ⟨hle, hblock, hfree, hused⟩ := ih h
    refine ⟨by omega, hblock, hfree, fun k hk hk' => ?_⟩
    by_cases hbyte : k < start + 8
    · apply bit_of_full
      rw [show k / 8 = start / 8 by omega]
      exact hfull.2
    · exact hused k (by omega) hk'
  | case2 start hlt hfull hbit ih =>
    obtain ⟨hle, hblock, hfree, hused⟩ := ih h
    refine ⟨by omega, hblock, hfree, fun k hk hk' => ?_⟩
    by_cases hstart : k = start
    · rw [hstart]
      exact hbit
    · exact hused k (by omega) hk'
  | case3 start hlt hfull hbit =>
    cases h
    exact ⟨Nat.le_refl _, hlt, by simpa using hbit, fun k hk hk' => absurd hk' (by omega)⟩
  | case4 start hlt => cases h

/-- A search that finds nothing has passed over all blocks. -/
theorem searchFree_eq_none {bits : Bytes} {total start : Nat}
    (h : searchFree bits total start = none) {k : Nat} (hk : start ≤ k) (hk' : k < total) :
    bit bits k = true := by
  fun_induction searchFree bits total start with
  | case1 start hlt hfull ih =>
    by_cases hbyte : k < start + 8
    · apply bit_of_full
      rw [show k / 8 = start / 8 by omega]
      exact hfull.2
    · exact ih h (by omega)
  | case2 start hlt hfull hbit ih =>
    by_cases hstart : k = start
    · rw [hstart]
      exact hbit
    · exact ih h (by omega)
  | case3 start hlt hfull hbit => cases h
  | case4 start hlt => exact absurd hk' (by omega)

theorem firstFree_eq_some {start block : UInt32} (h : m.firstFree start = some block) :
    start.toNat ≤ block.toNat ∧ block.toNat < m.total.toNat ∧ bit m.bits block.toNat = false
      ∧ ∀ k, start.toNat ≤ k → k < block.toNat → bit m.bits k = true := by
  obtain ⟨b, hb, rfl⟩ := Option.map_eq_some_iff.1 h
  have htotal := m.total.toNat_lt
  have hsearch := searchFree_eq_some hb
  rw [UInt32.toNat_ofNat_of_lt' (show b < 2 ^ 32 by omega)]
  exact hsearch

theorem firstFree_eq_none {start : UInt32} (h : m.firstFree start = none) {k : Nat}
    (hk : start.toNat ≤ k) (hk' : k < m.total.toNat) : bit m.bits k = true :=
  searchFree_eq_none (Option.map_eq_none_iff.1 h) hk hk'

/-! ## §4 Bytes -/

theorem bit_fitTo (bytes : Bytes) {n block : Nat} (h : block / 8 < n) :
    bit (fitTo n bytes) block = bit bytes block := by
  rw [bit_eq_getLsbD, getD_fitTo, if_pos h, bit_eq_getLsbD]

/-- The bits that were read are those on the drive. -/
theorem bit_ofBytes (bytes : Bytes) {total : UInt32} {block : Nat} (h : block < total.toNat) :
    bit (ofBytes bytes total).bits block = bit bytes block :=
  bit_fitTo bytes (show block / 8 < (total.toNat + 7) / 8 by omega)

@[simp] theorem total_ofBytes (bytes : Bytes) (total : UInt32) :
    (ofBytes bytes total).total = total := rfl

@[simp] theorem size_bits_ofBytes (bytes : Bytes) (total : UInt32) :
    (ofBytes bytes total).bits.size = (total.toNat + 7) / 8 :=
  size_fitTo _ _

theorem size_toBytes (h : m.bits.size = (m.total.toNat + 7) / 8) :
    m.toBytes.size = (m.total.toNat + 4095) / 4096 * 512 := by
  have hlength : m.sectorLength = (m.total.toNat + 4095) / 4096 := by
    show (m.bits.size + 511) / 512 = _
    omega
  rw [toBytes, size_fitTo, hlength]

/-- The padding behind the bits is not among them. -/
theorem bit_toBytes_of_lt {block : Nat} (h : block / 8 < m.bits.size) :
    bit m.toBytes block = bit m.bits block := by
  apply bit_fitTo
  show block / 8 < (m.bits.size + 511) / 512 * 512
  omega

theorem bit_toBytes (h : m.bits.size = (m.total.toNat + 7) / 8) {block : Nat}
    (hblock : block < m.total.toNat) : bit m.toBytes block = bit m.bits block :=
  bit_toBytes_of_lt (by omega)

/-- The padding is zero. -/
theorem getD_toBytes_of_le {k : Nat} (h : m.bits.size ≤ k) : m.toBytes.getD k 0 = 0 := by
  rw [toBytes, getD_fitTo]
  split
  · exact getD_eq_zero h
  · rfl

/-! ## §5 Counting -/

theorem popCount_eq_countP (x : UInt8) :
    popCount x = (List.range 8).countP fun k => x.toBitVec.getLsbD k := by
  have hall : ∀ n : Fin 256, popCount (UInt8.ofNat n.val)
      = (List.range 8).countP fun k => (UInt8.ofNat n.val).toBitVec.getLsbD k := by decide +kernel
  have := hall ⟨x.toNat, x.toNat_lt⟩
  simp only [UInt8.ofNat_toNat] at this
  exact this

theorem range_append (a n : Nat) : List.range (a + n) = List.range a ++ List.range' a n := by
  rw [List.range_eq_range', List.range_eq_range', ← List.range'_append_1, Nat.zero_add]

theorem getLsbD_lowBits {n k : Nat} (hn : n < 8) (hk : k < 8) (x : UInt8) :
    (lowBits n x).toBitVec.getLsbD k = (x.toBitVec.getLsbD k && decide (k < n)) := by
  have hall : ∀ n k : Fin 8,
      (UInt8.ofNat ((1 <<< n.val) - 1)).toBitVec.getLsbD k.val = decide (k.val < n.val) := by decide
  rw [lowBits, UInt8.toBitVec_and, BitVec.getLsbD_and, hall ⟨n, hn⟩ ⟨k, hk⟩]

theorem popCount_lowBits {n : Nat} (hn : n < 8) (x : UInt8) :
    popCount (lowBits n x) = (List.range n).countP fun k => x.toBitVec.getLsbD k := by
  have hsplit : List.range 8 = List.range n ++ List.range' n (8 - n) := by
    rw [← range_append, Nat.add_sub_cancel' (by omega)]
  have hlow : ((List.range n).countP fun k => (lowBits n x).toBitVec.getLsbD k)
      = (List.range n).countP fun k => x.toBitVec.getLsbD k := by
    apply List.countP_congr
    intro k hk
    rw [List.mem_range] at hk
    rw [getLsbD_lowBits hn (by omega), decide_eq_true hk, Bool.and_true]
  have hhigh : ((List.range' n (8 - n)).countP fun k => (lowBits n x).toBitVec.getLsbD k) = 0 := by
    rw [List.countP_eq_zero]
    intro k hk
    rw [List.mem_range'_1] at hk
    rw [getLsbD_lowBits hn (by omega), decide_eq_false (by omega), Bool.and_false]
    exact Bool.false_ne_true
  rw [popCount_eq_countP, hsplit, List.countP_append, hlow, hhigh, Nat.add_zero]

/-- The used blocks of one byte. -/
theorem countP_byte (bits : Bytes) (byte : Nat) {n : Nat} (hn : n ≤ 8) :
    ((List.range' (byte * 8) n).countP fun k => bit bits k)
      = (List.range n).countP fun k => (bits.getD byte 0).toBitVec.getLsbD k := by
  rw [List.range'_eq_map_range, List.countP_map]
  apply List.countP_congr
  intro k hk
  rw [List.mem_range] at hk
  rw [Function.comp_apply, bit_eq_getLsbD, show (byte * 8 + k) / 8 = byte by omega,
    show (byte * 8 + k) % 8 = k by omega]

/-- The used blocks of the first bytes. -/
theorem foldl_popCount (bits : Bytes) {full : Nat} (h : full ≤ bits.size) :
    bits.foldl (fun n b => n + popCount b) 0 0 full
      = (List.range (full * 8)).countP fun k => bit bits k := by
  induction full with
  | zero =>
    rw [Array.foldl_eq_foldl_extract]
    simp
  | succ full ih =>
    have ih := ih (by omega)
    rw [Array.foldl_eq_foldl_extract] at ih ⊢
    have hbyte : bits[full] = bits.getD full 0 := by simp [Array.getD, show full < bits.size by omega]
    rw [Array.extract_succ_right (by omega) (by omega), Array.foldl_push, ih, popCount_eq_countP,
      Nat.succ_mul, range_append, List.countP_append, countP_byte bits full (Nat.le_refl 8), hbyte]

/-- **The count of used blocks is the number of bits set.** -/
theorem countUsed_eq_countP {bits : Bytes} {total : UInt32} (h : total.toNat ≤ bits.size * 8) :
    countUsed bits total = (List.range total.toNat).countP fun k => bit bits k := by
  have hsplit : total.toNat / 8 * 8 + total.toNat % 8 = total.toNat := by omega
  rw [countUsed, foldl_popCount bits (by omega), popCount_lowBits (Nat.mod_lt _ (by decide)),
    ← countP_byte bits _ (by omega), ← List.countP_append, ← range_append, hsplit]

/-- The bitmap of zeros is the blank one. -/
theorem ofBytes_zeroes (n : Nat) (total : UInt32) : ofBytes (zeroes n) total = blank total := by
  have hcount : countUsed (zeroes (byteLength total)) total = 0 := by
    rw [countUsed_eq_countP, List.countP_eq_zero]
    · intro b _
      rw [bit_zeroes]
      exact Bool.false_ne_true
    · rw [size_zeroes, byteLength]
      omega
  rw [ofBytes, fitTo_zeroes, recount, blank, hcount]
  simp

/-- The number of free blocks that is kept beside bits that were read. -/
theorem freeCount_ofBytes {bytes : Bytes} {total : UInt32} :
    (ofBytes bytes total).freeCount
      = total - UInt32.ofNat ((List.range total.toNat).countP fun k => bit bytes k) := by
  have hcount : countUsed (ofBytes bytes total).bits total
      = (List.range total.toNat).countP fun k => bit (ofBytes bytes total).bits k :=
    countUsed_eq_countP (by rw [size_bits_ofBytes]; omega)
  have hbits : ((List.range total.toNat).countP fun k => bit (ofBytes bytes total).bits k)
      = (List.range total.toNat).countP fun k => bit bytes k :=
    List.countP_congr fun k hk => by rw [bit_ofBytes bytes (List.mem_range.1 hk)]
  rw [← hbits, ← hcount]
  rfl

end BlockBitmap

end AtaVolume
