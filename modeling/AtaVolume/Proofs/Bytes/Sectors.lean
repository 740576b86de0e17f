/-
AtaVolume.Proofs.Bytes.Sectors — the content of a drive as a function.

`Sectors` gives the content of every sector number. It is what media of all
kinds are compared by, and what a volume sees of its drive. A run of bytes is
cut into sectors by `Sectors.ofRun`, `Sectors.bytes` reads a range as one run,
and `Sectors.overlay` replaces a range; `bytes_overlay_part` says that what was
laid over a range is what any part of the range reads as.
-/
import Mathlib.Logic.Function.Basic
import AtaVolume.Proofs.Bytes.Runs

namespace AtaVolume

/-- The content of each sector. -/
abbrev Sectors := Nat → Sector

namespace Sectors

/-- The sectors of a run of bytes. -/
def ofRun (data : Bytes) : Sectors := fun k => Sector.ofBytes (sectorBytes data k)

/-- The bytes of the `n` sectors from `lba` on. -/
def bytes (m : Sectors) (lba n : Nat) : Bytes :=
  Array.ofFn fun i : Fin (n * 512) => (m (lba + i.val / 512)).byte (i.val % 512)

/-- `m` with the `n` sectors from `lba` on replaced by the first ones of
`source`. -/
def overlay (m : Sectors) (lba n : Nat) (source : Sectors) : Sectors := fun j =>
  if lba ≤ j ∧ j < lba + n then source (j - lba) else m j

/-! ## §1 Reading ranges -/

@[simp] theorem size_bytes (m : Sectors) (lba n : Nat) : (m.bytes lba n).size = n * 512 :=
  Array.size_ofFn

theorem getD_bytes (m : Sectors) (lba : Nat) {n i : Nat} (h : i < n * 512) :
    (m.bytes lba n).getD i 0 = (m (lba + i / 512)).byte (i % 512) := by
  simp [bytes, Array.getD, h]

theorem bytes_zero (m : Sectors) (lba : Nat) : m.bytes lba 0 = #[] :=
  Array.eq_empty_of_size_eq_zero (by rw [size_bytes, Nat.zero_mul])

theorem bytes_one (m : Sectors) (lba : Nat) : m.bytes lba 1 = (m lba).toBytes := by
  apply ext_getD (by rw [size_bytes, Sector.size_toBytes, Nat.one_mul])
  intro i hi
  rw [size_bytes] at hi
  rw [getD_bytes m lba hi, Sector.getD_toBytes, Nat.div_eq_of_lt (by omega),
    Nat.mod_eq_of_lt (by omega), Nat.add_zero]

/-- A range reads as its two parts, one after the other. -/
theorem bytes_add (m : Sectors) (lba a b : Nat) :
    m.bytes lba (a + b) = m.bytes lba a ++ m.bytes (lba + a) b := by
  apply ext_getD (by simp only [size_bytes, Array.size_append]; omega)
  intro i hi
  rw [size_bytes] at hi
  rw [getD_bytes m lba hi, getD_append, size_bytes]
  by_cases h : i < a * 512
  · rw [if_pos h, getD_bytes m lba h]
  · have hb : i - a * 512 < b * 512 := by omega
    have hdiv : i / 512 = a + (i - a * 512) / 512 := by omega
    have hmod : i % 512 = (i - a * 512) % 512 := by omega
    rw [if_neg h, getD_bytes m _ hb, hdiv, hmod, Nat.add_assoc]

/-- Equal sectors read equal. -/
theorem bytes_congr {m m' : Sectors} {lba n : Nat}
    (h : ∀ j, lba ≤ j → j < lba + n → m j = m' j) : m.bytes lba n = m'.bytes lba n := by
  apply ext_getD (by rw [size_bytes, size_bytes])
  intro i hi
  rw [size_bytes] at hi
  rw [getD_bytes m lba hi, getD_bytes m' lba hi, h _ (by omega) (by omega)]

/-- Sectors of zeros read as zeros. -/
theorem bytes_of_zero {m : Sectors} {lba n : Nat}
    (h : ∀ j, lba ≤ j → j < lba + n → m j = Sector.zero) : m.bytes lba n = zeroes (n * 512) := by
  apply ext_getD (by rw [size_bytes, size_zeroes])
  intro i hi
  rw [size_bytes] at hi
  rw [getD_bytes m lba hi, h _ (by omega) (by omega), Sector.byte_zero, getD_zeroes]

theorem sectorBytes_bytes (m : Sectors) (lba : Nat) {n k : Nat} (h : k < n) :
    sectorBytes (m.bytes lba n) k = (m (lba + k)).toBytes := by
  have hk : k < wholeSectors (m.bytes lba n) := by
    show k < (m.bytes lba n).size / 512
    rw [size_bytes]
    omega
  apply ext_getD (by rw [size_sectorBytes hk, Sector.size_toBytes])
  intro i hi
  rw [size_sectorBytes hk] at hi
  rw [getD_sectorBytes _ k hi, getD_bytes m lba (by omega), Sector.getD_toBytes]
  congr 2 <;> omega

/-- A run of whole sectors is what its sectors read as. -/
theorem bytes_ofRun {data : Bytes} {n : Nat} (h : data.size = n * 512) :
    (ofRun data).bytes 0 n = data := by
  apply ext_getD (by rw [size_bytes, h])
  intro i hi
  rw [size_bytes] at hi
  have hk : i % 512 < 512 := Nat.mod_lt _ (by decide)
  rw [getD_bytes _ 0 hi, ofRun, Sector.byte_ofBytes _ hk, getD_sectorBytes _ _ hk]
  congr 1
  omega

/-- A sector as a run of bytes has itself as its only sector. -/
theorem ofRun_toBytes (s : Sector) : ofRun s.toBytes 0 = s := by
  apply Sector.ext_byte
  intro i hi
  rw [ofRun, Sector.byte_ofBytes _ hi, getD_sectorBytes _ _ hi, Sector.getD_toBytes]
  congr 1
  omega

theorem ofRun_zeroes (n k : Nat) : ofRun (zeroes n) k = Sector.zero := by
  apply Sector.ext_byte
  intro i hi
  rw [ofRun, Sector.byte_ofBytes _ hi, getD_sectorBytes _ _ hi, getD_zeroes, Sector.byte_zero]

/-! ## §2 Replacing ranges -/

theorem overlay_apply_of_mem (m : Sectors) {lba n : Nat} (source : Sectors) {j : Nat}
    (h₁ : lba ≤ j) (h₂ : j < lba + n) : m.overlay lba n source j = source (j - lba) :=
  if_pos ⟨h₁, h₂⟩

theorem overlay_apply_of_not_mem (m : Sectors) {lba n : Nat} (source : Sectors) {j : Nat}
    (h : ¬ (lba ≤ j ∧ j < lba + n)) : m.overlay lba n source j = m j :=
  if_neg h

@[simp] theorem overlay_zero (m : Sectors) (lba : Nat) (source : Sectors) :
    m.overlay lba 0 source = m := by
  funext j
  exact overlay_apply_of_not_mem m source (by omega)

/-- A range can be replaced in two steps. -/
theorem overlay_add (m : Sectors) (lba a b : Nat) (source : Sectors) :
    (m.overlay lba a source).overlay (lba + a) b (fun k => source (a + k))
      = m.overlay lba (a + b) source := by
  funext j
  by_cases h : lba + a ≤ j ∧ j < lba + a + b
  · rw [overlay_apply_of_mem _ _ h.1 h.2, overlay_apply_of_mem _ _ (by omega) (by omega)]
    congr 1
    omega
  · rw [overlay_apply_of_not_mem _ _ h]
    by_cases ha : lba ≤ j ∧ j < lba + a
    · rw [overlay_apply_of_mem _ _ ha.1 ha.2, overlay_apply_of_mem _ _ (by omega) (by omega)]
    · rw [overlay_apply_of_not_mem _ _ ha, overlay_apply_of_not_mem _ _ (by omega)]

/-- One sector is replaced at a time. -/
theorem overlay_succ (m : Sectors) (lba n : Nat) (source : Sectors) :
    m.overlay lba (n + 1) source = Function.update (m.overlay lba n source) (lba + n) (source n) := by
  funext j
  rw [← overlay_add m lba n 1 source]
  by_cases h : j = lba + n
  · subst h
    rw [Function.update_self, overlay_apply_of_mem _ _ (Nat.le_refl _) (by omega)]
    simp
  · rw [Function.update_of_ne h, overlay_apply_of_not_mem _ _ (by omega)]

/-- The first sector of a range can be replaced before the others. -/
theorem overlay_front (m : Sectors) (lba n : Nat) (source : Sectors) :
    Sectors.overlay (Function.update m lba (source 0)) (lba + 1) n (fun k => source (k + 1))
      = m.overlay lba (n + 1) source := by
  have hone : m.overlay lba 1 source = Function.update m lba (source 0) := by
    rw [overlay_succ, overlay_zero, Nat.add_zero]
  rw [← hone, Nat.add_comm n 1, ← overlay_add m lba 1 n source]
  simp only [Nat.add_comm]

/-- **What was laid over a range is what a part of it reads as.** -/
theorem bytes_overlay_part (m : Sectors) (lba : Nat) {data : Bytes} {n o k : Nat}
    (h : data.size = n * 512) (hk : o + k ≤ n) :
    (m.overlay lba n (ofRun data)).bytes (lba + o) k = data.extract (o * 512) ((o + k) * 512) := by
  apply ext_getD (by rw [size_bytes, Array.size_extract, h]; omega)
  intro i hi
  rw [size_bytes] at hi
  have hb : i % 512 < 512 := Nat.mod_lt _ (by decide)
  have hindex : (lba + o + i / 512 - lba) * 512 + i % 512 = o * 512 + i := by omega
  rw [getD_bytes _ _ hi, overlay_apply_of_mem _ _ (by omega) (by omega), ofRun,
    Sector.byte_ofBytes _ hb, getD_sectorBytes _ _ hb, hindex, getD_extract, if_pos (by omega)]

/-- What was laid over a range is what it reads as. -/
theorem bytes_overlay_ofRun (m : Sectors) (lba : Nat) {data : Bytes} {n : Nat}
    (h : data.size = n * 512) : (m.overlay lba n (ofRun data)).bytes lba n = data := by
  have hpart := bytes_overlay_part m lba (o := 0) (k := n) h (by omega)
  rw [Nat.add_zero, Nat.zero_mul, Nat.zero_add] at hpart
  rw [hpart]
  exact Array.extract_eq_self_of_le (by omega)

end Sectors

end AtaVolume
