/-
AtaVolume.Proofs.Volume.Records — records read back from the sectors that
store them.

A record is a list of bytes at the start of its sector. A byte of the sector is
the byte of the list (`getD_record`); the numbers are put together from their
four bytes again by `join32_le32`.
-/
import AtaVolume.Proofs.Bytes.Runs
import AtaVolume.Proofs.Bytes.Words
import AtaVolume.Volume.Index
import AtaVolume.Volume.Superblock

namespace AtaVolume

open LittleEndian

/-- A byte of a record, read from the sector that stores it. -/
theorem getD_record (record : List UInt8) {i : Nat} (h : i < 512) :
    (Sector.ofBytes record.toArray).toBytes.getD i 0 = record.getD i 0 := by
  rw [Sector.getD_toBytes, Sector.byte_ofBytes _ h]
  simp [Array.getD_eq_getD_getElem?, List.getD_eq_getElem?_getD]

/-! ## §1 Superblocks -/

namespace Superblock

/-- **A superblock reads back from its sector.** -/
theorem decode_encode (sb : Superblock) : decode sb.encode.toBytes = sb := by
  have hbyte : ∀ i, i < 38 → sb.encode.toBytes.getD i 0 = sb.record.getD i 0 :=
    fun i hi => getD_record sb.record (by omega)
  simp only [decode, word16, word32, hbyte, Nat.reduceAdd, Nat.reduceLT]
  simp [record, le16, le32, join16_le16, join32_le32]

end Superblock

/-! ## §2 Index records -/

namespace Index

/-- **An index record reads back from its sector.** -/
theorem ofBytes_encode (r : Index) : ofBytes r.encode.toBytes = r := by
  have hbyte : ∀ i, i < 10 → r.encode.toBytes.getD i 0 = r.record.getD i 0 :=
    fun i hi => getD_record r.record (by omega)
  simp only [ofBytes, word32, hbyte, Nat.reduceAdd, Nat.reduceLT]
  simp [record, le32, join32_le32]

/-- A sector of zeros is a free slot. -/
theorem ofBytes_zero : ofBytes Sector.zero.toBytes = vacant := by
  simp only [ofBytes, word32, Sector.getD_toBytes, Sector.byte_zero]
  rfl

theorem isFree_vacant : vacant.isFree = true := rfl

end Index

end AtaVolume
