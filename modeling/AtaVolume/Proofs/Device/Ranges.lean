/-
AtaVolume.Proofs.Device.Ranges — a range is read as its pieces are.

`ReadOutcome.Reads` says how a read may end: with the bytes that were asked
for, or with an error. If each command within a range reads its sectors, then
so does a read of any length within the range (`readRange_reads`), and however
it ends its buffer keeps its size (`size_readRange`); both are proved by
induction on the sectors left.
-/
import Mathlib.Data.UInt
import AtaVolume.BlockDevice
import AtaVolume.Proofs.Bytes.Sectors

namespace AtaVolume

/-! ## §1 Contents -/

/-- The read leaves a device that is `Inv`. If it ends well, its buffer holds
`bytes`; it does not end with an error unless it may. -/
structure ReadOutcome.Reads {δ : Type} (o : ReadOutcome δ) (Inv : δ → Prop) (fails : Prop)
    (bytes : Bytes) : Prop where
  inv : Inv o.device
  ok : o.result = .ok () → o.buffer = bytes
  error : ∀ e, o.result = .error e → fails

namespace BlockDevice

variable {δ : Type} [BlockDevice δ] {drive : UInt8} {Inv : δ → Prop} {fails : Prop} {m : Sectors}
  {lo hi : Nat}

/-- Each command on sectors between `lo` and `hi` reads what they hold. -/
def ReadsWithin (drive : UInt8) (Inv : δ → Prop) (fails : Prop) (m : Sectors) (lo hi : Nat) : Prop :=
  ∀ {s}, Inv s → ∀ {lba : UInt32} {count : Nat} {buffer : Bytes}, 1 ≤ count → count ≤ 256 →
    lo ≤ lba.toNat → lba.toNat + count ≤ hi → buffer.size = count * 512 →
    (readSectors drive (UInt16.ofNat count) lba buffer s).Reads Inv fails
      (m.bytes lba.toNat count)

theorem readPieces_zero (drive : UInt8) (buffer : Bytes) (lba : UInt32) (i : Nat) (acc : Bytes)
    (s : δ) :
    readPieces drive buffer lba 0 i acc s
      = ⟨.ok (), acc ++ buffer.extract i buffer.size, s⟩ := by
  rw [readPieces]
  rfl

theorem readPieces_pos (drive : UInt8) (buffer : Bytes) {lba : UInt32} {n : Nat} (hn : n ≠ 0)
    (hlba : lba.toNat + min n 256 < 2 ^ 32) (i : Nat) (acc : Bytes) (s : δ) :
    readPieces drive buffer lba n i acc s
      = (let o := readSectors drive (UInt16.ofNat (min n 256)) lba
          (buffer.extract i (i + min n 256 * 512)) s
         match o.result with
         | .ok _ =>
           readPieces drive buffer (lba + UInt32.ofNat (min n 256)) (n - min n 256)
             (i + min n 256 * 512) (acc ++ o.buffer) o.device
         | .error e =>
           ⟨.error e, acc ++ o.buffer ++ buffer.extract (i + min n 256 * 512) buffer.size,
             o.device⟩) := by
  conv => lhs; rw [readPieces, if_neg hn]
  simp only
  rcases readSectors drive (UInt16.ofNat (min n 256)) lba (buffer.extract i (i + min n 256 * 512)) s
    with ⟨_ | _, piece, s'⟩
  · rfl
  · exact if_pos hlba

/-- The sector behind a piece. -/
theorem toNat_next_piece {lba : UInt32} {n : Nat} (h : lba.toNat + min n 256 < 2 ^ 32) :
    (lba + UInt32.ofNat (min n 256)).toNat = lba.toNat + min n 256 := by
  rw [UInt32.toNat_add, UInt32.toNat_ofNat_of_lt' (show min n 256 < 2 ^ 32 by omega)]
  exact Nat.mod_eq_of_lt h

/-- A buffer for whole sectors is filled piece by piece. -/
theorem readRange_whole {buffer : Bytes} {n : Nat} (hn : 1 ≤ n) (hsize : buffer.size = n * 512)
    (drive : UInt8) (lba : UInt32) (s : δ) :
    readRange drive lba buffer s = readPieces drive buffer lba n 0 #[] s := by
  have hcount : buffer.size / sectorSize = n := by
    show buffer.size / 512 = n
    omega
  have hwhole : ¬ buffer.size % sectorSize ≠ 0 := by
    show ¬ buffer.size % 512 ≠ 0
    omega
  rw [readRange, if_neg (by omega), if_neg hwhole, hcount]

/-- The pieces together read the range. -/
theorem readPieces_reads (hread : ReadsWithin drive Inv fails m lo hi) (hhi : hi < 2 ^ 32)
    {n : Nat} {s : δ} (hs : Inv s) {lba : UInt32} (hlo : lo ≤ lba.toNat) (hn : lba.toNat + n ≤ hi)
    {buffer : Bytes} {i : Nat} (hsize : buffer.size = i + n * 512) (acc : Bytes) :
    (readPieces drive buffer lba n i acc s).Reads Inv fails (acc ++ m.bytes lba.toNat n) := by
  induction n using Nat.strong_induction_on generalizing s lba i acc with
  | _ n ih =>
    by_cases hzero : n = 0
    · subst hzero
      rw [readPieces_zero, Sectors.bytes_zero]
      refine ⟨hs, fun _ => ?_, fun e he => ?_⟩
      · rw [Array.extract_empty_of_size_le_start (by omega)]
      · cases he
    · have hcount : min n 256 ≤ n := Nat.min_le_left n 256
      have hpiece := hread hs (show 1 ≤ min n 256 by omega) (Nat.min_le_right n 256) hlo
        (by omega) (show (buffer.extract i (i + min n 256 * 512)).size = min n 256 * 512 by
          rw [Array.size_extract]; omega)
      have hnext := toNat_next_piece (show lba.toNat + min n 256 < 2 ^ 32 by omega)
      rw [readPieces_pos drive buffer hzero (by omega)]
      simp only
      generalize readSectors drive (UInt16.ofNat (min n 256)) lba
        (buffer.extract i (i + min n 256 * 512)) s = o at hpiece ⊢
      obtain ⟨result, piece, s'⟩ := o
      cases result with
      | error e =>
        exact ⟨hpiece.inv, fun h => (nomatch h), fun _ _ => hpiece.error e rfl⟩
      | ok _ =>
        have hrest := ih (n - min n 256) (by omega) hpiece.inv
          (show lo ≤ (lba + UInt32.ofNat (min n 256)).toNat by omega) (by omega)
          (show buffer.size = i + min n 256 * 512 + (n - min n 256) * 512 by omega) (acc ++ piece)
        have hbytes : acc ++ m.bytes lba.toNat n
            = acc ++ piece ++ m.bytes (lba.toNat + min n 256) (n - min n 256) := by
          rw [show piece = _ from hpiece.ok rfl, Array.append_assoc, ← Sectors.bytes_add]
          congr 2
          omega
        rw [hnext] at hrest
        rw [hbytes]
        exact hrest

/-- **A range reads as what its sectors hold.** -/
theorem readRange_reads (hread : ReadsWithin drive Inv fails m lo hi) (hhi : hi < 2 ^ 32) {n : Nat}
    (hpos : 1 ≤ n) {s : δ} (hs : Inv s) {lba : UInt32} (hlo : lo ≤ lba.toNat)
    (hn : lba.toNat + n ≤ hi) {buffer : Bytes} (hsize : buffer.size = n * 512) :
    (readRange drive lba buffer s).Reads Inv fails (m.bytes lba.toNat n) := by
  have hpieces := readPieces_reads hread hhi hs hlo hn (show buffer.size = 0 + n * 512 by omega) #[]
  rw [Array.empty_append] at hpieces
  rw [readRange_whole hpos hsize]
  exact hpieces

/-! ## §2 Sizes -/

theorem size_readPieces (drive : UInt8) {buffer : Bytes} (lba : UInt32) {n i : Nat}
    (hsize : buffer.size = i + n * 512) {acc : Bytes} (hacc : acc.size = i) (s : δ) :
    (readPieces drive buffer lba n i acc s).buffer.size = buffer.size := by
  induction n using Nat.strong_induction_on generalizing s lba i acc with
  | _ n ih =>
    by_cases hzero : n = 0
    · subst hzero
      rw [readPieces_zero, Array.size_append, Array.size_extract]
      omega
    · have hpiece := size_readSectors drive (UInt16.ofNat (min n 256)) lba
        (buffer.extract i (i + min n 256 * 512)) s
      rw [Array.size_extract] at hpiece
      have hrest : ∀ piece : Bytes, piece.size = min (i + min n 256 * 512) buffer.size - i →
          (acc ++ piece ++ buffer.extract (i + min n 256 * 512) buffer.size).size
            = buffer.size := by
        intro piece hsize'
        rw [Array.size_append, Array.size_append, Array.size_extract]
        omega
      rw [readPieces, if_neg hzero]
      simp only
      generalize readSectors drive (UInt16.ofNat (min n 256)) lba
        (buffer.extract i (i + min n 256 * 512)) s = o at hpiece ⊢
      obtain ⟨result, piece, t⟩ := o
      cases result with
      | error e => exact hrest piece hpiece
      | ok _ =>
        simp only at hpiece ⊢
        split
        · refine ih (n - min n 256) (by omega) _ (i := i + min n 256 * 512) (by omega) ?_ t
          rw [Array.size_append]
          omega
        · exact hrest piece hpiece

/-- **A read of a range never resizes its buffer.** -/
theorem size_readRange (drive : UInt8) (lba : UInt32) (buffer : Bytes) (s : δ) :
    (readRange drive lba buffer s).buffer.size = buffer.size := by
  unfold readRange
  split
  · rfl
  · split
    · rfl
    case isFalse hwhole =>
      have hsize : buffer.size = 0 + buffer.size / sectorSize * 512 := by
        have hdvd := Nat.div_add_mod buffer.size 512
        rw [show buffer.size % 512 = 0 from not_not.1 hwhole] at hdvd
        show buffer.size = 0 + buffer.size / 512 * 512
        omega
      exact size_readPieces drive lba hsize rfl s

end BlockDevice

end AtaVolume
