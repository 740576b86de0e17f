/-
AtaVolume.Proofs.Device.Serving — drives of which some sectors work.

A drive `Serves` a set of sectors if reads and writes that keep to them do what they
should; it `Guards` the set if a read that touches any other sector fails. A drive
without faults serves all its sectors (`Stores.serves`). Of the commands on single
pieces the same follows for reads of whole ranges (`Serves.readRange`,
`Guards.readRange`), by induction on the sectors left.
-/
import AtaVolume.Proofs.Device.Stores

namespace AtaVolume

namespace DriveView

variable {δ : Type} [BlockDevice δ] (v : DriveView δ)

/-- All sectors of a range are in the set. -/
def Within (good : Nat → Prop) (lba n : Nat) : Prop := ∀ j, lba ≤ j → j < lba + n → good j

/-- Calls on the sectors in `good` keep to what a drive should do. -/
structure Serves (drive : UInt8) (good : Nat → Prop) : Prop where
  present : ∀ {s}, v.Sound s → ∃ n, BlockDevice.totalSectors s drive = .ok n
  note : ∀ {m s}, v.Holds m s → ∀ report, v.Holds m (BlockDevice.note report s)
  read : ∀ m {lo hi : Nat}, (∀ j, lo ≤ j → j < hi → good j) →
    BlockDevice.ReadsWithin drive (v.Holds m) False m lo hi
  write : ∀ {m s}, v.Holds m s → ∀ {lba : UInt32} {data : Bytes} {n : Nat}, 1 ≤ n →
    data.size = n * 512 → Within good lba.toNat n →
    v.Wrote False m lba.toNat n (Sectors.ofRun data) (BlockDevice.writeSectors drive lba data s)
  bound : ∀ {j}, good j → j + 1 < 2 ^ 32

/-- A read that touches a sector outside `good` fails and changes nothing. -/
structure Guards (drive : UInt8) (good : Nat → Prop) : Prop where
  refuse : ∀ {m s}, v.Holds m s → ∀ {lba : UInt32} {count : Nat} {buffer : Bytes}, 1 ≤ count →
    count ≤ 256 → buffer.size = count * 512 → ¬ Within good lba.toNat count →
    ∃ e, (BlockDevice.readSectors drive (UInt16.ofNat count) lba buffer s).result = .error e
      ∧ v.Holds m (BlockDevice.readSectors drive (UInt16.ofNat count) lba buffer s).device

variable {v} {drive : UInt8} {good : Nat → Prop}

/-- A drive that does not fail serves all its sectors. -/
theorem Stores.serves (hv : v.FaultFree drive) : v.Serves drive fun j => j < v.size.toNat where
  present hs := ⟨v.size, hv.size hs⟩
  note := hv.note
  read m lo hi hgood := by
    intro s hs lba count buffer hpos hcount hlo hhi hbuffer
    have hlast := hgood (lba.toNat + count - 1) (by omega) (by omega)
    exact hv.read m hs hpos hcount (Nat.zero_le _) (by omega) hbuffer
  write hs lba data n hn hdata hgood := by
    have hlast := hgood (lba.toNat + n - 1) (by omega) (by omega)
    exact hv.write hs hn hdata (by omega)
  bound {j} hj := by
    have hsize := v.size.toNat_lt
    omega

/-- **A range of sectors that work is read as what they hold.** -/
theorem Serves.readRange (hv : v.Serves drive good) {m : Sectors} {s : δ} (hs : v.Holds m s) {n : Nat}
    (hn : 1 ≤ n) {lba : UInt32} (hgood : Within good lba.toNat n) {buffer : Bytes}
    (hsize : buffer.size = n * 512) :
    (BlockDevice.readRange drive lba buffer s).Reads (v.Holds m) False (m.bytes lba.toNat n) := by
  have hlast := hv.bound (hgood (lba.toNat + n - 1) (by omega) (by omega))
  exact BlockDevice.readRange_reads (hv.read m hgood) (by omega) hn hs (Nat.le_refl _)
    (Nat.le_refl _) hsize

/-- The pieces of a range up to the first one that fails. -/
theorem Guards.readPieces (hg : v.Guards drive good) (hv : v.Serves drive good) {m : Sectors}
    {buffer : Bytes} {n : Nat} {s : δ} (hs : v.Holds m s) {lba : UInt32}
    (hend : lba.toNat + n < 2 ^ 32) (hbad : ¬ Within good lba.toNat n) {i : Nat}
    (hsize : buffer.size = i + n * 512) (acc : Bytes) :
    ∃ e, (BlockDevice.readPieces drive buffer lba n i acc s).result = .error e
      ∧ v.Holds m (BlockDevice.readPieces drive buffer lba n i acc s).device := by
  induction n using Nat.strong_induction_on generalizing s lba i acc with
  | _ n ih =>
    have hzero : n ≠ 0 := by
      rintro rfl
      exact hbad fun j hj hj' => by omega
    have hcount : min n 256 ≤ n := Nat.min_le_left n 256
    have hpiece : (buffer.extract i (i + min n 256 * 512)).size = min n 256 * 512 := by
      rw [Array.size_extract]
      omega
    rw [BlockDevice.readPieces_pos drive buffer hzero (by omega)]
    simp only
    by_cases hfront : Within good lba.toNat (min n 256)
    · -- this piece is read, and the sector that fails lies behind it
      have hread := hv.read m hfront hs (show 1 ≤ min n 256 by omega) (Nat.min_le_right n 256)
        (Nat.le_refl _) (Nat.le_refl _) hpiece
      have hnext := BlockDevice.toNat_next_piece (show lba.toNat + min n 256 < 2 ^ 32 by omega)
      have hrest : ¬ Within good (lba + UInt32.ofNat (min n 256)).toNat (n - min n 256) := by
        intro hgood
        refine hbad fun j hj hj' => ?_
        by_cases hlt : j < lba.toNat + min n 256
        · exact hfront j hj hlt
        · exact hgood j (by omega) (by omega)
      generalize BlockDevice.readSectors drive (UInt16.ofNat (min n 256)) lba
        (buffer.extract i (i + min n 256 * 512)) s = o at hread ⊢
      obtain ⟨result, piece, s'⟩ := o
      cases result with
      | error e => exact (hread.error e rfl).elim
      | ok _ => exact ih (n - min n 256) (by omega) hread.inv (by omega) hrest (by omega) _
    · obtain ⟨e, hresult, hholds⟩ := hg.refuse hs (show 1 ≤ min n 256 by omega)
        (Nat.min_le_right n 256) hpiece hfront
      generalize BlockDevice.readSectors drive (UInt16.ofNat (min n 256)) lba
        (buffer.extract i (i + min n 256 * 512)) s = o at hresult hholds ⊢
      obtain ⟨result, piece, s'⟩ := o
      obtain rfl : result = .error e := hresult
      exact ⟨e, rfl, hholds⟩

/-- **A range with a sector that does not work is not read.** -/
theorem Guards.readRange (hg : v.Guards drive good) (hv : v.Serves drive good) {m : Sectors} {s : δ}
    (hs : v.Holds m s) {n : Nat} (hn : 1 ≤ n) {lba : UInt32} (hend : lba.toNat + n < 2 ^ 32)
    (hbad : ¬ Within good lba.toNat n) {buffer : Bytes} (hsize : buffer.size = n * 512) :
    ∃ e, (BlockDevice.readRange drive lba buffer s).result = .error e
      ∧ v.Holds m (BlockDevice.readRange drive lba buffer s).device := by
  rw [BlockDevice.readRange_whole hn hsize]
  exact hg.readPieces hv hs hend hbad (show buffer.size = 0 + n * 512 by omega) #[]

end DriveView

end AtaVolume
