/-
AtaVolume.Proofs.Volume.Persistence — a bitmap that was stored is the one that is read.

The bits of a bitmap are padded with zeros to whole sectors when they are written, and cut
to the blocks and counted anew when they are read. `ofBytes_toBytes` says that nothing is
lost on the way for a bitmap whose numbers are right, and all bitmaps are of this kind that
calls can make (`MadeFor.counted`). Writing takes as many sectors as reading, since both counts
are that of the blocks (`Superblock.toNat_bitmapSectors`). `bitmap_persists` puts this on a
drive.
-/
import AtaVolume.Proofs.Bus.DiskStores
import AtaVolume.Proofs.Volume.BlockSet
import AtaVolume.Proofs.Volume.NewVolume

namespace AtaVolume

open DriveView (Within)

/-! ## §1 Bytes and back -/

namespace BlockBitmap

variable {m m' : BlockBitmap}

/-- The bitmap of `total` blocks comes from a blank one, or from one that was read from any
bytes, by calls. -/
def MadeFor (total : UInt32) (m : BlockBitmap) : Prop :=
  ∃ (origin : BitmapOrigin) (calls : List BitmapCall),
    m = (BitmapCall.inOrder BitmapCall.run calls (origin.bitmap total)).2

/-- Whatever made a bitmap, its numbers are right. -/
theorem MadeFor.counted {total : UInt32} (h : MadeFor total m) : m.Counted ∧ m.total = total := by
  obtain ⟨origin, calls, rfl⟩ := h
  rw [origin.bitmap_eq]
  have hbecomes := (BitmapCall.inOrder_becomes (counted_ofBytes origin.bytes total) calls).2.2
  exact ⟨hbecomes.counted, hbecomes.total⟩

/-- The numbers of a bitmap follow from its bits. -/
theorem Counted.ext (h : m.Counted) (h' : m'.Counted) (htotal : m.total = m'.total)
    (hbits : m.bits = m'.bits) : m = m' := by
  have hused : m.usedCount = m'.usedCount := by
    rw [← UInt32.toNat_inj, h.used, h'.used, htotal, hbits]
  have hfree : m.freeCount = m'.freeCount := by
    have hsum := h.sum
    have hsum' := h'.sum
    rw [← UInt32.toNat_inj]
    rw [htotal, hused] at hsum
    omega
  cases m
  cases m'
  simp only [BlockBitmap.mk.injEq]
  exact ⟨hbits, htotal, hfree, hused⟩

/-- The padding is cut off again. -/
theorem fitTo_toBytes (m : BlockBitmap) : fitTo m.bits.size m.toBytes = m.bits := by
  apply ext_getD
  · simp
  · intro i hi
    rw [size_fitTo] at hi
    have hroom : i < m.sectorLength * sectorSize := by
      show i < (m.bits.size + 511) / 512 * 512
      omega
    rw [getD_fitTo, if_pos hi, toBytes, getD_fitTo, if_pos hroom]

/-- **A bitmap is read from its own sectors**, with its numbers counted anew. -/
theorem ofBytes_toBytes (h : m.Counted) : ofBytes m.toBytes m.total = m := by
  refine (counted_ofBytes _ _).ext h rfl ?_
  show fitTo (byteLength m.total) m.toBytes = m.bits
  rw [byteLength, ← h.size, fitTo_toBytes]

end BlockBitmap

/-! ## §2 On a drive -/

namespace Volume

open BlockBitmap (bit)

variable {δ : Type} [BlockDevice δ] {v : DriveView δ} {drive : UInt8} {good : Nat → Prop}
  {m : Sectors} {sb : Superblock} {bitmap : BlockBitmap} {s : δ}

/-- The sectors that the bits of all blocks take. -/
def bitmapRoom (sb : Superblock) : Nat := ((sb.totalBlocks.toNat + 7) / 8 + 511) / 512

theorem bitmapRoom_eq (sb : Superblock) : bitmapRoom sb = sb.bitmapSectors.toNat := by
  rw [sb.toNat_bitmapSectors, bitmapRoom]
  omega

theorem lt_bits_of_lt {b : Nat} (h : b < sb.totalBlocks.toNat) :
    b < sb.bitmapSectors.toNat * 4096 := by
  rw [sb.toNat_bitmapSectors]
  omega

/-- The drive after the sectors of a bitmap were written. -/
def storing (m : Sectors) (sb : Superblock) (bitmap : BlockBitmap) : Sectors :=
  m.overlay 2 sb.bitmapSectors.toNat (Sectors.ofRun bitmap.toBytes)

theorem bytes_storing (hcounted : bitmap.Counted) (htotal : bitmap.total = sb.totalBlocks) :
    (storing m sb bitmap).bytes 2 sb.bitmapSectors.toNat = bitmap.toBytes := by
  have hsize := BlockBitmap.size_toBytes hcounted.size
  rw [htotal, ← sb.toNat_bitmapSectors] at hsize
  exact Sectors.bytes_overlay_ofRun m 2 hsize

/-- The bitmap that was written is the one on the drive. -/
theorem bitmapOf_storing (hcounted : bitmap.Counted) (htotal : bitmap.total = sb.totalBlocks) :
    bitmapOf sb (storing m sb bitmap) = bitmap := by
  rw [bitmapOf, bytes_storing hcounted htotal, ← htotal, BlockBitmap.ofBytes_toBytes hcounted]

/-- The bitmap `bitmap` was stored in a call from `s` to `t`. -/
structure BitmapStored (v : DriveView δ) (drive : UInt8) (sb : Superblock)
    (bitmap : BlockBitmap) (s t : δ) : Prop where
  /-- It is read back as it is, and that changes nothing. -/
  readBack : ∃ u, readBitmap drive sb t = .ok bitmap u ∧ v.image u = v.image t
  bits : ∀ b, b < sb.totalBlocks.toNat →
    bit (v.image t (2 + b / 4096)).toBytes (b % 4096) = bit bitmap.bits b
  /-- No other sector of the drive has changed. -/
  rest : ∀ j, ¬ (2 ≤ j ∧ j < 2 + bitmapRoom sb) → v.image t j = v.image s j
  /-- Nor have the other drives, and whatever else calls on this one leave alone. -/
  others : ∀ P : δ → Prop, BlockDevice.Untouched drive P → P s → P t

theorem writeBitmap_stores (hsb : sb.LaidOut) (hv : v.Serves drive good)
    (hgood : Within good 2 sb.bitmapSectors.toNat) (hcounted : bitmap.Counted)
    (htotal : bitmap.total = sb.totalBlocks) (hs : v.Holds m s) :
    ∃ t, writeBitmap drive sb bitmap s = .ok () t ∧ v.Holds (storing m sb bitmap) t
      ∧ BitmapStored v drive sb bitmap s t := by
  obtain ⟨t, hwrite, ht⟩ := writeBitmap_succeeds hsb hv hgood htotal hcounted.size s hs
  refine ⟨t, hwrite, ht, ?_, ?_, ?_, ?_⟩
  · obtain ⟨u, hread, hu⟩ := readBitmap_succeeds hsb hv hgood t ht
    have hbitmap := bitmapOf_storing (m := m) hcounted htotal
    rw [storing] at hbitmap
    exact ⟨u, by rw [hread, hbitmap], by rw [hu.image, ht.image]⟩
  · intro b hb
    have hbytes := bytes_storing (m := m) hcounted htotal
    rw [storing, ← ht.image] at hbytes
    rw [← Contents.bit_bytes _ 2 (lt_bits_of_lt hb), hbytes,
      BlockBitmap.bit_toBytes hcounted.size (by rwa [htotal])]
  · intro j hj
    rw [bitmapRoom_eq] at hj
    rw [ht.image, Sectors.overlay_apply_of_not_mem _ _ hj, hs.image]
  · intro P huntouched hP
    have hends := writeBitmap_alike huntouched.drivesAlike sb bitmap s s ⟨rfl, hP⟩
    rw [hwrite] at hends
    cases hends with
    | ok states => exact states.2

/-- A bitmap for other blocks is refused, and nothing happens. -/
theorem writeBitmap_refused (h : bitmap.total ≠ sb.totalBlocks) (s : δ) :
    writeBitmap drive sb bitmap s
      = .error (.corrupted (.bitmapTotal bitmap.total sb.totalBlocks)) s := by
  rw [writeBitmap, if_pos h]
  rfl

/-- **Bitmaps persist.** On a drive without faults every bitmap that calls can make is read
back after it was written, and only its own sectors have changed. The bitmap on the drive can
be written again as it is, which keeps the bit of each block. One for another number of blocks
is refused. -/
theorem bitmap_persists (hv : v.FaultFree drive) (hlayout : sb.checkLayout = .ok ())
    (hroom : 2 + bitmapRoom sb ≤ v.size.toNat) (hs : v.Sound s) :
    (∀ bitmap, BlockBitmap.MadeFor sb.totalBlocks bitmap →
        ∃ t, writeBitmap drive sb bitmap s = .ok () t ∧ BitmapStored v drive sb bitmap s t)
      ∧ (∃ bitmap t u, readBitmap drive sb s = .ok bitmap t ∧ v.image t = v.image s
        ∧ writeBitmap drive sb bitmap t = .ok () u ∧ BitmapStored v drive sb bitmap t u
        ∧ ∀ b, b < sb.totalBlocks.toNat →
          bit (v.image u (2 + b / 4096)).toBytes (b % 4096)
            = bit (v.image s (2 + b / 4096)).toBytes (b % 4096))
      ∧ ∀ (bitmap : BlockBitmap) (t : δ), bitmap.total ≠ sb.totalBlocks →
        writeBitmap drive sb bitmap t
          = .error (.corrupted (.bitmapTotal bitmap.total sb.totalBlocks)) t := by
  have hsb := Superblock.laidOut_of_checkLayout hlayout
  have hserves := hv.serves
  have hgood : Within (fun j => j < v.size.toNat) 2 sb.bitmapSectors.toNat := by
    intro j _ hj
    rw [bitmapRoom_eq] at hroom
    omega
  have hholds : v.Holds (v.image s) s := ⟨hs, rfl⟩
  refine ⟨fun bitmap hmade => ?_, ?_, fun bitmap t htotal => writeBitmap_refused htotal t⟩
  · obtain ⟨hcounted, htotal⟩ := hmade.counted
    obtain ⟨t, hwrite, -, hstored⟩ := writeBitmap_stores hsb hserves hgood hcounted htotal hholds
    exact ⟨t, hwrite, hstored⟩
  · have hcounted : (bitmapOf sb (v.image s)).Counted := BlockBitmap.counted_ofBytes _ _
    obtain ⟨t, hread, ht⟩ := readBitmap_succeeds hsb hserves hgood s hholds
    obtain ⟨u, hwrite, -, hstored⟩ := writeBitmap_stores hsb hserves hgood hcounted rfl ht
    refine ⟨_, t, u, hread, ht.image, hwrite, hstored, fun b hb => ?_⟩
    rw [hstored.bits b hb, bitmapOf, BlockBitmap.bit_ofBytes _ hb,
      Contents.bit_bytes _ 2 (lt_bits_of_lt hb)]

/-- The bitmap of 5000 blocks takes two sectors. On a disk it is stored and read back. -/
theorem bitmap_persists_two_sectors :
    let s : Disks Bus := ⟨Controller.single 1024, Bus.single (.blankWith 1024 {})⟩
    let sb := Superblock.forSize 5000
    let bitmap := (BitmapCall.inOrder BitmapCall.run [.setUsed 4999, .setFree 3]
      (BitmapOrigin.bitmap 5000 (.read #[0xFF]))).2
    bitmapRoom sb = 2 ∧ ∃ t, writeBitmap 0 sb bitmap s = .ok () t
      ∧ BitmapStored (Disks.view (Controller.single 1024) .primary .master 1024) 0 sb bitmap s t := by
  intro s sb bitmap
  have hfaultless : (Drive.blankWith 1024 {}).Faultless 1024 :=
    ⟨⟨rfl, rfl, rfl⟩, rfl, by decide, fun _ _ => rfl⟩
  have hsound : (Disks.view (Controller.single 1024) .primary .master 1024).Sound s :=
    ⟨_, ⟨rfl, rfl, by decide⟩, hfaultless⟩
  have hlayout : sb.checkLayout = .ok () := by decide
  have hpersists := bitmap_persists Disks.single_faultFree hlayout (by decide) hsound
  exact ⟨by decide, hpersists.1 bitmap ⟨.read #[0xFF], [.setUsed 4999, .setFree 3], rfl⟩⟩

end Volume

end AtaVolume
