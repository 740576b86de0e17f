/-
AtaVolume.Proofs.Bus.ReadBack — what was written to an emulated drive is what
is read from it.

A driver that works on a bus with a disk reads every range of good sectors as
the medium holds them, in pieces of at most 256 sectors (`readsWithin`). A write
that ended well has met no bad sector, so any part of what it wrote reads back.
-/
import AtaVolume.Proofs.Bus.Reading
import AtaVolume.Proofs.Bus.Writing

namespace AtaVolume

namespace Disks

/-! ## §1 Ranges of good sectors -/

/-- A driver `c` on a bus that carries drive `d`. -/
structure Carries (c : Controller) (id : ChannelId) (p : Position) (d : Drive) (s : Disks Bus) :
    Prop where
  controller : s.controller = c
  drive : (s.machine.channel id).drive? p = some d
  latency : s.machine.latency ≤ c.pollBudget.toNat

variable {c : Controller} {drive : UInt8} {id : ChannelId} {p : Position} {identity : Identity}
  {d : Drive}

theorem readsWithin (hfind : c.find drive = .ok (id, p, identity)) (hd : d.Responsive) {lo hi : Nat}
    (hlimit : hi ≤ 2 ^ 28) (hend : hi ≤ d.medium.capacity)
    (hgood : ∀ j, lo ≤ j → j < hi → d.isBad (UInt32.ofNat j) = false) :
    BlockDevice.ReadsWithin drive (Carries c id p d) False d.medium.content lo hi := by
  rintro ⟨controller, b⟩ ⟨rfl, hdrive, hlatency⟩ lba count buffer hpos hcount hlo hhi hsize
  have hnat : (UInt16.ofNat count).toNat = count :=
    UInt16.toNat_ofNat_of_lt' (show count < 2 ^ 16 by omega)
  have hrun : d.goodRun lba.toNat count = count :=
    Drive.goodRun_eq_of_good fun j hj => hgood _ (by omega) (by omega)
  obtain ⟨b', hserved, hread⟩ := Controller.readSectors_within hfind hdrive hd hlatency
    (show 1 ≤ (UInt16.ofNat count).toNat by omega) (by omega)
    (show lba.toNat + (UInt16.ofNat count).toNat ≤ 2 ^ 28 by omega)
    (show (UInt16.ofNat count).toNat * 512 ≤ buffer.size by omega) (by omega)
  rw [hnat, hrun, if_neg (Nat.lt_irrefl count)] at hread
  have hcall : BlockDevice.readSectors drive (UInt16.ofNat count) lba buffer
      (⟨controller, b⟩ : Disks Bus)
      = ⟨.ok (), d.medium.content.bytes lba.toNat count
          ++ buffer.extract (count * 512) buffer.size, ⟨controller, b'⟩⟩ := by
    simp only [BlockDevice.readSectors, hread]
  rw [hcall]
  refine ⟨⟨rfl, hserved.drive, by rw [hserved.latency]; exact hlatency⟩, fun _ => ?_,
    fun e he => (nomatch he)⟩
  show _ ++ _ = _
  rw [Array.extract_empty_of_size_le_start (Nat.le_of_eq hsize), Array.append_empty]

end Disks

namespace Controller

open Wire

variable {c : Controller} {b : Bus} {drive : UInt8} {id : ChannelId} {p : Position}
  {identity : Identity} {d : Drive}

/-! ## §2 Reading what was written -/

/-- A drive that stores what it is given reads any part of a finished write
back. -/
theorem readRange_written (hfind : c.find drive = .ok (id, p, identity))
    (hdrive : (b.channel id).drive? p = some d) (hd : d.Responsive)
    (hlatency : b.latency ≤ c.pollBudget.toNat) (hcorrupt : d.faults.corruptWrites = false)
    {lba : UInt32} {data : Bytes} {n : Nat} (hn : 1 ≤ n) (hdata : data.size = n * 512) {b₁ : Bus}
    (hwrite : c.writeSectors drive lba data b = .ok () b₁) {o m : Nat} (hm : 1 ≤ m)
    (hpart : o + m ≤ n) {buffer : Bytes} (hbuffer : buffer.size = m * 512) :
    ∃ b₂, BlockDevice.readRange drive (lba + UInt32.ofNat o) buffer (⟨c, b₁⟩ : Disks Bus)
      = ⟨.ok (), data.extract (o * 512) ((o + m) * 512), ⟨c, b₂⟩⟩ := by
  obtain ⟨e, b', d', hresult, hserved, k, hstop, hgrown⟩ :=
    writeSectors_responsive hfind hdrive hd hlatency lba hn hdata
  rw [hwrite] at hresult
  cases e with
  | some e => cases hresult
  | none =>
    cases hresult
    obtain ⟨rfl, hlimit, hend, hgood⟩ := hstop.of_none hn
    have hstored : (fun i => d.stored (Sectors.ofRun data i)) = Sectors.ofRun data := by
      funext i
      rw [Drive.stored, hcorrupt]
      rfl
    have hcontent := hgrown.content
    rw [hstored] at hcontent
    have hreads : BlockDevice.ReadsWithin drive (Disks.Carries c id p d') False d'.medium.content
        lba.toNat (lba.toNat + k) :=
      Disks.readsWithin hfind (hgrown.responsive hd) hlimit (by rw [hgrown.capacity]; exact hend)
        fun j hj hj' => by
          rw [hgrown.isBad]
          have := hgood (j - lba.toNat) (by omega)
          rwa [Nat.add_sub_cancel' hj] at this
    have hlba : (lba + UInt32.ofNat o).toNat = lba.toNat + o := by
      rw [UInt32.toNat_add, UInt32.toNat_ofNat_of_lt' (show o < 2 ^ 32 by omega)]
      exact Nat.mod_eq_of_lt (by omega)
    have hread := BlockDevice.readRange_reads (s := (⟨c, b₁⟩ : Disks Bus)) hreads (by omega) hm
      ⟨rfl, hserved.drive, by rw [hserved.latency]; exact hlatency⟩
      (show lba.toNat ≤ (lba + UInt32.ofNat o).toNat by omega) (by omega) hbuffer
    rw [hlba, hcontent, Sectors.bytes_overlay_part _ _ hdata hpart] at hread
    generalize BlockDevice.readRange drive (lba + UInt32.ofNat o) buffer (⟨c, b₁⟩ : Disks Bus)
      = outcome at hread ⊢
    obtain ⟨result, buffer', ⟨c', b₂⟩⟩ := outcome
    obtain ⟨hinv, hok, herror⟩ := hread
    cases hinv.controller
    cases result with
    | error e => exact (herror e rfl).elim
    | ok _ => exact ⟨b₂, by rw [show buffer' = _ from hok rfl]⟩

/-- **The effect of a read.** A read of a disk that answers brings the sectors
before the first bad one, or nothing when it goes beyond the end, leaves the
rest of the buffer as it was, and changes no drive. So a range that was written
without an error reads back, in whole or in part. -/
theorem readSectors_effect (hfind : c.find drive = .ok (id, p, identity))
    (hdrive : (b.channel id).drive? p = some d) (hkind : d.kind = .ata)
    (hstuck : d.faults.stuckBusy = false) (hfault : d.faults.deviceFault = false)
    (hlatency : b.latency ≤ c.pollBudget.toNat) :
    (∀ {count : UInt16} {lba : UInt32} {buffer : Bytes}, 1 ≤ count.toNat → count.toNat ≤ 256 →
      lba.toNat + count.toNat - 1 ≤ 0x0FFFFFFF → count.toNat * 512 ≤ buffer.size →
      let k := d.goodRun lba.toNat count.toNat
      ∃ b', b.Served id p d b'
        ∧ c.readSectors drive count lba buffer b
          = if d.medium.capacity < lba.toNat + count.toNat then
              ⟨.error (.deviceError errNotFound), buffer, b'⟩
            else
              ⟨if k = count.toNat then .ok () else .error (.deviceError errUncorrectable),
               d.medium.content.bytes lba.toNat k ++ buffer.extract (k * 512) buffer.size, b'⟩)
    ∧ (d.faults.corruptWrites = false →
      ∀ {lba : UInt32} {data : Bytes} {n : Nat} {b₁ : Bus}, 1 ≤ n → data.size = n * 512 →
      c.writeSectors drive lba data b = .ok () b₁ →
      ∀ {o m : Nat} {buffer : Bytes}, 1 ≤ m → o + m ≤ n → buffer.size = m * 512 →
      ∃ b₂, BlockDevice.readRange drive (lba + UInt32.ofNat o) buffer (⟨c, b₁⟩ : Disks Bus)
        = ⟨.ok (), data.extract (o * 512) ((o + m) * 512), ⟨c, b₂⟩⟩) := by
  have hd : d.Responsive := ⟨hkind, hstuck, hfault⟩
  constructor
  · intro count lba buffer hpos hcount hlimit hbuffer k
    by_cases hend : d.medium.capacity < lba.toNat + count.toNat
    · obtain ⟨b', hserved, hread⟩ := readSectors_beyond hfind hdrive hd hlatency hpos hcount
        (show lba.toNat + count.toNat ≤ 2 ^ 28 by omega) hbuffer hend
      exact ⟨b', hserved, by rw [if_pos hend, hread]⟩
    · obtain ⟨b', hserved, hread⟩ := readSectors_within hfind hdrive hd hlatency hpos hcount
        (show lba.toNat + count.toNat ≤ 2 ^ 28 by omega) hbuffer (Nat.le_of_not_lt hend)
      refine ⟨b', hserved, ?_⟩
      rw [if_neg hend, hread]
      have hle : k ≤ count.toNat := d.goodRun_le _ _
      by_cases hall : k = count.toNat
      · rw [if_pos hall, if_neg (by omega)]
      · rw [if_neg hall, if_pos (by omega)]
  · intro hcorrupt lba data n b₁ hn hdata hwrite o m buffer hm hpart hbuffer
    exact readRange_written hfind hdrive hd hlatency hcorrupt hn hdata hwrite hm hpart hbuffer

/-- A drive whose second sector is bad gives its first one, and reads back what
is written there. -/
theorem readSectors_effect_bad_second :
    (∃ b', (Controller.single 8).readSectors 0 2 0 (zeroes 1024)
        (Bus.single (.blankWith 8 { badSectors := [1] }))
      = ⟨.error (.deviceError errUncorrectable),
         (Drive.blankWith 8 { badSectors := [1] }).medium.content.bytes 0 1
           ++ (zeroes 1024).extract (1 * 512) (zeroes 1024).size, b'⟩)
    ∧ ∃ b₁ b₂, (Controller.single 8).writeSectors 0 0 (zeroes 512)
          (Bus.single (.blankWith 8 { badSectors := [1] })) = .ok () b₁
        ∧ BlockDevice.readRange 0 (0 + UInt32.ofNat 0) (zeroes 512)
            (⟨Controller.single 8, b₁⟩ : Disks Bus)
          = ⟨.ok (), (zeroes 512).extract (0 * 512) ((0 + 1) * 512), ⟨Controller.single 8, b₂⟩⟩ := by
  have hsize : (zeroes 512).size = 1 * 512 := size_zeroes 512
  obtain ⟨hread, hback⟩ := @readSectors_effect (Controller.single 8)
    (Bus.single (.blankWith 8 { badSectors := [1] })) 0 _ _ _ _ rfl rfl rfl rfl rfl (by decide)
  constructor
  · obtain ⟨b', -, hresult⟩ := @hread 2 0 (zeroes 1024) (by decide) (by decide) (by decide)
      (by rw [size_zeroes]; decide)
    exact ⟨b', hresult⟩
  · obtain ⟨e, b₁, d', hresult, -, k, hstop, -⟩ := @writeSectors_responsive (Controller.single 8)
      (Bus.single (.blankWith 8 { badSectors := [1] })) 0 _ _ _ _ rfl rfl ⟨rfl, rfl, rfl⟩
      (by decide) 0 _ 1 (by decide) hsize
    cases hstop with
    | never clear =>
      obtain ⟨b₂, hrange⟩ := @hback rfl 0 _ 1 b₁ (by decide) hsize hresult 0 1 (zeroes 512) (by decide)
        (by decide) hsize
      exact ⟨b₁, b₂, hresult, hrange⟩
    | @first k e lt clear stop =>
      have hfree : (Drive.blankWith 8 { badSectors := [1] }).obstacle 0 1 0 = none := by decide
      obtain rfl : k = 0 := by omega
      exact absurd (hfree.symm.trans stop) (by simp)

end Controller

end AtaVolume
