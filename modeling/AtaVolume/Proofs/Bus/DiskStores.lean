/-
AtaVolume.Proofs.Bus.DiskStores — an emulated disk without faults is a drive that
keeps what it is given.

What the driver's reads and writes do to a disk was said sector by sector. Here it
is put in the terms in which volumes see their drives: a disk that answers, has no
bad sector and stores what it is given does not fail (`view_faultFree`).
-/
import AtaVolume.Proofs.Bus.Identification
import AtaVolume.Proofs.Bus.ReadBack
import AtaVolume.Proofs.Device.Stores

namespace AtaVolume

/-! ## §1 Disks without faults -/

/-- The first `size` sectors of the disk work. -/
structure Drive.Faultless (d : Drive) (size : Nat) : Prop where
  responsive : d.Responsive
  faithful : d.faults.corruptWrites = false
  large : size ≤ d.medium.capacity
  good : ∀ j, j < size → d.isBad (UInt32.ofNat j) = false

namespace Drive.Faultless

variable {d d' : Drive} {size : Nat} {m : Sectors} {commands : List (UInt32 × Nat)} {flushes : Nat}

theorem grown (h : d.Faultless size) (hgrown : d.Grown m commands flushes d') :
    d'.Faultless size where
  responsive := hgrown.responsive h.responsive
  faithful := by rw [hgrown.faults, h.faithful]
  large := by rw [hgrown.capacity]; exact h.large
  good j hj := by rw [hgrown.isBad, h.good j hj]

/-- Nothing is in the way of a write to a disk that works. -/
theorem obstacle_eq_none (h : d.Faultless size) {lba n j : Nat} (hend : lba + n ≤ size)
    (hlimit : size ≤ 2 ^ 28) (hj : j < n) : d.obstacle lba n j = none := by
  have hlarge := h.large
  have hgood := h.good (lba + j) (by omega)
  rw [Drive.obstacle, if_neg (by omega), if_neg (by omega), hgood]
  rfl

end Drive.Faultless

theorem ReadOutcome.Reads.mono {δ : Type} {o : ReadOutcome δ} {Inv Inv' : δ → Prop} {fails : Prop}
    {bytes : Bytes} (h : o.Reads Inv fails bytes) (hInv : ∀ s, Inv s → Inv' s) :
    o.Reads Inv' fails bytes :=
  ⟨hInv _ h.inv, h.ok, h.error⟩

namespace Disks

/-- The disk at a position of a channel, as a driver `c` sees it. -/
def view (c : Controller) (id : ChannelId) (p : Position) (size : UInt32) :
    DriveView (Disks Bus) where
  size := size
  Sound s := ∃ d, Carries c id p d s ∧ d.Faultless size.toNat
  image s :=
    match (s.machine.channel id).drive? p with
    | some d => d.medium.content
    | none => fun _ => Sector.zero

variable {c : Controller} {drive : UInt8} {id : ChannelId} {p : Position} {size : UInt32}

theorem image_view {d : Drive} {s : Disks Bus} (h : Carries c id p d s) :
    (view c id p size).image s = d.medium.content := by
  simp only [view, h.drive]

theorem holds_view {d : Drive} {s : Disks Bus} (h : Carries c id p d s)
    (hd : d.Faultless size.toNat) : (view c id p size).Holds d.medium.content s :=
  ⟨⟨d, h, hd⟩, image_view h⟩

variable {identity : Identity}

/-- A write that stays on the disk is done. -/
theorem writes_within (hfind : c.find drive = .ok (id, p, identity)) (hsize : size.toNat ≤ 2 ^ 28)
    {d : Drive} {s : Disks Bus} (hs : Carries c id p d s) (hd : d.Faultless size.toNat)
    {lba : UInt32} {data : Bytes} {n : Nat} (hn : 1 ≤ n) (hdata : data.size = n * 512)
    (hend : lba.toNat + n ≤ size.toNat) :
    ∃ s' d' commands flushes, BlockDevice.writeSectors drive lba data s = .ok () s'
      ∧ Carries c id p d' s'
      ∧ d.Grown (d.medium.content.overlay lba.toNat n (Sectors.ofRun data)) commands flushes d' := by
  obtain ⟨controller, b⟩ := s
  cases hs.controller
  obtain ⟨e, b', d', hresult, hserved, k, hstop, hgrown⟩ :=
    Controller.writeSectors_responsive hfind hs.drive hd.responsive hs.latency lba hn hdata
  have hstored : (fun i => d.stored (Sectors.ofRun data i)) = Sectors.ofRun data := by
    funext i
    rw [Drive.stored, hd.faithful]
    rfl
  cases hstop with
  | first lt clear stop =>
    rw [hd.obstacle_eq_none hend hsize lt] at stop
    cases stop
  | never clear =>
    have hcarries : Carries controller id p d' ⟨controller, b'⟩ :=
      ⟨rfl, hserved.drive, by rw [hserved.latency]; exact hs.latency⟩
    rw [hstored] at hgrown
    exact ⟨_, d', _, _, by simp only [BlockDevice.writeSectors, hresult]; rfl, hcarries, hgrown⟩

theorem view_wrote (hfind : c.find drive = .ok (id, p, identity)) (hsize : size.toNat ≤ 2 ^ 28)
    {d : Drive} {s : Disks Bus} (hs : Carries c id p d s) (hd : d.Faultless size.toNat)
    {lba : UInt32} {data : Bytes} {n : Nat} (hn : 1 ≤ n) (hdata : data.size = n * 512)
    (hend : lba.toNat + n ≤ size.toNat) :
    (view c id p size).Wrote False d.medium.content lba.toNat n (Sectors.ofRun data)
      (BlockDevice.writeSectors drive lba data s) := by
  obtain ⟨s', d', _, _, hwrite, hcarries, hgrown⟩ :=
    writes_within hfind hsize hs hd hn hdata hend
  have hholds := holds_view hcarries (hd.grown hgrown)
  rw [hgrown.content] at hholds
  rw [hwrite]
  exact hholds

/-- **An emulated disk without faults does not fail.** -/
theorem view_faultFree (hfind : c.find drive = .ok (id, p, identity))
    (hlimit : identity.size.toNat ≤ 2 ^ 28) : (view c id p identity.size).FaultFree drive where
  size := by
    rintro s ⟨d, hs, -⟩
    show s.controller.totalSectors drive = .ok identity.size
    rw [hs.controller, Controller.totalSectors, hfind]
    rfl
  note := by
    rintro m s ⟨⟨d, hs, hd⟩, himage⟩ report
    rw [image_view hs] at himage
    subst himage
    have hserved := (Bus.Served.refl hs.drive).noted report
    exact holds_view ⟨hs.controller, hserved.drive, hs.latency⟩ hd
  read := by
    rintro m s ⟨⟨d, hs, hd⟩, himage⟩ lba count buffer hpos hcount hlo hhi hbuffer
    rw [image_view hs] at himage
    subst himage
    have hread := readsWithin hfind hd.responsive hlimit hd.large (fun j _ hj => hd.good j hj) hs
      hpos hcount hlo hhi hbuffer
    exact hread.mono fun s' hs' => holds_view hs' hd
  write := by
    rintro m s ⟨⟨d, hs, hd⟩, himage⟩ lba data n hn hdata hend
    rw [image_view hs] at himage
    subst himage
    exact view_wrote hfind hlimit hs hd hn hdata hend

/-! ## §2 A driver with one disk -/

theorem find_single : (Controller.single 1024).find 0 = .ok (.primary, .master,
    Identity.ofBytes (Drive.blankWith 1024 {}).identification.toBytes) := rfl

/-- To a driver with a disk of 1024 sectors it does not fail. -/
theorem single_faultFree :
    (view (Controller.single 1024) .primary .master 1024).FaultFree 0 := by
  have hv := view_faultFree find_single (by rw [Drive.size_identification]; decide)
  rwa [Drive.size_identification] at hv

end Disks

end AtaVolume
