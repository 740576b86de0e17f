/-
AtaVolume.Proofs.Bus.DiskServes — an emulated disk of which some sectors are bad.

As long as a disk answers and stores what it is given, it serves the sectors that are
there and not bad, and refuses every read that touches another one.
-/
import AtaVolume.Proofs.Bus.DiskStores
import AtaVolume.Proofs.Bus.Refusals

namespace AtaVolume

open DriveView (Within)

/-! ## §1 Disks that work in part -/

/-- Of the disk exactly the sectors in `good` work. -/
structure Drive.WorksOn (d : Drive) (good : Nat → Prop) : Prop where
  responsive : d.Responsive
  faithful : d.faults.corruptWrites = false
  good_iff : ∀ j, good j
    ↔ j < 2 ^ 28 ∧ j < d.medium.capacity ∧ d.isBad (UInt32.ofNat j) = false

namespace Drive.WorksOn

variable {d d' : Drive} {good : Nat → Prop} {m : Sectors} {commands : List (UInt32 × Nat)}
  {flushes : Nat}

theorem grown (h : d.WorksOn good) (hgrown : d.Grown m commands flushes d') :
    d'.WorksOn good where
  responsive := hgrown.responsive h.responsive
  faithful := by rw [hgrown.faults, h.faithful]
  good_iff j := by rw [h.good_iff, hgrown.capacity, hgrown.isBad]

/-- A range that works ends where the disk ends, at the latest. -/
theorem bounds (h : d.WorksOn good) {lba n : Nat} (hn : 1 ≤ n) (hgood : Within good lba n) :
    lba + n ≤ 2 ^ 28 ∧ lba + n ≤ d.medium.capacity := by
  obtain ⟨hlimit, hend, -⟩ := (h.good_iff _).1 (hgood (lba + n - 1) (by omega) (by omega))
  omega

theorem obstacle_eq_none (h : d.WorksOn good) {lba n j : Nat} (hgood : Within good lba n)
    (hj : j < n) : d.obstacle lba n j = none := by
  obtain ⟨hlimit, hend⟩ := h.bounds (by omega) hgood
  have hnotBad := ((h.good_iff _).1 (hgood (lba + j) (by omega) (by omega))).2.2
  rw [Drive.obstacle, if_neg (by omega), if_neg (by omega), hnotBad]
  rfl

end Drive.WorksOn

/-! ## §2 What is served and what is refused -/

namespace Disks

/-- The disk at a position of a channel, of which the sectors in `good` work. -/
def partView (c : Controller) (id : ChannelId) (p : Position) (size : UInt32) (good : Nat → Prop) :
    DriveView (Disks Bus) :=
  { view c id p size with Sound := fun s => ∃ d, Carries c id p d s ∧ d.WorksOn good }

variable {c : Controller} {drive : UInt8} {id : ChannelId} {p : Position} {size : UInt32}
  {good : Nat → Prop} {identity : Identity}

theorem holds_partView {d : Drive} {s : Disks Bus} (h : Carries c id p d s)
    (hd : d.WorksOn good) : (partView c id p size good).Holds d.medium.content s :=
  ⟨⟨d, h, hd⟩, (image_view h : (view c id p size).image s = d.medium.content)⟩

/-- What is there to know of a disk that holds something. -/
theorem exists_of_holds {m : Sectors} {s : Disks Bus}
    (h : (partView c id p size good).Holds m s) :
    ∃ d, Carries c id p d s ∧ d.WorksOn good ∧ m = d.medium.content := by
  obtain ⟨⟨d, hs, hd⟩, himage⟩ := h
  have hcontent : (view c id p size).image s = d.medium.content := image_view hs
  exact ⟨d, hs, hd, himage.symm.trans hcontent⟩

/-- **The sectors that are not bad are served.** -/
theorem partView_serves (hfind : c.find drive = .ok (id, p, identity))
    (hbound : ∀ {j}, good j → j < 2 ^ 28) : (partView c id p size good).Serves drive good where
  present := by
    rintro s ⟨d, hs, -⟩
    refine ⟨identity.size, ?_⟩
    show s.controller.totalSectors drive = .ok identity.size
    rw [hs.controller, Controller.totalSectors, hfind]
    rfl
  note := by
    intro m s hs report
    obtain ⟨d, hcarries, hd, rfl⟩ := exists_of_holds hs
    have hserved := (Bus.Served.refl hcarries.drive).noted report
    exact holds_partView ⟨hcarries.controller, hserved.drive, hcarries.latency⟩ hd
  read := by
    intro m lo hi hgood s hs lba count buffer hpos hcount hlo hhi hbuffer
    obtain ⟨d, hcarries, hd, rfl⟩ := exists_of_holds hs
    have hrange : Within good lba.toNat count := fun j hj hj' => hgood j (by omega) (by omega)
    obtain ⟨hlimit, hend⟩ := hd.bounds hpos hrange
    have hread := readsWithin hfind hd.responsive hlimit hend
      (fun j hj hj' => ((hd.good_iff j).1 (hrange j hj hj')).2.2) hcarries hpos hcount
      (Nat.le_refl _) (Nat.le_refl _) hbuffer
    exact hread.mono fun s' hs' => holds_partView hs' hd
  write := by
    rintro m ⟨controller, b⟩ hs lba data n hn hdata hgood
    obtain ⟨d, hcarries, hd, rfl⟩ := exists_of_holds hs
    cases hcarries.controller
    obtain ⟨e, b', d', hresult, hserved, k, hstop, hgrown⟩ :=
      Controller.writeSectors_responsive hfind hcarries.drive hd.responsive hcarries.latency lba hn
        hdata
    have hstored : (fun i => d.stored (Sectors.ofRun data i)) = Sectors.ofRun data := by
      funext i
      rw [Drive.stored, hd.faithful]
      rfl
    cases hstop with
    | first lt clear stop =>
      rw [hd.obstacle_eq_none hgood lt] at stop
      cases stop
    | never clear =>
      have hcarries' : Carries controller id p d' ⟨controller, b'⟩ :=
        ⟨rfl, hserved.drive, by rw [hserved.latency]; exact hcarries.latency⟩
      have hholds : (partView controller id p size good).Holds d'.medium.content _ :=
        holds_partView hcarries' (hd.grown hgrown)
      rw [hgrown.content, hstored] at hholds
      simp only [BlockDevice.writeSectors, hresult]
      exact hholds
  bound hj := by
    have hlt := hbound hj
    omega

/-- The driver's error is the device's. -/
theorem readSectors_error {controller : Controller} {b b' : Bus} {count : UInt16} {lba : UInt32}
    {buffer buffer' : Bytes} {e : AtaError}
    (hread : controller.readSectors drive count lba buffer b = ⟨.error e, buffer', b'⟩) :
    BlockDevice.readSectors drive count lba buffer (⟨controller, b⟩ : Disks Bus)
      = ⟨.error e, buffer', ⟨controller, b'⟩⟩ := by
  simp only [BlockDevice.readSectors, hread]

/-- **A read that touches any other sector fails**, at the limit of the driver, at the
end of the disk or at a bad sector. -/
theorem partView_guards (hfind : c.find drive = .ok (id, p, identity)) :
    (partView c id p size good).Guards drive good where
  refuse := by
    rintro m ⟨controller, b⟩ hs lba count buffer hpos hcount hbuffer hbad
    obtain ⟨d, hcarries, hd, rfl⟩ := exists_of_holds hs
    cases hcarries.controller
    have hnat : (UInt16.ofNat count).toNat = count :=
      UInt16.toNat_ofNat_of_lt' (show count < 2 ^ 16 by omega)
    have hroom : (UInt16.ofNat count).toNat * 512 ≤ buffer.size := by omega
    obtain ⟨result, buffer', b', hserved, hread, htells⟩ :=
      Controller.readSectors_tells hfind hcarries.drive lba (by omega) (by omega) hroom
    rw [hnat] at htells
    cases result with
    | ok _ =>
      refine absurd (fun j hj hj' => (hd.good_iff j).2 ?_) hbad
      have hreaches := htells rfl j hj hj'
      exact ⟨hreaches.near, hreaches.there, hreaches.good⟩
    | error e =>
      rw [readSectors_error hread]
      have hlatency : b'.latency ≤ controller.pollBudget.toNat := by
        rw [hserved.latency]
        exact hcarries.latency
      exact ⟨e, rfl, holds_partView ⟨rfl, hserved.drive, hlatency⟩ hd⟩

/-! ## §3 A machine with one disk -/

/-- A machine with one disk in the first slot, for a driver that takes it to have 1024
sectors. -/
def alone (d : Drive) : Disks Bus := ⟨Controller.single 1024, Bus.single d⟩

/-- The disk of such a machine, of which the sectors in `good` work. -/
abbrev aloneView (good : Nat → Prop) : DriveView (Disks Bus) :=
  partView (Controller.single 1024) .primary .master 1024 good

theorem aloneView_serves (hbound : ∀ {j}, good j → j < 2 ^ 28) : (aloneView good).Serves 0 good :=
  partView_serves find_single hbound

theorem aloneView_guards : (aloneView good).Guards 0 good := partView_guards find_single

theorem holds_alone {d : Drive} (hd : d.WorksOn good) :
    (aloneView good).Holds d.medium.content (alone d) := by
  have hlatency : defaultLatency ≤ (Controller.single 1024).pollBudget.toNat := by decide
  exact holds_partView ⟨rfl, rfl, hlatency⟩ hd

end Disks

/-- All sectors of a disk without faults work. -/
theorem Drive.worksOn_sound {medium : Medium} {n : Nat} (h : medium.capacity = n) (hn : n ≤ 2 ^ 28) :
    { Drive.blankWith 1024 {} with medium }.WorksOn (· < n) where
  responsive := ⟨rfl, rfl, rfl⟩
  faithful := rfl
  good_iff j := by
    subst h
    exact ⟨fun hj => ⟨by omega, hj, rfl⟩, fun hj => hj.2.1⟩

end AtaVolume
