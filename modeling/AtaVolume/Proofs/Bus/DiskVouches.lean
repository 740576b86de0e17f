/-
AtaVolume.Proofs.Bus.DiskVouches — what was read of an emulated drive can be written.

The sectors that a driver can read it can also write, even on a drive that stores
something else than it is given; writing changes nothing of that. So on every machine,
with whatever faults, the reads of a driver vouch for its writes (`exists_vouches`).
-/
import AtaVolume.Proofs.Bus.DiskServes
import AtaVolume.Proofs.Bus.Enumeration
import AtaVolume.Proofs.Device.Vouching

namespace AtaVolume

open DriveView (Within)

/-! ## §1 What can be read can be written -/

/-- Nothing is in the way of a write to such sectors, whatever was written before. -/
theorem Drive.Grown.obstacle_eq_none {d d' : Drive} {m : Sectors} {commands : List (UInt32 × Nat)}
    {flushes latency : Nat} {budget : UInt32} (h : d.Grown m commands flushes d') {lba n : Nat}
    (hreaches : Within (d.Reaches latency budget) lba n) {j : Nat} (hj : j < n) :
    d'.obstacle lba n j = none := by
  have hgood := (hreaches (lba + j) (by omega) (by omega)).good
  have hlast := hreaches (lba + n - 1) (by omega) (by omega)
  have hnear := hlast.near
  have hthere := hlast.there
  rw [h.obstacle, Drive.obstacle, if_neg (by omega), if_neg (by omega), hgood]
  rfl

namespace Disks

/-- Between two states no drive has changed, and neither has the driver. -/
structure Unwritten (s s' : Disks Bus) : Prop where
  controller : s'.controller = s.controller
  latency : s'.machine.latency = s.machine.latency
  drives : s.machine.SameDrives s'.machine

theorem Unwritten.refl (s : Disks Bus) : Unwritten s s := ⟨rfl, rfl, .refl _⟩

variable {drive : UInt8} {id : ChannelId} {p : Position} {identity : Identity} {d : Drive}
  {s s' : Disks Bus}

theorem Unwritten.noted (h : Unwritten s s') (report : Report) :
    Unwritten s (BlockDevice.note report s') :=
  ⟨h.controller, h.latency, h.drives.trans (Bus.sameDrives_note _ report)⟩

/-- Accesses that leave their drive as it was. -/
theorem Unwritten.served {b' : Bus} (h : Unwritten s s')
    (hdrive : (s'.machine.channel id).drive? p = some d) (hserved : s'.machine.Served id p d b') :
    Unwritten s ⟨s'.controller, b'⟩ where
  controller := h.controller
  latency := hserved.latency.trans h.latency
  drives := by
    refine h.drives.trans fun id' p' => ?_
    by_cases hplace : (id', p') = (id, p)
    · cases hplace
      rw [hserved.drive, hdrive]
    · exact hserved.others id' p' hplace

/-- Nothing is read of a drive that the driver does not know. -/
theorem vouches_unknown {e : AtaError} (hfind : s.controller.find drive = .error e) :
    BlockDevice.Vouches drive (fun _ => False) (Unwritten s) where
  note h report := h.noted report
  read := by
    rintro ⟨controller, b⟩ h lba count buffer - - -
    have hsame : controller = s.controller := h.controller
    rw [readSectors_error (Controller.readSectors_unknown (hsame ▸ hfind) _ lba buffer b)]
    exact .of_error h rfl

section Found

variable (hfind : s.controller.find drive = .ok (id, p, identity))
  (hdrive : (s.machine.channel id).drive? p = some d)

include hfind hdrive in
/-- **What is read of a drive can be used.** -/
theorem vouches_found :
    BlockDevice.Vouches drive (d.Reaches s.machine.latency s.controller.pollBudget)
      (Unwritten s) where
  note h report := h.noted report
  read := by
    rintro ⟨controller, b⟩ h lba count buffer hpos hcount hbuffer
    have hsame : controller = s.controller := h.controller
    have hlatency : b.latency = s.machine.latency := h.latency
    have hdrive' : (b.channel id).drive? p = some d := (h.drives id p).trans hdrive
    have hnat : (UInt16.ofNat count).toNat = count :=
      UInt16.toNat_ofNat_of_lt' (show count < 2 ^ 16 by omega)
    have hroom : (UInt16.ofNat count).toNat * 512 ≤ buffer.size := by omega
    rw [← hsame] at hfind
    obtain ⟨result, buffer', b', hserved, hread, htells⟩ :=
      Controller.readSectors_tells hfind hdrive' lba (by omega) (by omega) hroom
    rw [hnat, hsame, hlatency] at htells
    simp only [BlockDevice.readSectors, hread]
    exact ⟨h.served hdrive' hserved, htells⟩

/-- The drive after writes: its content may be another, but what is wrong with it is what
was wrong before. -/
structure Written (s : Disks Bus) (id : ChannelId) (p : Position) (d : Drive) (s' : Disks Bus) :
    Prop where
  controller : s'.controller = s.controller
  latency : s'.machine.latency = s.machine.latency
  grown : ∃ m commands flushes d', (s'.machine.channel id).drive? p = some d'
    ∧ d.Grown m commands flushes d'

include hdrive in
theorem written_of_unwritten (h : Unwritten s s') : Written s id p d s' where
  controller := h.controller
  latency := h.latency
  grown := ⟨_, _, _, d, (h.drives id p).trans hdrive, .refl d⟩

include hfind in
/-- **What can be used can be written**, over and over. -/
theorem accepts_found :
    BlockDevice.Accepts drive (d.Reaches s.machine.latency s.controller.pollBudget)
      (Written s id p d) where
  note := by
    rintro s' ⟨hsame, hlatency, m, commands, flushes, d', hdrive', hgrown⟩ report
    have hserved := (Bus.Served.refl hdrive').noted report
    exact ⟨hsame, hserved.latency.trans hlatency, m, commands, flushes, d', hserved.drive, hgrown⟩
  write := by
    rintro ⟨controller, b⟩ ⟨hsame, hlatency, m, commands, flushes, d', hdrive', hgrown⟩ lba data n hn
      hdata hreaches
    simp only at hsame hlatency hdrive'
    subst hsame
    have hfirst := hreaches lba.toNat (Nat.le_refl _) (by omega)
    obtain ⟨e, b', d'', hresult, hserved, k, hstop, hgrown'⟩ := Controller.writeSectors_responsive
      hfind hdrive' (hgrown.responsive hfirst.responsive)
      (Nat.le_trans (Nat.le_of_eq hlatency) hfirst.timely) lba hn hdata
    cases hstop with
    | first hlt clear stop =>
      rw [hgrown.obstacle_eq_none hreaches hlt] at stop
      cases stop
    | never clear =>
      refine ⟨⟨s.controller, b'⟩, ?_, rfl, hserved.latency.trans hlatency, _, _, _, d'',
        hserved.drive, hgrown.trans hgrown'⟩
      simp only [BlockDevice.writeSectors, hresult]
      rfl

end Found

/-- **On every machine the reads of a driver vouch for its writes**, as long as its disks
are where it found them. -/
theorem exists_vouches (h : s.controller.Finds s.machine) (drive : UInt8) :
    ∃ good J, BlockDevice.Vouches drive good (Unwritten s) ∧ BlockDevice.Accepts drive good J
      ∧ ∀ s', Unwritten s s' → J s' := by
  cases hfind : s.controller.find drive with
  | error e =>
    exact ⟨fun _ => False, fun _ => True, vouches_unknown hfind, .none, fun _ _ => trivial⟩
  | ok place =>
    obtain ⟨id, p, identity⟩ := place
    obtain ⟨slot, -, rfl, rfl, hsome⟩ := h drive id p identity hfind
    obtain ⟨d, hdrive⟩ := Option.isSome_iff_exists.1 hsome
    exact ⟨_, _, vouches_found hfind hdrive, accepts_found hfind,
      fun s' => written_of_unwritten hdrive⟩

end Disks

end AtaVolume
