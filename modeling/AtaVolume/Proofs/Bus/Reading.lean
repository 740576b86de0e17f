/-
AtaVolume.Proofs.Bus.Reading — what a driver's read brings from an emulated
drive.

The drive loads the next sector while the last word of the one before is read,
so a bad sector is reported by the poll that comes after it was loaded. The
induction over the sectors left starts each round with a sector that is loaded
(`receive_engaged`); the driver's call is one command (`readSectors_effect`).
-/
import AtaVolume.Proofs.Bus.Obstacles
import AtaVolume.Proofs.Device.Ranges

namespace AtaVolume

/-! ## §1 Loading -/

namespace TaskFile

theorem load_bad {d : Drive} {lba : UInt32} (h : d.isBad lba = true) (t : TaskFile) :
    t.load d lba = t.fail errUncorrectable :=
  if_pos h

theorem load_good {d : Drive} {lba : UInt32} (h : d.isBad lba = false)
    (hlt : lba.toNat < d.medium.capacity) (t : TaskFile) :
    t.load d lba
      = { t with buffer := d.medium.content lba.toNat, cursor := 0, status := .transferDue } := by
  rw [load, if_neg (by rw [h]; decide), Medium.readSector_eq, if_pos hlt]

/-- Sector `lba` was loaded, the first of `n`; nothing is said when none are
left. -/
def Offering (t : TaskFile) (d : Drive) (lba : UInt32) (n latency : Nat) : Prop :=
  n ≠ 0 → ∃ t₀ : TaskFile, t = t₀.load d lba ∧ t₀.phase = .read lba n ∧ t₀.busyReads = latency

theorem offering_load {t : TaskFile} {d : Drive} {lba : UInt32} {n latency : Nat}
    (h : t.phase = .read lba n) (hbusy : t.busyReads = latency) :
    (t.load d lba).Offering d lba n latency :=
  fun _ => ⟨t, rfl, h, hbusy⟩

/-- The next sector is loaded when the one before has been read. -/
theorem offering_advanceRead {t : TaskFile} {lba : UInt32} {n : Nat}
    (h : t.phase = .read lba (n + 1)) (d : Drive) (latency : Nat) :
    (t.advanceRead d latency).Offering d (lba + 1) n latency := by
  intro hn
  refine ⟨{ t with phase := .read (lba + 1) n, busyReads := latency }, ?_, rfl, rfl⟩
  rw [advanceRead, h]
  exact if_pos (by omega)

end TaskFile

namespace Wire

variable {id : ChannelId} {c : BusChannel} {p : Position} {t : TaskFile} {d : Drive} {b : Bus}

/-! ## §2 One sector -/

/-- A bad sector was not loaded, which the poll tells. -/
theorem sector_missed (budget : UInt32) {lba : UInt32} {n : Nat}
    (h : b.channel id = c.engaged p t d) (ht : t.Offering d lba (n + 1) b.latency)
    (hbad : d.isBad lba = true) (hstuck : d.faults.stuckBusy = false)
    (hbudget : b.latency ≤ budget.toNat) :
    ∃ b' t', pollStatus budget id true b = .error (.deviceError errUncorrectable) b'
      ∧ b.Turned id (c.engaged p t' d) b' := by
  obtain ⟨t₀, rfl, -, hbusy⟩ := ht (Nat.succ_ne_zero n)
  rw [TaskFile.load_bad hbad] at h
  obtain ⟨b', hpoll, hpolled⟩ := pollStatus_failure budget h hstuck
    (show t₀.busyReads ≤ budget.toNat by omega) rfl
  exact ⟨b', _, hpoll, hpolled⟩

/-- A good sector is polled for and received, and the next one is loaded. -/
theorem sector_received (budget : UInt32) {lba : UInt32} {n : Nat}
    (h : b.channel id = c.engaged p t d) (ht : t.Offering d lba (n + 1) b.latency)
    (hgood : d.isBad lba = false) (hlt : lba.toNat < d.medium.capacity)
    (hstuck : d.faults.stuckBusy = false) (hbudget : b.latency ≤ budget.toNat) (acc : Bytes) :
    ∃ b₁ b₂ t₂, pollStatus budget id true b = .ok () b₁
      ∧ readSectorData id acc b₁ = (acc ++ (d.medium.content lba.toNat).toBytes, b₂)
      ∧ b.Turned id (c.engaged p t₂ d) b₂
      ∧ TaskFile.Offering t₂ d (lba + 1) n b.latency := by
  obtain ⟨t₀, rfl, hphase, hbusy⟩ := ht (Nat.succ_ne_zero n)
  rw [TaskFile.load_good hgood hlt] at h
  obtain ⟨b₁, hpoll, hpolled⟩ := pollStatus_due budget h hstuck
    (show t₀.busyReads ≤ budget.toNat by omega) rfl
  obtain ⟨b₂, hread, hturned⟩ := readSectorData_engaged hpolled.channel
    (show Status.transferDue.dataRequest = true by rfl) rfl acc
  rw [hpolled.latency] at hturned
  exact ⟨b₁, b₂, _, hpoll, hread, hpolled.trans hturned,
    TaskFile.offering_advanceRead (by exact hphase) d b.latency⟩

/-! ## §3 All sectors of a command -/

/-- **The sectors up to the first bad one are received.** -/
theorem receive_engaged (budget : UInt32) {n : Nat} (lba : UInt32)
    (h : b.channel id = c.engaged p t d) (ht : t.Offering d lba n b.latency)
    (hstuck : d.faults.stuckBusy = false) (hbudget : b.latency ≤ budget.toNat)
    (hcap : lba.toNat + n ≤ d.medium.capacity) (acc : Bytes) :
    let k := d.goodRun lba.toNat n
    ∃ b' t', b.Turned id (c.engaged p t' d) b'
      ∧ receive budget id n acc b
        = (if k < n then .error (.deviceError errUncorrectable) else .ok (),
           acc ++ d.medium.content.bytes lba.toNat k, b') := by
  induction n generalizing b t lba acc with
  | zero =>
    refine ⟨b, t, ?_, ?_⟩
    · have := Bus.Turned.refl b id
      rwa [h] at this
    · rw [Drive.goodRun, Sectors.bytes_zero, Array.append_empty]
      rfl
  | succ n ih =>
    intro k
    cases hbad : d.isBad lba with
    | true =>
      have hk : k = 0 := Drive.goodRun_of_bad hbad n
      obtain ⟨b', t', hpoll, hpolled⟩ := sector_missed budget h ht hbad hstuck hbudget
      refine ⟨b', t', hpolled, ?_⟩
      rw [receive_succ, hpoll, hk, if_pos (by omega), Sectors.bytes_zero, Array.append_empty]
    | false =>
      have hk : k = 1 + d.goodRun (lba.toNat + 1) n := by
        rw [Nat.add_comm]
        exact Drive.goodRun_of_good hbad n
      have hlba : (lba + 1).toNat = lba.toNat + 1 := d.toNat_next (by omega)
      obtain ⟨b₁, b₂, t₂, hpoll, hread, hturned, hoffering⟩ := sector_received budget h ht hbad
        (by omega) hstuck hbudget acc
      obtain ⟨b', t', hturned', hreceive⟩ := ih (lba + 1) hturned.channel
        (by rw [hturned.latency]; exact hoffering) (by rw [hturned.latency]; exact hbudget)
        (by omega) (acc ++ (d.medium.content lba.toNat).toBytes)
      have hlt : k < n + 1 ↔ d.goodRun (lba.toNat + 1) n < n := by omega
      refine ⟨b', t', hturned.trans hturned', ?_⟩
      rw [receive_succ, hpoll]
      simp only [hread, hreceive, hlba, hlt]
      rw [hk, Sectors.bytes_add, Sectors.bytes_one, Array.append_assoc]

end Wire

/-! ## §4 The driver's call -/

namespace Drive

variable {d : Drive} {lba n k : Nat}

theorem goodRun_eq_of_good (h : ∀ j < n, d.isBad (UInt32.ofNat (lba + j)) = false) :
    d.goodRun lba n = n := by
  by_contra hne
  have hlt : d.goodRun lba n < n := Nat.lt_of_le_of_ne (d.goodRun_le lba n) hne
  exact absurd (isBad_goodRun hlt) (by rw [h _ hlt]; decide)

/-- A write that does not stop had room, and met no bad sector. -/
theorem StopsAt.of_none (h : d.StopsAt lba n k none) (hn : 1 ≤ n) :
    k = n ∧ lba + n ≤ 2 ^ 28 ∧ lba + n ≤ d.medium.capacity
      ∧ ∀ j < n, d.isBad (UInt32.ofNat (lba + j)) = false := by
  cases h with
  | never clear =>
    -- the last command ends where the write ends
    have hlast := clear ((n - 1) / 256 * 256) (by omega)
    have hstop : min n ((n - 1) / 256 * 256 + 256) = n := by omega
    rw [obstacle, hstop] at hlast
    have hstart : (n - 1) / 256 * 256 % 256 = 0 := by omega
    refine ⟨rfl, ?_, ?_, fun j hj => ?_⟩
    · by_contra hlimit
      rw [if_pos ⟨hstart, by omega⟩] at hlast
      cases hlast
    · by_contra hend
      split at hlast
      · cases hlast
      · rw [if_pos ⟨hstart, by omega⟩] at hlast
        cases hlast
    · cases hbad : d.isBad (UInt32.ofNat (lba + j)) with
      | false => rfl
      | true =>
        have hclear := clear j hj
        rw [obstacle, hbad] at hclear
        split at hclear
        · cases hclear
        · split at hclear <;> cases hclear

end Drive

namespace Controller

open Wire

variable {c : Controller} {b : Bus} {drive : UInt8} {id : ChannelId} {p : Position}
  {identity : Identity} {d : Drive}

theorem routeRead_sectors (hfind : c.find drive = .ok (id, p, identity)) {n : Nat} (hpos : 1 ≤ n)
    (hn : n ≤ 256) {lba : UInt32} (hlimit : lba.toNat + n ≤ 2 ^ 28) {room : Nat}
    (hroom : n * 512 ≤ room) : c.routeRead drive n lba room = .ok (id, p) := by
  have hzero : ¬ n = 0 := by omega
  have hmany : ¬ n > maxTransfer := by
    show ¬ n > 256
    omega
  have hsmall : ¬ room < n * sectorSize := by
    show ¬ room < n * 512
    omega
  have hlba : (!inLba28 lba n) = false := by
    rw [Bool.not_eq_false']
    exact decide_eq_true hlimit
  simp only [routeRead, hfind, bind, Except.bind, if_neg hzero, if_neg hmany, if_neg hsmall, hlba]
  rfl

/-- A read that would go beyond 28 bits is refused, and nothing is done. -/
theorem readSectors_limit {σ : Type} [PortSpace σ] (hfind : c.find drive = .ok (id, p, identity))
    {count : UInt16} {lba : UInt32} {buffer : Bytes} (hpos : 1 ≤ count.toNat)
    (hcount : count.toNat ≤ 256) (hlimit : 2 ^ 28 < lba.toNat + count.toNat)
    (hbuffer : count.toNat * 512 ≤ buffer.size) (s : σ) :
    c.readSectors drive count lba buffer s = ⟨.error (.lba28Limit lba), buffer, s⟩ := by
  have hzero : ¬ count.toNat = 0 := by omega
  have hmany : ¬ count.toNat > maxTransfer := Nat.not_lt.2 hcount
  have hsmall : ¬ buffer.size < count.toNat * sectorSize := Nat.not_lt.2 hbuffer
  have hlba : (!inLba28 lba count.toNat) = true := by
    rw [Bool.not_eq_true']
    exact decide_eq_false (Nat.not_le.2 hlimit)
  have hroute : c.routeRead drive count.toNat lba buffer.size = .error (.lba28Limit lba) := by
    simp only [routeRead, hfind, bind, Except.bind, if_neg hzero, if_neg hmany, if_neg hsmall, hlba]
    rfl
  rw [readSectors, hroute]

/-- A read on a machine with disks is one command, after a report. -/
theorem readSectors_eq {σ : Type} [PortSpace σ] (hfind : c.find drive = .ok (id, p, identity))
    {count : UInt16} {lba : UInt32} {buffer : Bytes} (hpos : 1 ≤ count.toNat)
    (hcount : count.toNat ≤ 256) (hlimit : lba.toNat + count.toNat ≤ 2 ^ 28)
    (hbuffer : count.toNat * 512 ≤ buffer.size) (s : σ) :
    c.readSectors drive count lba buffer s
      = (let r := receive c.pollBudget id count.toNat #[]
          (issue id p lba count.toNat cmdReadSectors
            (PortSpace.note (.trace s!"read drive {drive} lba {lba} count {count.toNat}") s))
         ⟨r.1, overwriteFront r.2.1 buffer, r.2.2⟩) := by
  rw [readSectors, routeRead_sectors hfind hpos hcount hlimit hbuffer]
  rfl

section Responsive

variable (hfind : c.find drive = .ok (id, p, identity))
  (hdrive : (b.channel id).drive? p = some d) (hd : d.Responsive)
  (hlatency : b.latency ≤ c.pollBudget.toNat) {count : UInt16} {lba : UInt32} {buffer : Bytes}
  (hpos : 1 ≤ count.toNat) (hcount : count.toNat ≤ 256)
  (hlimit : lba.toNat + count.toNat ≤ 2 ^ 28) (hbuffer : count.toNat * 512 ≤ buffer.size)

include hfind hdrive hd hlatency hpos hcount hlimit hbuffer

/-- A read beyond the end of the drive is refused. -/
theorem readSectors_beyond (hend : d.medium.capacity < lba.toNat + count.toNat) :
    ∃ b', b.Served id p d b'
      ∧ c.readSectors drive count lba buffer b
        = ⟨.error (.deviceError errNotFound), buffer, b'⟩ := by
  have hissue := noted_issue_turned hdrive
    (.trace s!"read drive {drive} lba {lba} count {count.toNat}") lba count.toNat cmdReadSectors
  have hholds : d.holds lba count.toNat = false := decide_eq_false (Nat.not_le_of_lt hend)
  rw [TaskFile.commanded_read_beyond hd.kind hd.sound (by omega) hpos hcount hholds] at hissue
  obtain ⟨b', hpoll, hpolled⟩ := pollStatus_failure c.pollBudget hissue.channel hd.free hlatency rfl
  refine ⟨b', (hissue.trans hpolled).served, ?_⟩
  obtain ⟨m, hm⟩ : ∃ m, count.toNat = m + 1 := ⟨count.toNat - 1, by omega⟩
  rw [hm] at hpoll
  rw [readSectors_eq hfind hpos hcount hlimit hbuffer, hm, receive_succ, hpoll]
  simp only [overwriteFront_empty]
  rfl

/-- **A read within the drive brings the sectors up to the first bad one.** -/
theorem readSectors_within (hend : lba.toNat + count.toNat ≤ d.medium.capacity) :
    let k := d.goodRun lba.toNat count.toNat
    ∃ b', b.Served id p d b'
      ∧ c.readSectors drive count lba buffer b
        = ⟨if k < count.toNat then .error (.deviceError errUncorrectable) else .ok (),
           d.medium.content.bytes lba.toNat k ++ buffer.extract (k * 512) buffer.size, b'⟩ := by
  intro k
  have hissue := noted_issue_turned hdrive
    (.trace s!"read drive {drive} lba {lba} count {count.toNat}") lba count.toNat cmdReadSectors
  have hholds : d.holds lba count.toNat = true := decide_eq_true hend
  rw [TaskFile.commanded_read_within hd.kind hd.sound (by omega) hpos hcount hholds] at hissue
  obtain ⟨b', t', hturned, hreceive⟩ := receive_engaged c.pollBudget lba hissue.channel
    (TaskFile.offering_load rfl hissue.latency.symm) hd.free
    (by rw [hissue.latency]; exact hlatency) hend #[]
  rw [Array.empty_append] at hreceive
  have hle : k ≤ count.toNat := d.goodRun_le _ _
  have hfront : (d.medium.content.bytes lba.toNat k).size ≤ buffer.size := by
    rw [Sectors.size_bytes]
    exact Nat.le_trans (Nat.mul_le_mul_right 512 hle) hbuffer
  refine ⟨b', (hissue.trans hturned).served, ?_⟩
  rw [readSectors_eq hfind hpos hcount hlimit hbuffer, hreceive]
  simp only
  rw [overwriteFront_eq_append hfront, Sectors.size_bytes]

end Responsive

end Controller

end AtaVolume
