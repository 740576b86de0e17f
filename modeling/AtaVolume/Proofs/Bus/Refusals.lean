/-
AtaVolume.Proofs.Bus.Refusals — what a read of an emulated drive tells about the drive.

A read changes no drive, however it ends. It ends well only if the drive is a disk that
answers in time and none of the sectors is bad or missing (`readSectors_tells`). All
other drives say so at the first poll, if they say anything at all
(`readSectors_unresponsive`).
-/
import AtaVolume.Proofs.Bus.Leftovers
import AtaVolume.Proofs.Bus.Reading
import AtaVolume.Proofs.Device.Serving

namespace AtaVolume

open DriveView (Within)

/-! ## §1 Drives that bring nothing -/

namespace TaskFile

variable {t : TaskFile} {d : Drive} {p : Position} {lba : UInt32} {n latency : Nat}

theorem busyReads_load (t : TaskFile) (d : Drive) (lba : UInt32) :
    (t.load d lba).busyReads = t.busyReads := by
  unfold load
  split
  · rfl
  · split <;> rfl

/-- A command to read leaves the drive as it is, which answers busy at first. -/
theorem commanded_read_leaves (t : TaskFile) (p : Position) (d : Drive) (lba : UInt32)
    (n latency : Nat) :
    (t.commanded p d lba n cmdReadSectors latency).2 = d
      ∧ (t.commanded p d lba n cmdReadSectors latency).1.busyReads = latency := by
  unfold commanded
  by_cases hkind : d.kind = .ata
  · cases hfault : d.faults.deviceFault with
    | true =>
      rw [command_fault _ _ hkind hfault (by decide)]
      exact ⟨rfl, rfl⟩
    | false =>
      rw [command_read _ _ hkind hfault]
      refine ⟨rfl, ?_⟩
      unfold startRead
      split
      · exact busyReads_load _ d _
      · rfl
  · rw [command_packet hkind (by decide)]
    exact ⟨rfl, rfl⟩

/-- A drive in use that brings no data: it stays busy for too long, or it has failed. -/
def Refuses (t : TaskFile) (d : Drive) (budget : UInt32) : Prop :=
  (d.faults.stuckBusy = true ∨ budget.toNat < t.busyReads) ∨ t.status = .failure ∨ t.status = .fault

/-- What is no disk, or has a fault, says so when it is to be read. -/
theorem commanded_read_failed (h : d.kind ≠ .ata ∨ d.faults.deviceFault = true) :
    (t.commanded p d lba n cmdReadSectors latency).1.status = .failure
      ∨ (t.commanded p d lba n cmdReadSectors latency).1.status = .fault := by
  unfold commanded
  by_cases hkind : d.kind = .ata
  · rw [command_fault _ _ hkind (h.resolve_left (not_not_intro hkind)) (by decide)]
    exact .inr rfl
  · rw [command_packet hkind (by decide)]
    exact .inl rfl

theorem commanded_read_refuses {budget : UInt32}
    (h : ¬ (d.Responsive ∧ latency ≤ budget.toNat)) :
    (t.commanded p d lba n cmdReadSectors latency).1.Refuses d budget := by
  unfold Refuses
  rw [(commanded_read_leaves t p d lba n latency).2]
  by_cases hbusy : d.faults.stuckBusy = true ∨ budget.toNat < latency
  · exact .inl hbusy
  · obtain ⟨hfree, hlate⟩ := not_or.1 hbusy
    refine .inr (commanded_read_failed ?_)
    by_contra hanswers
    obtain ⟨hkind, hsound⟩ := not_or.1 hanswers
    have hd : d.Responsive :=
      ⟨not_not.1 hkind, eq_false_of_ne_true hfree, eq_false_of_ne_true hsound⟩
    exact h ⟨hd, Nat.le_of_not_lt hlate⟩

end TaskFile

namespace Wire

variable {id : ChannelId} {c : BusChannel} {p : Position} {t : TaskFile} {d : Drive} {b : Bus}

/-- A poll for data fails on such a drive. -/
theorem pollStatus_refused (budget : UInt32) (h : b.channel id = c.engaged p t d)
    (hrefuses : t.Refuses d budget) :
    ∃ e b' t', pollStatus budget id true b = .error e b' ∧ b.Turned id (c.engaged p t' d) b' := by
  by_cases hbusy : d.faults.stuckBusy = true ∨ budget.toNat < t.busyReads
  · obtain ⟨b', k, hpoll, hturned⟩ := pollStatus_engaged_timeout budget true h hbusy
    exact ⟨_, b', _, hpoll, hturned⟩
  · obtain ⟨hstuck, hlate⟩ := not_or.1 hbusy
    have hfree : d.faults.stuckBusy = false := eq_false_of_ne_true hstuck
    have hbudget : t.busyReads ≤ budget.toNat := Nat.le_of_not_lt hlate
    rcases hrefuses.resolve_left hbusy with hfailure | hfault
    · obtain ⟨b', hpoll, hturned⟩ := pollStatus_failure budget h hfree hbudget hfailure
      exact ⟨_, b', _, hpoll, hturned⟩
    · obtain ⟨b', hpoll, hturned⟩ := pollStatus_fault budget h hfree hbudget hfault
      exact ⟨_, b', _, hpoll, hturned⟩

end Wire

namespace Controller

open Wire

variable {c : Controller} {b : Bus} {drive : UInt8} {id : ChannelId} {p : Position}
  {identity : Identity} {d : Drive}

/-- **A drive that does not answer in time brings nothing**, and stays as it is. -/
theorem readSectors_unresponsive (hfind : c.find drive = .ok (id, p, identity))
    (hdrive : (b.channel id).drive? p = some d)
    (hd : ¬ (d.Responsive ∧ b.latency ≤ c.pollBudget.toNat)) {count : UInt16} {lba : UInt32}
    {buffer : Bytes} (hpos : 1 ≤ count.toNat) (hcount : count.toNat ≤ 256)
    (hlimit : lba.toNat + count.toNat ≤ 2 ^ 28) (hbuffer : count.toNat * 512 ≤ buffer.size) :
    ∃ e b', b.Served id p d b'
      ∧ c.readSectors drive count lba buffer b = ⟨.error e, buffer, b'⟩ := by
  have hissue := noted_issue_turned hdrive
    (.trace s!"read drive {drive} lba {lba} count {count.toNat}") lba count.toNat cmdReadSectors
  rw [(TaskFile.commanded_read_leaves _ p d lba count.toNat b.latency).1] at hissue
  obtain ⟨e, b', t', hpoll, hpolled⟩ := pollStatus_refused c.pollBudget hissue.channel
    (TaskFile.commanded_read_refuses hd)
  obtain ⟨n, hn⟩ : ∃ n, count.toNat = n + 1 := ⟨count.toNat - 1, by omega⟩
  refine ⟨e, b', (hissue.trans hpolled).served, ?_⟩
  rw [hn] at hpoll
  rw [readSectors_eq hfind hpos hcount hlimit hbuffer, hn, receive_succ, hpoll]
  simp only [overwriteFront_empty]

end Controller

/-! ## §2 Drives that bring what was asked for -/

/-- The driver can use sector `j` of the drive: the drive is a disk that answers in time
and has the sector, 28 bits address it, and it is not bad. -/
structure Drive.Reaches (d : Drive) (latency : Nat) (budget : UInt32) (j : Nat) : Prop where
  responsive : d.Responsive
  timely : latency ≤ budget.toNat
  near : j < 2 ^ 28
  there : j < d.medium.capacity
  good : d.isBad (UInt32.ofNat j) = false

/-- **What a read tells.** It leaves its drive as it is, and it ends well only if the driver
can use all of the sectors. -/
theorem Controller.readSectors_tells {c : Controller} {b : Bus} {drive : UInt8} {id : ChannelId}
    {p : Position} {identity : Identity} {d : Drive} (hfind : c.find drive = .ok (id, p, identity))
    (hdrive : (b.channel id).drive? p = some d) {count : UInt16} (lba : UInt32) {buffer : Bytes}
    (hpos : 1 ≤ count.toNat) (hcount : count.toNat ≤ 256)
    (hbuffer : count.toNat * 512 ≤ buffer.size) :
    ∃ result buffer' b', b.Served id p d b'
      ∧ c.readSectors drive count lba buffer b = ⟨result, buffer', b'⟩
      ∧ (result = .ok () → Within (d.Reaches b.latency c.pollBudget) lba.toNat count.toNat) := by
  by_cases hlimit : lba.toNat + count.toNat ≤ 2 ^ 28
  case neg =>
    have hread := readSectors_limit hfind hpos hcount (Nat.lt_of_not_le hlimit) hbuffer b
    exact ⟨_, _, b, .refl hdrive, hread, fun hok => by cases hok⟩
  by_cases hd : d.Responsive ∧ b.latency ≤ c.pollBudget.toNat
  case neg =>
    obtain ⟨e, b', hserved, hread⟩ := readSectors_unresponsive hfind hdrive hd hpos hcount hlimit
      hbuffer
    exact ⟨_, _, b', hserved, hread, fun hok => by cases hok⟩
  obtain ⟨hresponsive, htimely⟩ := hd
  by_cases hend : lba.toNat + count.toNat ≤ d.medium.capacity
  case neg =>
    obtain ⟨b', hserved, hread⟩ := readSectors_beyond hfind hdrive hresponsive htimely hpos hcount
      hlimit hbuffer (Nat.lt_of_not_le hend)
    exact ⟨_, _, b', hserved, hread, fun hok => by cases hok⟩
  obtain ⟨b', hserved, hread⟩ := readSectors_within hfind hdrive hresponsive htimely hpos hcount
    hlimit hbuffer hend
  refine ⟨_, _, b', hserved, hread, fun hok j hj hj' => ?_⟩
  -- the read came to its end, so it met no bad sector
  have hrun : ¬ d.goodRun lba.toNat count.toNat < count.toNat := by
    intro hshort
    rw [if_pos hshort] at hok
    cases hok
  have hgood := d.isBad_of_lt_goodRun
    (show j - lba.toNat < d.goodRun lba.toNat count.toNat by omega)
  rw [Nat.add_sub_cancel' hj] at hgood
  exact ⟨hresponsive, htimely, by omega, by omega, hgood⟩

end AtaVolume
