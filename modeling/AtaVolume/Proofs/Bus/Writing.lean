/-
AtaVolume.Proofs.Bus.Writing — what a driver's write does to an emulated drive.

One command is followed through its stages: it is refused beyond the end of the
drive (`writeCommand_beyond`) and stores its sectors otherwise
(`writeCommand_within`), unless the drive does not answer. The commands of a
write follow by induction on the sectors left (`writeCommands_effect`), and the
driver's call from that (`writeSectors_effect`).
-/
import AtaVolume.Proofs.Bus.Obstacles

namespace AtaVolume

namespace Wire

variable {id : ChannelId} {p : Position} {d : Drive} {b : Bus}

/-! ## §1 One command -/

theorem toNat_le_of_inLba28 {lba : UInt32} {n : Nat} (h : inLba28 lba n = true) :
    lba.toNat + n ≤ 2 ^ 28 :=
  of_decide_eq_true h

/-- A command beyond the end of the drive is refused. -/
theorem writeCommand_beyond (budget : UInt32) (hdrive : (b.channel id).drive? p = some d)
    (hd : d.Responsive) (hbudget : b.latency ≤ budget.toNat) {lba : UInt32} {n : Nat}
    (hpos : 1 ≤ n) (hn : n ≤ 256) (hlimit : inLba28 lba n = true)
    (hend : d.medium.capacity < lba.toNat + n) (drive : UInt8) (data : Bytes) (i : Nat) :
    ∃ b', b.Served id p d b'
      ∧ writeCommand budget id p drive data lba n i b = .error (.deviceError errNotFound) b' := by
  have hbits := toNat_le_of_inLba28 hlimit
  have hissue := noted_issue_turned hdrive
    (.trace s!"write drive {drive} lba {lba} count {n}") lba n cmdWriteSectors
  have hholds : d.holds lba n = false := decide_eq_false (Nat.not_le_of_lt hend)
  rw [TaskFile.commanded_write_beyond hd.kind hd.sound (by omega) hpos hn hholds] at hissue
  obtain ⟨b', hpoll, hpolled⟩ := pollStatus_failure budget hissue.channel hd.free hbudget rfl
  refine ⟨b', (hissue.trans hpolled).served, ?_⟩
  obtain ⟨m, rfl⟩ : ∃ m, n = m + 1 := ⟨n - 1, by omega⟩
  rw [writeCommand_eq, if_pos hlimit, send_succ, hpoll]
  rfl

/-- **A command within the drive stores its sectors up to the first bad one.**
It is flushed unless it stops before its last sector. -/
theorem writeCommand_within (budget : UInt32) (hdrive : (b.channel id).drive? p = some d)
    (hd : d.Responsive) (hbudget : b.latency ≤ budget.toNat) {lba : UInt32} {n : Nat}
    (hpos : 1 ≤ n) (hn : n ≤ 256) (hlimit : inLba28 lba n = true)
    (hend : lba.toNat + n ≤ d.medium.capacity) (drive : UInt8) (data : Bytes) (j : Nat) :
    let k := d.goodRun lba.toNat n
    ∃ b' d', b.Served id p d' b'
      ∧ d.Grown (d.medium.content.overlay lba.toNat k fun i => d.stored (Sectors.ofRun data (j + i)))
          [(lba, n)] (if k + 1 < n then 0 else 1) d'
      ∧ writeCommand budget id p drive data lba n (j * 512) b
        = if k < n then .error (.deviceError errUncorrectable) b' else .ok () b' := by
  intro k
  have hbits := toNat_le_of_inLba28 hlimit
  have hissue := noted_issue_turned hdrive
    (.trace s!"write drive {drive} lba {lba} count {n}") lba n cmdWriteSectors
  have hholds : d.holds lba n = true := decide_eq_true hend
  rw [TaskFile.commanded_write_within hd.kind hd.sound (by omega) hpos hn hholds] at hissue
  have hcommand := d.grown_writeCommand lba n
  obtain ⟨m, rfl⟩ : ∃ m, n = m + 1 := ⟨n - 1, by omega⟩
  obtain ⟨b₁, t₁, d₁, hsent, hgrown, hresult⟩ := send_engaged budget lba hissue.channel
    hd.free (by rw [hissue.latency]; exact hbudget)
    ⟨rfl, rfl, rfl, by rw [hissue.latency]; rfl, rfl⟩ hend data j
  simp only [hcommand.goodRun, hcommand.stored] at hgrown hresult
  have hstored := hcommand.trans hgrown
  have hturned := hissue.trans hsent
  have hle : k ≤ m + 1 := d.goodRun_le _ _
  by_cases hearly : k < m
  · rw [if_pos hearly] at hresult
    refine ⟨b₁, d₁, hturned.served, ?_, ?_⟩
    · rw [if_pos (by omega)]
      exact hstored
    · rw [writeCommand_eq, if_pos hlimit, hresult, if_pos (by omega)]
  · rw [if_neg hearly] at hresult
    obtain ⟨hsend, hpending⟩ := hresult
    obtain ⟨b₂, t₂, hflush, hflushed⟩ := flushCache_engaged budget hturned.channel
      (hstored.responsive hd) (by rw [hturned.latency]; exact hbudget)
    have hgrew := d₁.grown_flush
    rw [hstored.content] at hgrew
    refine ⟨b₂, _, (hturned.trans hflush).served, ?_, ?_⟩
    · rw [if_neg (by omega)]
      exact hstored.trans hgrew
    · rw [writeCommand_eq, if_pos hlimit, hsend]
      simp only
      rw [hflushed, hpending]
      by_cases hlast : k = m
      · rw [if_pos hlast, if_pos (by omega)]
      · rw [if_neg hlast, if_neg (by omega)]

/-! ## §2 Drives that do not answer -/

/-- A write command is accepted by a drive without a fault that has the
sectors, even if it stays busy for ever. -/
theorem commanded_write (t : TaskFile) (hkind : d.kind = .ata) {lba : UInt32}
    (hlba : lba.toNat < 2 ^ 28) {n : Nat} (hpos : 1 ≤ n) (hn : n ≤ 256) (latency : Nat) :
    ∃ t', t.commanded p d lba n cmdWriteSectors latency
      = (t', if !d.faults.deviceFault && d.holds lba n then
               { d with writeCommands := d.writeCommands.push (lba, n) }
             else d) := by
  cases hfault : d.faults.deviceFault with
  | true => exact ⟨_, TaskFile.commanded_fault hkind hfault (by decide)⟩
  | false =>
    cases hholds : d.holds lba n with
    | true => exact ⟨_, TaskFile.commanded_write_within hkind hfault hlba hpos hn hholds⟩
    | false => exact ⟨_, TaskFile.commanded_write_beyond hkind hfault hlba hpos hn hholds⟩

/-- A drive that stays busy lets the driver wait in vain. -/
theorem writeCommand_stuck (budget : UInt32) (hdrive : (b.channel id).drive? p = some d)
    (hkind : d.kind = .ata) (hstuck : d.faults.stuckBusy = true) {lba : UInt32} {n : Nat}
    (hpos : 1 ≤ n) (hn : n ≤ 256) (hlimit : inLba28 lba n = true) (drive : UInt8) (data : Bytes)
    (i : Nat) :
    ∃ b' d', b.Served id p d' b'
      ∧ d.Grown d.medium.content (if !d.faults.deviceFault && d.holds lba n then [(lba, n)] else [])
          0 d'
      ∧ writeCommand budget id p drive data lba n i b = .error .timeout b' := by
  have hbits := toNat_le_of_inLba28 hlimit
  have hissue := noted_issue_turned hdrive
    (.trace s!"write drive {drive} lba {lba} count {n}") lba n cmdWriteSectors
  obtain ⟨t', hcommanded⟩ := commanded_write (d := d) (p := p) (b.channel id).registers hkind
    (show lba.toNat < 2 ^ 28 by omega) hpos hn b.latency
  rw [hcommanded] at hissue
  have hstuck' : ∀ accepted : Bool,
      (if accepted then { d with writeCommands := d.writeCommands.push (lba, n) }
       else d).faults.stuckBusy = true := by
    intro accepted
    cases accepted <;> exact hstuck
  obtain ⟨b', k, hpoll, hpolled⟩ :=
    pollStatus_engaged_timeout budget true hissue.channel (.inl (hstuck' _))
  refine ⟨b', _, (hissue.trans hpolled).served, ?_, ?_⟩
  · cases !d.faults.deviceFault && d.holds lba n with
    | true => exact d.grown_writeCommand lba n
    | false => exact .refl d
  · obtain ⟨m, rfl⟩ : ∃ m, n = m + 1 := ⟨n - 1, by omega⟩
    rw [writeCommand_eq, if_pos hlimit, send_succ, hpoll]

/-- A drive with a fault says so at the first poll. -/
theorem writeCommand_faulty (budget : UInt32) (hdrive : (b.channel id).drive? p = some d)
    (hkind : d.kind = .ata) (hstuck : d.faults.stuckBusy = false)
    (hfault : d.faults.deviceFault = true) (hbudget : b.latency ≤ budget.toNat) {lba : UInt32}
    {n : Nat} (hpos : 1 ≤ n) (hlimit : inLba28 lba n = true) (drive : UInt8) (data : Bytes)
    (i : Nat) :
    ∃ b', b.Served id p d b'
      ∧ writeCommand budget id p drive data lba n i b = .error .deviceFault b' := by
  have hissue := noted_issue_turned hdrive
    (.trace s!"write drive {drive} lba {lba} count {n}") lba n cmdWriteSectors
  rw [TaskFile.commanded_fault hkind hfault (by decide)] at hissue
  obtain ⟨b', hpoll, hpolled⟩ := pollStatus_fault budget hissue.channel hstuck hbudget rfl
  refine ⟨b', (hissue.trans hpolled).served, ?_⟩
  obtain ⟨m, rfl⟩ : ∃ m, n = m + 1 := ⟨n - 1, by omega⟩
  rw [writeCommand_eq, if_pos hlimit, send_succ, hpoll]

/-! ## §3 All commands of a write -/

/-- A write ends with its first command when that is the only one or meets a bad
sector. -/
theorem writeCommands_last (budget : UInt32) (drive : UInt8) (data : Bytes) {n : Nat}
    (hdrive : (b.channel id).drive? p = some d) (hd : d.Responsive)
    (hbudget : b.latency ≤ budget.toNat) {lba : UInt32} (hzero : n ≠ 0)
    (hlimit : inLba28 lba (min n 256) = true)
    (hend : lba.toNat + min n 256 ≤ d.medium.capacity)
    (hlast : ¬ (256 < n ∧ d.goodRun lba.toNat 256 = 256)) (j : Nat) :
    ∃ e b' d', d.Wrote lba.toNat n (fun i => Sectors.ofRun data (j + i)) e d'
      ∧ b.Served id p d' b'
      ∧ writeCommands budget id p drive data lba n (j * 512) b = ended e b' := by
  obtain ⟨b₁, d₁, hserved, hgrown, hresult⟩ := writeCommand_within budget hdrive hd hbudget
    (show 1 ≤ min n 256 by omega) (Nat.min_le_right n 256) hlimit hend drive data j
  have hle := d.goodRun_le lba.toNat (min n 256)
  have hrun := d.goodRun_le lba.toNat 256
  have hwrote := Drive.Grown.wrote (fun i => Sectors.ofRun data (j + i)) hzero
    (toNat_le_of_inLba28 hlimit) hend (by omega) (by rw [UInt32.ofNat_toNat]; exact hgrown)
  refine ⟨_, b₁, d₁, hwrote, hserved, ?_⟩
  rw [writeCommands_pos _ _ _ _ _ _ hzero, hresult]
  by_cases hstop : d.goodRun lba.toNat (min n 256) < min n 256
  · rw [if_pos hstop, if_pos hstop]
    rfl
  · have hdone : n - min n 256 = 0 := by
      by_cases hn : 256 < n
      · rw [Nat.min_eq_right (by omega)] at hle hstop
        omega
      · omega
    rw [if_neg hstop, if_neg hstop, hdone]
    exact writeCommands_zero ..

/-- **A write stores its sectors up to where it stops.** -/
theorem writeCommands_effect (budget : UInt32) (drive : UInt8) (data : Bytes) {n : Nat}
    (hdrive : (b.channel id).drive? p = some d) (hd : d.Responsive)
    (hbudget : b.latency ≤ budget.toNat) (lba : UInt32) (j : Nat) :
    ∃ e b' d', d.Wrote lba.toNat n (fun i => Sectors.ofRun data (j + i)) e d'
      ∧ b.Served id p d' b'
      ∧ writeCommands budget id p drive data lba n (j * 512) b = ended e b' := by
  induction n using Nat.strong_induction_on generalizing b d lba j with
  | _ n ih =>
    by_cases hzero : n = 0
    · subst hzero
      exact ⟨none, b, d, d.wrote_nothing _ _, .refl hdrive, writeCommands_zero ..⟩
    have hpos : 1 ≤ min n 256 := by omega
    cases hlimit : inLba28 lba (min n 256) with
    | false =>
      have hbeyond : 2 ^ 28 < lba.toNat + min n 256 := Nat.lt_of_not_le (of_decide_eq_false hlimit)
      have hobstacle := Drive.obstacle_of_limit (d := d) hbeyond
      rw [UInt32.ofNat_toNat] at hobstacle
      refine ⟨_, b, d, Drive.wrote_refused hzero hobstacle (by simp) _, .refl hdrive, ?_⟩
      rw [writeCommands_pos _ _ _ _ _ _ hzero, writeCommand_eq, hlimit]
      rfl
    | true =>
      have hbits := toNat_le_of_inLba28 hlimit
      by_cases hend : d.medium.capacity < lba.toNat + min n 256
      · obtain ⟨b', hserved, hresult⟩ := writeCommand_beyond budget hdrive hd hbudget hpos
          (Nat.min_le_right n 256) hlimit hend drive data (j * 512)
        have hobstacle := Drive.obstacle_of_end (d := d) hbits hend
        refine ⟨_, b', d, Drive.wrote_refused hzero hobstacle (by decide) _, hserved, ?_⟩
        rw [writeCommands_pos _ _ _ _ _ _ hzero, hresult]
        rfl
      by_cases hmore : 256 < n ∧ d.goodRun lba.toNat 256 = 256
      · obtain ⟨b₁, d₁, hserved, hgrown, hresult⟩ := writeCommand_within budget hdrive hd hbudget
          hpos (Nat.min_le_right n 256) hlimit (Nat.le_of_not_lt hend) drive data j
        obtain ⟨hn, hall⟩ := hmore
        rw [writeCommands_pos _ _ _ _ _ _ hzero]
        rw [Nat.min_eq_right (by omega)] at hbits hend hgrown hresult ⊢
        rw [hall, if_neg (by omega)] at hgrown
        have hlba : (lba + UInt32.ofNat 256).toNat = lba.toNat + 256 := by
          rw [UInt32.toNat_add, show (UInt32.ofNat 256).toNat = 256 from rfl]
          exact Nat.mod_eq_of_lt (by omega)
        obtain ⟨e, b', d', hwrote, hserved', hrest⟩ := ih (n - 256) (by omega) hserved.drive
          (hgrown.responsive hd) (by rw [hserved.latency]; exact hbudget)
          (lba + UInt32.ofNat 256) (j + 256)
        rw [hlba] at hwrote
        simp only [Nat.add_assoc] at hwrote
        refine ⟨e, b', d', ?_, hserved.trans hserved', ?_⟩
        · exact Drive.Grown.wrote_rest hn hbits (by omega) hall
            (by rw [UInt32.ofNat_toNat]; exact hgrown) hwrote
        · rw [hresult, hall, if_neg (by omega), ← hrest, Nat.add_mul]
      · exact writeCommands_last budget drive data hdrive hd hbudget hzero hlimit
          (Nat.le_of_not_lt hend) hmore j

end Wire

/-! ## §4 The driver's call -/

/-- What a write of the `n` sectors of `data` to the sectors from `lba` on makes
of a disk, when it ends with `e`. A disk that does not answer stores nothing:
the first command already ends the write. -/
structure Drive.WriteEffect (d : Drive) (lba : UInt32) (n : Nat) (data : Bytes)
    (e : Option AtaError) (d' : Drive) : Prop where
  responsive : d.faults.stuckBusy = false → d.faults.deviceFault = false →
    d.Wrote lba.toNat n (Sectors.ofRun data) e d'
  stuck : d.faults.stuckBusy = true →
    e = some (if inLba28 lba (min n 256) then .timeout else .lba28Limit lba)
      ∧ d.Grown d.medium.content
          (if inLba28 lba (min n 256) && !d.faults.deviceFault && d.holds lba (min n 256) then
            [(lba, min n 256)] else []) 0 d'
  faulty : d.faults.stuckBusy = false → d.faults.deviceFault = true →
    e = some (if inLba28 lba (min n 256) then .deviceFault else .lba28Limit lba) ∧ d' = d

namespace Wire

variable {id : ChannelId} {p : Position} {d : Drive} {b : Bus}

theorem writeCommands_stuck (budget : UInt32) (hdrive : (b.channel id).drive? p = some d)
    (hkind : d.kind = .ata) (hstuck : d.faults.stuckBusy = true) {n : Nat} (hn : 1 ≤ n)
    (drive : UInt8) (data : Bytes) (lba : UInt32) (i : Nat) :
    ∃ b' d', b.Served id p d' b'
      ∧ d.Grown d.medium.content
          (if inLba28 lba (min n 256) && !d.faults.deviceFault && d.holds lba (min n 256) then
            [(lba, min n 256)] else []) 0 d'
      ∧ writeCommands budget id p drive data lba n i b
        = .error (if inLba28 lba (min n 256) then .timeout else .lba28Limit lba) b' := by
  rw [writeCommands_pos _ _ _ _ _ _ (by omega)]
  cases hlimit : inLba28 lba (min n 256) with
  | false =>
    refine ⟨b, d, .refl hdrive, .refl d, ?_⟩
    rw [writeCommand_eq, hlimit]
    rfl
  | true =>
    obtain ⟨b', d', hserved, hgrown, hresult⟩ := writeCommand_stuck budget hdrive hkind hstuck
      (show 1 ≤ min n 256 by omega) (Nat.min_le_right n 256) hlimit drive data i
    refine ⟨b', d', hserved, hgrown, ?_⟩
    rw [hresult]
    rfl

theorem writeCommands_faulty (budget : UInt32) (hdrive : (b.channel id).drive? p = some d)
    (hkind : d.kind = .ata) (hstuck : d.faults.stuckBusy = false)
    (hfault : d.faults.deviceFault = true) (hbudget : b.latency ≤ budget.toNat) {n : Nat}
    (hn : 1 ≤ n) (drive : UInt8) (data : Bytes) (lba : UInt32) (i : Nat) :
    ∃ b', b.Served id p d b'
      ∧ writeCommands budget id p drive data lba n i b
        = .error (if inLba28 lba (min n 256) then .deviceFault else .lba28Limit lba) b' := by
  rw [writeCommands_pos _ _ _ _ _ _ (by omega)]
  cases hlimit : inLba28 lba (min n 256) with
  | false =>
    refine ⟨b, .refl hdrive, ?_⟩
    rw [writeCommand_eq, hlimit]
    rfl
  | true =>
    obtain ⟨b', hserved, hresult⟩ := writeCommand_faulty budget hdrive hkind hstuck hfault hbudget
      (show 1 ≤ min n 256 by omega) hlimit drive data i
    refine ⟨b', hserved, ?_⟩
    rw [hresult]
    rfl

end Wire

/-- An empty disk with faults. -/
def Drive.blankWith (sectors : UInt32) (faults : Faults) : Drive :=
  { Drive.disk "" (.sparse (.blank sectors)) with faults }

/-- A machine with one disk, in the first slot. -/
def Bus.single (d : Drive) : Bus := { primary := { master := some d } }

/-- A driver that has found a disk in the first slot and nothing else. -/
def Controller.single (sectors : UInt32) : Controller where
  devices :=
    #v[.disk .primary .master (Identity.ofBytes (Drive.blankWith sectors {}).identification.toBytes),
      .absent, .absent, .absent]
  pollBudget := 2

namespace Controller

open Wire

variable {c : Controller} {b : Bus} {drive : UInt8} {id : ChannelId} {p : Position}
  {identity : Identity} {d : Drive}

theorem routeWrite_sectors (hfind : c.find drive = .ok (id, p, identity)) {n : Nat} (hn : 1 ≤ n) :
    c.routeWrite drive (n * 512) = .ok (id, p) := by
  have hzero : n * 512 ≠ 0 := by omega
  have hwhole : ¬ n * 512 % sectorSize ≠ 0 := by
    show ¬ n * 512 % 512 ≠ 0
    omega
  simp only [routeWrite, hfind, bind, Except.bind, if_neg hzero, if_neg hwhole]
  rfl

/-- A write on a machine with disks is its commands, with a report of success. -/
theorem writeSectors_eq {σ : Type} [PortSpace σ] (hfind : c.find drive = .ok (id, p, identity))
    {n : Nat} (hn : 1 ≤ n) {data : Bytes} (hdata : data.size = n * 512) (lba : UInt32) (s : σ) :
    c.writeSectors drive lba data s
      = match writeCommands c.pollBudget id p drive data lba n 0 s with
        | .ok _ s =>
          .ok () (PortSpace.note (.debug s!"wrote {n} sectors to drive {drive} at lba {lba}") s)
        | .error e s => .error e s := by
  have hcount : n * 512 / sectorSize = n := by
    show n * 512 / 512 = n
    omega
  rw [writeSectors, hdata, routeWrite_sectors hfind hn]
  simp only [hcount, bind, EStateM.bind, modify_apply]
  cases writeCommands c.pollBudget id p drive data lba n 0 s <;> rfl

/-- A write to a disk that answers. -/
theorem writeSectors_responsive (hfind : c.find drive = .ok (id, p, identity))
    (hdrive : (b.channel id).drive? p = some d) (hd : d.Responsive)
    (hlatency : b.latency ≤ c.pollBudget.toNat) (lba : UInt32) {data : Bytes} {n : Nat}
    (hn : 1 ≤ n) (hdata : data.size = n * 512) :
    ∃ e b' d', c.writeSectors drive lba data b = ended e b' ∧ b.Served id p d' b'
      ∧ d.Wrote lba.toNat n (Sectors.ofRun data) e d' := by
  obtain ⟨e, b', d', hwrote, hserved, hresult⟩ := writeCommands_effect c.pollBudget drive data
    (n := n) hdrive hd hlatency lba 0
  simp only [Nat.zero_mul, Nat.zero_add] at hwrote hresult
  rw [writeSectors_eq hfind hn hdata, hresult]
  cases e with
  | none => exact ⟨none, _, d', rfl, hserved.noted _, hwrote⟩
  | some e => exact ⟨some e, b', d', rfl, hserved, hwrote⟩

/-- **The effect of a write.** Whatever the registers hold, a write of whole
sectors to a disk stops at the first sector that it cannot get past, has stored
the sectors before it and nothing else, and leaves all other drives alone. -/
theorem writeSectors_effect (hfind : c.find drive = .ok (id, p, identity))
    (hdrive : (b.channel id).drive? p = some d) (hkind : d.kind = .ata)
    (hlatency : b.latency ≤ c.pollBudget.toNat) (lba : UInt32) {data : Bytes} {n : Nat}
    (hn : 1 ≤ n) (hdata : data.size = n * 512) :
    ∃ e b' d', c.writeSectors drive lba data b = ended e b' ∧ b.Served id p d' b'
      ∧ d.WriteEffect lba n data e d' := by
  cases hstuck : d.faults.stuckBusy with
  | true =>
    obtain ⟨b', d', hserved, hgrown, hresult⟩ := writeCommands_stuck c.pollBudget hdrive hkind hstuck
      hn drive data lba 0
    refine ⟨some (if inLba28 lba (min n 256) then .timeout else .lba28Limit lba), b', d', ?_, hserved,
      ?_⟩
    · rw [writeSectors_eq hfind hn hdata, hresult]
      rfl
    · exact ⟨fun h => by simp [hstuck] at h, fun _ => ⟨rfl, hgrown⟩, fun h => by simp [hstuck] at h⟩
  | false =>
    cases hfault : d.faults.deviceFault with
    | true =>
      obtain ⟨b', hserved, hresult⟩ := writeCommands_faulty c.pollBudget hdrive hkind hstuck hfault
        hlatency hn drive data lba 0
      refine ⟨some (if inLba28 lba (min n 256) then .deviceFault else .lba28Limit lba), b', d, ?_,
        hserved, ?_⟩
      · rw [writeSectors_eq hfind hn hdata, hresult]
        rfl
      · exact ⟨fun _ h => by simp [hfault] at h, fun h => by simp [hstuck] at h,
          fun _ _ => ⟨rfl, rfl⟩⟩
    | false =>
      obtain ⟨e, b', d', hresult, hserved, hwrote⟩ := writeSectors_responsive hfind hdrive
        ⟨hkind, hstuck, hfault⟩ hlatency lba hn hdata
      exact ⟨e, b', d', hresult, hserved,
        fun _ _ => hwrote, fun h => by simp [hstuck] at h, fun _ h => by simp [hfault] at h⟩

/-- Of two sectors, the second of them bad, the first one is stored. -/
theorem writeSectors_effect_bad_second :
    ∃ b' d', (Controller.single 8).writeSectors 0 4 (zeroes 1024)
        (Bus.single (.blankWith 8 { badSectors := [5] }))
          = .error (.deviceError errUncorrectable) b'
      ∧ (Bus.single (.blankWith 8 { badSectors := [5] })).Served .primary .master d' b'
      ∧ d'.writeCommands = #[(4, 2)] ∧ d'.flushes = 1 := by
  have hsize : (zeroes 1024).size = 2 * 512 := size_zeroes 1024
  obtain ⟨e, b', d', hresult, hserved, heffect⟩ := @writeSectors_effect (Controller.single 8)
    (Bus.single (.blankWith 8 { badSectors := [5] })) 0 _ _ _ _ rfl rfl rfl (by decide) 4 _ 2
    (by decide) hsize
  obtain ⟨k, hstop, hgrown⟩ := heffect.responsive rfl rfl
  cases hstop with
  | never clear => exact absurd (clear 1 (by decide)) (by decide)
  | @first k e lt clear stop =>
    have hk : k = 0 ∨ k = 1 := by omega
    rcases hk with rfl | rfl
    · have hfree : (Drive.blankWith 8 { badSectors := [5] }).obstacle 4 2 0 = none := by decide
      exact absurd (hfree.symm.trans stop) (by simp)
    · have hbad : (Drive.blankWith 8 { badSectors := [5] }).obstacle 4 2 1
          = some (.deviceError errUncorrectable) := by decide
      cases hbad.symm.trans stop
      have hcommands : Drive.commandsFor 4 2 (Drive.sentSectors 1 (some (.deviceError 0x40)))
          = [(4, 2)] := by decide
      have hflushes : Drive.flushesFor 2 (Drive.sentSectors 1 (some (.deviceError 0x40))) = 1 := by
        decide
      refine ⟨b', d', hresult, hserved, ?_, ?_⟩
      · rw [hgrown.writeCommands, show (4 : UInt32).toNat = 4 from rfl, hcommands]
        rfl
      · rw [hgrown.flushes, hflushes]
        rfl

end Controller

end AtaVolume
