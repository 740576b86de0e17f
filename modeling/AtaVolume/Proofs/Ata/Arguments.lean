/-
AtaVolume.Proofs.Ata.Arguments — what a request is refused for, and when.

The reasons to refuse a request stand in a list, and the first that applies is reported
(`Refusal.first`); the machine is not touched then. A read is checked as a whole. A write
is checked before each of its commands, so it can be refused when earlier ones are done:
the states between two commands are those that are `Reached`, and a write that is refused
on its way stops in one of them (`writeCommands_refused_iff`). No other error is one of
addresses, for what goes wrong in a command is told by the device (`send_transient`,
`flushCache_transient`).
-/
import AtaVolume.Proofs.Ata.PollBudget

namespace AtaVolume

open Protocol

/-! ## §1 Reasons to refuse a request -/

/-- A reason to refuse a request, and the error that tells it. -/
structure Refusal where
  applies : Bool
  error : AtaError

/-- The error of the first reason that applies. -/
def Refusal.first (reasons : List Refusal) : Option AtaError :=
  (reasons.find? (·.applies)).map (·.error)

theorem Refusal.first_nil : Refusal.first [] = none := rfl

theorem Refusal.first_cons (r : Refusal) (reasons : List Refusal) :
    Refusal.first (r :: reasons) = if r.applies then some r.error else first reasons := by
  unfold first
  cases h : r.applies <;> simp [h]

theorem Refusal.first_append (reasons more : List Refusal) :
    Refusal.first (reasons ++ more) = (first reasons).or (first more) := by
  unfold first
  rw [List.find?_append, Option.map_or]

namespace Controller

/-- The slot holds a disk that can be used. -/
def holdsDisk (c : Controller) (drive : UInt8) : Bool := (c.device? drive).any Device.isUsable

/-- The reasons to refuse a drive. -/
def driveRefusals (c : Controller) (drive : UInt8) : List Refusal :=
  [⟨4 ≤ drive.toNat, .invalidDrive drive⟩, ⟨!c.holdsDisk drive, .notPresent drive⟩]

/-- The reasons to refuse a read, in their order. -/
def readRefusals (c : Controller) (drive : UInt8) (count : Nat) (lba : UInt32) (room : Nat) :
    List Refusal :=
  c.driveRefusals drive ++
    [⟨count = 0, .emptyTransfer⟩, ⟨256 < count, .tooManySectors count⟩,
      ⟨room < count * 512, .bufferTooSmall (count * 512) room⟩,
      ⟨0x0FFFFFFF < lba.toNat + count - 1, .lba28Limit lba⟩]

/-- The reasons to refuse a write before it starts, in their order. -/
def writeRefusals (c : Controller) (drive : UInt8) (length : Nat) : List Refusal :=
  c.driveRefusals drive ++
    [⟨length = 0, .emptyTransfer⟩, ⟨length % 512 ≠ 0, .misalignedLength length⟩]

variable {c : Controller} {drive : UInt8}

/-- A drive is found unless it is refused. -/
theorem find_checked (c : Controller) (drive : UInt8) :
    (∃ e, Refusal.first (c.driveRefusals drive) = some e ∧ c.find drive = .error e)
      ∨ Refusal.first (c.driveRefusals drive) = none
        ∧ ∃ id p identity, c.find drive = .ok (id, p, identity) := by
  simp only [driveRefusals, Refusal.first_cons, Refusal.first_nil, holdsDisk, find]
  cases hdevice : c.device? drive with
  | none =>
    have hdrive : 4 ≤ drive.toNat := by
      have hsize := Vector.getElem?_eq_none_iff.1 hdevice
      exact hsize
    exact .inl ⟨_, by rw [decide_eq_true hdrive, if_pos rfl], rfl⟩
  | some device =>
    have hdrive : ¬ 4 ≤ drive.toNat := by
      obtain ⟨hlt, -⟩ := Vector.getElem?_eq_some_iff.1 hdevice
      exact Nat.not_le.2 hlt
    rw [decide_eq_false hdrive, if_neg Bool.false_ne_true]
    cases device with
    | absent => exact .inl ⟨_, rfl, rfl⟩
    | unsupported id p kind => exact .inl ⟨_, rfl, rfl⟩
    | disk id p identity => exact .inr ⟨rfl, id, p, identity, rfl⟩

/-- 28 bits do not address the last sector. -/
theorem not_inLba28_iff (lba : UInt32) (count : Nat) :
    (!inLba28 lba count) = true ↔ 0x0FFFFFFF < lba.toNat + count - 1 := by
  unfold inLba28
  rw [Bool.not_eq_true', decide_eq_false_iff_not]
  show ¬ lba.toNat + count ≤ 0x0FFFFFFF + 1 ↔ _
  omega

/-- A read goes to its place unless it is refused. -/
theorem routeRead_checked (c : Controller) (drive : UInt8) (count : Nat) (lba : UInt32)
    (room : Nat) :
    (∃ e, Refusal.first (c.readRefusals drive count lba room) = some e
        ∧ c.routeRead drive count lba room = .error e)
      ∨ Refusal.first (c.readRefusals drive count lba room) = none
        ∧ ∃ id p, c.routeRead drive count lba room = .ok (id, p) := by
  unfold readRefusals routeRead
  rw [Refusal.first_append]
  obtain ⟨e, hrefused, hfind⟩ | ⟨hpassed, id, p, identity, hfind⟩ := find_checked c drive
  · rw [hrefused, hfind]
    exact .inl ⟨e, rfl, rfl⟩
  · rw [hpassed, hfind, Option.none_or]
    simp only [Refusal.first_cons, Refusal.first_nil, bind, Except.bind, decide_eq_true_eq,
      not_inLba28_iff]
    split
    · exact .inl ⟨_, rfl, rfl⟩
    split
    · exact .inl ⟨_, rfl, rfl⟩
    split
    · exact .inl ⟨_, rfl, rfl⟩
    split
    · exact .inl ⟨_, rfl, rfl⟩
    · exact .inr ⟨rfl, id, p, rfl⟩

/-- A write goes to its place unless it is refused. -/
theorem routeWrite_checked (c : Controller) (drive : UInt8) (length : Nat) :
    (∃ e, Refusal.first (c.writeRefusals drive length) = some e
        ∧ c.routeWrite drive length = .error e)
      ∨ Refusal.first (c.writeRefusals drive length) = none
        ∧ ∃ id p, c.routeWrite drive length = .ok (id, p) := by
  unfold writeRefusals routeWrite
  rw [Refusal.first_append]
  obtain ⟨e, hrefused, hfind⟩ | ⟨hpassed, id, p, identity, hfind⟩ := find_checked c drive
  · rw [hrefused, hfind]
    exact .inl ⟨e, rfl, rfl⟩
  · rw [hpassed, hfind, Option.none_or]
    simp only [Refusal.first_cons, Refusal.first_nil, bind, Except.bind, decide_eq_true_eq]
    split
    · exact .inl ⟨_, rfl, rfl⟩
    split
    · exact .inl ⟨_, rfl, rfl⟩
    · exact .inr ⟨rfl, id, p, rfl⟩

end Controller

namespace Wire

variable {σ : Type} [PortSpace σ] {budget : UInt32} {id : ChannelId} {p : Position}
  {drive : UInt8} {data : Bytes} {lba : UInt32} {n : Nat} {s : σ}

/-! ## §2 Errors of a command -/

theorem waitNotBusy_transient {reads : Nat} {e : AtaError} {t : σ}
    (h : waitNotBusy id reads s = .error e t) : e.isTransient = true := by
  obtain ⟨rfl, -, -⟩ := waitNotBusy_eq_error_iff.1 h
  rfl

theorem judge_transient {status : Status} {e : AtaError} {t : σ}
    (h : judge id status s = .error e t) : e.isTransient = true := by
  unfold judge at h
  split at h
  · cases h
    rfl
  split at h
  · cases h
    rfl
  split at h
  · cases h
    rfl
  · cases h

theorem pollStatus_transient {transfer : Bool} {e : AtaError} {t : σ}
    (h : pollStatus budget id transfer s = .error e t) : e.isTransient = true := by
  rw [pollStatus_eq] at h
  cases hwait : waitNotBusy id (budget.toNat + 1) (settle id 4 s) with
  | error e' t' =>
    rw [hwait] at h
    cases h
    exact waitNotBusy_transient hwait
  | ok status t' =>
    rw [hwait] at h
    cases transfer with
    | false => cases h
    | true => exact judge_transient h

/-- What goes wrong while sectors are sent is told by the device. -/
theorem send_transient {m i : Nat} {e : AtaError} {t : σ}
    (h : send budget id data m i s = .error e t) : e.isTransient = true := by
  induction m generalizing i s with
  | zero => cases h
  | succ m ih =>
    rw [send_succ] at h
    cases hpoll : pollStatus budget id true s with
    | error e' t' =>
      rw [hpoll] at h
      cases h
      exact pollStatus_transient hpoll
    | ok _ t' =>
      rw [hpoll] at h
      exact ih h

theorem flushCache_transient {e : AtaError} {t : σ}
    (h : flushCache budget id s = .error e t) : e.isTransient = true := by
  rw [flushCache_eq] at h
  cases hpoll : pollStatus budget id false (writeRegister id .command cmdFlushCache s) with
  | error e' t' =>
    rw [hpoll] at h
    cases h
    exact pollStatus_transient hpoll
  | ok _ t' =>
    rw [hpoll] at h
    simp only at h
    split at h
    · cases h
      rfl
    split at h
    · cases h
      rfl
    · cases h

/-! ## §3 Between two commands -/

/-- What a write of `n` sectors from `lba` on can have come to between two commands: the
sector that is next, how many are left, and the machine. Every command before was
within 28 bits, has sent all its sectors, and was flushed. -/
inductive Reached (budget : UInt32) (id : ChannelId) (p : Position) (drive : UInt8)
    (data : Bytes) (lba : UInt32) (n : Nat) (s : σ) : UInt32 → Nat → σ → Prop
  | start : Reached budget id p drive data lba n s lba n s
  | command {next : UInt32} {left : Nat} {t sent flushed : σ}
    (before : Reached budget id p drive data lba n s next left t) (more : left ≠ 0)
    (within : inLba28 next (min left 256) = true)
    (sends : send budget id data (min left 256) ((n - left) * 512)
      (issue id p next (min left 256) cmdWriteSectors
        (PortSpace.note (.trace s!"write drive {drive} lba {next} count {min left 256}") t))
      = .ok () sent)
    (flushes : flushCache budget id sent = .ok () flushed) :
    Reached budget id p drive data lba n s (next + UInt32.ofNat (min left 256))
      (left - min left 256) flushed

namespace Reached

variable {next : UInt32} {left : Nat} {t : σ}

theorem toNat_next (h : inLba28 next (min left 256) = true) :
    (next + UInt32.ofNat (min left 256)).toNat = next.toNat + min left 256 := by
  have hend := toNat_le_of_inLba28 h
  exact BlockDevice.toNat_next_piece (by omega)

/-- **Sector numbers do not overflow**: the next sector is as far from the first one as
sectors are done. -/
theorem running (h : Reached budget id p drive data lba n s next left t) :
    next.toNat + left = lba.toNat + n ∧ left ≤ n := by
  induction h with
  | start => exact ⟨rfl, Nat.le_refl n⟩
  | command before more within sends flushes ih =>
    rw [toNat_next within]
    omega

/-- All that is done lies within 28 bits. -/
theorem done_within (h : Reached budget id p drive data lba n s next left t) :
    left = n ∨ next.toNat ≤ 2 ^ 28 := by
  cases h with
  | start => exact .inl rfl
  | command before more within sends flushes =>
    rw [toNat_next within]
    exact .inr (toNat_le_of_inLba28 within)

/-- All commands but the last one are of 256 sectors. -/
theorem done_whole (h : Reached budget id p drive data lba n s next left t) (hleft : left ≠ 0) :
    ∃ k, n = 256 * k + left := by
  induction h with
  | start => exact ⟨0, (Nat.zero_add n).symm⟩
  | @command next left t sent flushed before more within sends flushes ih =>
    obtain ⟨k, hk⟩ := ih more
    exact ⟨k + 1, by omega⟩

/-- The command that comes next. -/
theorem writeCommand_ok {sent flushed : σ} (within : inLba28 next (min left 256) = true)
    (sends : send budget id data (min left 256) ((n - left) * 512)
      (issue id p next (min left 256) cmdWriteSectors
        (PortSpace.note (.trace s!"write drive {drive} lba {next} count {min left 256}") t))
      = .ok () sent)
    (flushes : flushCache budget id sent = .ok () flushed) :
    writeCommand budget id p drive data next (min left 256) ((n - left) * 512) t
      = .ok () flushed := by
  rw [writeCommand_eq, if_pos within, sends]
  exact flushes

/-- The data of a command begin where those of the one before end. -/
theorem offset_next (h : left ≤ n) :
    (n - left) * 512 + min left 256 * 512 = (n - (left - min left 256)) * 512 := by
  omega

/-- **The write goes on from what it has come to.** -/
theorem writeCommands_eq (h : Reached budget id p drive data lba n s next left t) :
    writeCommands budget id p drive data lba n 0 s
      = writeCommands budget id p drive data next left ((n - left) * 512) t := by
  induction h with
  | start => rw [Nat.sub_self, Nat.zero_mul]
  | @command next left t sent flushed before more within sends flushes ih =>
    rw [ih, writeCommands_pos _ _ _ _ _ _ more, writeCommand_ok within sends flushes,
      offset_next before.running.2]

/-- A write that is refused on its way stops between two commands. -/
theorem refused (h : Reached budget id p drive data lba n s next left t) {l : UInt32} {t' : σ}
    (hrefused : writeCommands budget id p drive data next left ((n - left) * 512) t
      = .error (.lba28Limit l) t') :
    ∃ left', left' ≠ 0 ∧ Reached budget id p drive data lba n s l left' t'
      ∧ inLba28 l (min left' 256) = false := by
  induction left using Nat.strongRecOn generalizing next t with
  | ind left ih =>
    by_cases hleft : left = 0
    · subst hleft
      rw [writeCommands_zero] at hrefused
      cases hrefused
    rw [writeCommands_pos _ _ _ _ _ _ hleft] at hrefused
    cases hlimit : inLba28 next (min left 256) with
    | false =>
      rw [writeCommand_eq, hlimit] at hrefused
      cases hrefused
      exact ⟨left, hleft, h, hlimit⟩
    | true =>
      rw [writeCommand_eq, if_pos hlimit] at hrefused
      -- the command itself only fails with errors of the device
      cases hsend : send budget id data (min left 256) ((n - left) * 512)
          (issue id p next (min left 256) cmdWriteSectors
            (PortSpace.note (.trace s!"write drive {drive} lba {next} count {min left 256}") t)) with
      | error e sent =>
        rw [hsend] at hrefused
        cases hrefused
        cases send_transient hsend
      | ok _ sent =>
        rw [hsend] at hrefused
        simp only at hrefused
        cases hflush : flushCache budget id sent with
        | error e flushed =>
          rw [hflush] at hrefused
          cases hrefused
          cases flushCache_transient hflush
        | ok _ flushed =>
          rw [hflush] at hrefused
          have hnext := h.command hleft hlimit hsend hflush
          simp only [offset_next h.running.2] at hrefused
          exact ih _ (by omega) hnext hrefused

end Reached

/-- **A write that is refused for its addresses** has done all commands before the first
one that 28 bits do not address, and nothing else. -/
theorem writeCommands_refused_iff {l : UInt32} {t : σ} :
    writeCommands budget id p drive data lba n 0 s = .error (.lba28Limit l) t
      ↔ ∃ k, 256 * k < n ∧ l.toNat = lba.toNat + 256 * k
        ∧ (∀ j < k, lba.toNat + 256 * (j + 1) ≤ 2 ^ 28)
        ∧ 2 ^ 28 < l.toNat + min (n - 256 * k) 256
        ∧ Reached budget id p drive data lba n s l (n - 256 * k) t := by
  constructor
  · intro h
    have hstart : Reached budget id p drive data lba n s lba n s := .start
    obtain ⟨left, hleft, hreached, hlimit⟩ :=
      hstart.refused (by rw [Nat.sub_self, Nat.zero_mul]; exact h)
    obtain ⟨k, hk⟩ := hreached.done_whole hleft
    have hrunning := hreached.running
    have hwithin := hreached.done_within
    have hbeyond : ¬ l.toNat + min left 256 ≤ 2 ^ 28 := of_decide_eq_false hlimit
    obtain rfl : left = n - 256 * k := by omega
    exact ⟨k, by omega, by omega, fun j hj => by omega, Nat.lt_of_not_le hbeyond, hreached⟩
  · rintro ⟨k, hk, -, -, hbeyond, hreached⟩
    have hlimit : inLba28 l (min (n - 256 * k) 256) = false :=
      decide_eq_false (Nat.not_le_of_lt hbeyond)
    rw [hreached.writeCommands_eq, writeCommands_pos _ _ _ _ _ _ (by omega), writeCommand_eq,
      hlimit]
    rfl

/-! ## §4 The accesses before that -/

/-- One more command at the end of a write. -/
theorem chunks_append (lba : UInt32) (k : Nat) {count : Nat} (hpos : count ≠ 0)
    (hcount : count ≤ 256) (i : Nat) :
    chunks lba (256 * k + count) i
      = chunks lba (256 * k) i ++ [⟨lba + UInt32.ofNat (256 * k), count, i + 256 * k * 512⟩] := by
  induction k generalizing lba i with
  | zero =>
    have hmin : min count 256 = count := by omega
    rw [Nat.mul_zero, Nat.zero_add, chunks_zero, chunks_pos lba hpos, hmin, Nat.sub_self,
      chunks_zero, List.nil_append, Nat.add_zero]
    have hlba : lba + UInt32.ofNat 0 = lba := UInt32.add_zero lba
    rw [hlba]
  | succ k ih =>
    have hmin : min (256 * (k + 1) + count) 256 = 256 := by omega
    have hmin' : min (256 * (k + 1)) 256 = 256 := by omega
    have hrest : 256 * (k + 1) + count - 256 = 256 * k + count := by omega
    have hrest' : 256 * (k + 1) - 256 = 256 * k := by
      rw [Nat.mul_succ, Nat.add_sub_cancel]
    have hlba : lba + UInt32.ofNat 256 + UInt32.ofNat (256 * k)
        = lba + UInt32.ofNat (256 * (k + 1)) := by
      rw [UInt32.add_assoc, ← UInt32.ofNat_add, Nat.mul_succ, Nat.add_comm 256]
    have hoffset : i + 256 * 512 + 256 * k * 512 = i + 256 * (k + 1) * 512 := by omega
    rw [chunks_pos lba (by omega), chunks_pos lba (by omega), hmin, hmin', hrest, hrest', ih, hlba,
      hoffset, List.cons_append]

theorem writing_append (budget : UInt32) (id : ChannelId) (p : Position) (data : Bytes)
    (cs more : List Chunk) :
    writing budget id p data (cs ++ more)
      = writing budget id p data cs * writing budget id p data more := by
  induction cs with
  | nil => exact (one_mul _).symm
  | cons c cs ih => rw [List.cons_append, writing, writing, ih, mul_assoc]

/-- **What was done until then are whole commands**, each of them flushed. -/
theorem Reached.trace {s t : Traced σ} {next : UInt32} {left : Nat}
    (h : Reached budget id p drive data lba n s next left t) :
    ∃ u ∈ writing budget id p data (chunks lba (n - left) 0),
      t.accesses.toList = s.accesses.toList ++ u := by
  induction h with
  | start =>
    rw [Nat.sub_self, chunks_zero]
    exact ⟨[], rfl, (List.append_nil _).symm⟩
  | @command next left t sent flushed before more within sends flushes ih =>
    obtain ⟨u, hu, htrace⟩ := ih
    obtain ⟨e, t', w, hcommand, hconforms⟩ := writeCommand_conforms budget id p drive data within
      (show 1 ≤ min left 256 by omega) (Nat.min_le_right left 256) ((n - left) * 512) t
    rw [writeCommand_ok within sends flushes] at hcommand
    cases e with
    | some e => cases hcommand
    | none =>
      cases hcommand
      obtain ⟨k, hk⟩ := before.done_whole more
      have hrunning := before.running.1
      have hnext : next = lba + UInt32.ofNat (256 * k) := by
        rw [← UInt32.toNat_inj, UInt32.toNat_add, UInt32.toNat_ofNat']
        have hend := toNat_le_of_inLba28 within
        omega
      have hdone : n - left = 256 * k := by omega
      have hsplit : n - (left - min left 256) = 256 * k + min left 256 := by omega
      have hlast : writing budget id p data [⟨next, min left 256, 256 * k * 512⟩]
          = writingOnce budget id p data next (min left 256) (256 * k * 512) := mul_one _
      rw [hdone] at hu hconforms
      refine ⟨u ++ w, ?_, ?_⟩
      · rw [hsplit, chunks_append lba k (by omega) (Nat.min_le_right left 256) 0, ← hnext,
          Nat.zero_add, writing_append, hlast]
        exact Language.append_mem_mul hu (hconforms.ended rfl)
      · rw [hconforms.trace, htrace, told_none, List.append_nil, List.append_assoc]

end Wire

/-! ## §5 The driver's calls -/

namespace Controller

open Wire

variable {σ : Type} [PortSpace σ] {c : Controller} {drive : UInt8} {lba : UInt32}

/-- A read is refused for the first reason that applies, and issues its command if none
does. -/
theorem readSectors_checked (c : Controller) (drive : UInt8) (count : UInt16) (lba : UInt32)
    (buffer : Bytes) (s : Traced σ) :
    match Refusal.first (c.readRefusals drive count.toNat lba buffer.size) with
    | some e => c.readSectors drive count lba buffer s = ⟨.error e, buffer, s⟩
    | none => ∃ id p identity u, c.find drive = .ok (id, p, identity)
        ∧ (c.readSectors drive count lba buffer s).device.accesses.toList
          = s.accesses.toList ++ (issued id p lba count.toNat cmdReadSectors ++ u) := by
  obtain ⟨e, hrefused, hroute⟩ | ⟨hpassed, id, p, hroute⟩ :=
    routeRead_checked c drive count.toNat lba buffer.size
  · rw [hrefused]
    simp only [readSectors, hroute]
  · obtain ⟨⟨identity, hfind⟩, hpos, hcount, -, hlimit⟩ := routeRead_ok hroute
    have hissue := issue_conforms id p hlimit hpos hcount cmdReadSectors (s := s)
      (t := PortSpace.note (.trace s!"read drive {drive} lba {lba} count {count.toNat}") s) rfl
    obtain ⟨e, t, u, ht, -, hreceived⟩ := receive_conforms c.pollBudget id count.toNat
      (Array.emptyWithCapacity (count.toNat * sectorSize))
      (issue id p lba count.toNat cmdReadSectors
        (PortSpace.note (.trace s!"read drive {drive} lba {lba} count {count.toNat}") s))
    rw [hpassed]
    refine ⟨id, p, identity, u ++ told id e, hfind, ?_⟩
    simp only [readSectors, hroute, ht]
    rw [(hissue.next hreceived).trace, List.append_assoc]

/-- The commands of a write that passes the checks before it. -/
theorem writeSectors_checked (c : Controller) (drive : UInt8) (lba : UInt32) (data : Bytes)
    (s : σ) :
    match Refusal.first (c.writeRefusals drive data.size) with
    | some e => c.writeSectors drive lba data s = .error e s
    | none => ∃ id p identity, c.find drive = .ok (id, p, identity)
        ∧ c.writeSectors drive lba data s
          = match writeCommands c.pollBudget id p drive data lba (data.size / 512) 0 s with
            | .ok _ s => .ok () (PortSpace.note
                (.debug s!"wrote {data.size / 512} sectors to drive {drive} at lba {lba}") s)
            | .error e s => .error e s := by
  obtain ⟨e, hrefused, hroute⟩ | ⟨hpassed, id, p, hroute⟩ :=
    routeWrite_checked c drive data.size
  · rw [hrefused]
    simp only [writeSectors, hroute]
    rfl
  · obtain ⟨⟨identity, hfind⟩, hpos, hsize⟩ := routeWrite_ok hroute
    rw [hpassed]
    exact ⟨id, p, identity, hfind, writeSectors_eq hfind hpos hsize lba s⟩

/-- **Requests are refused in a fixed order and without an access.** A read is refused for
the first reason that applies, and issues its command if there is none. A write is
refused in the same way for its drive and its length; then its commands are checked one
by one. It reports an address exactly if it has reached a command that does not lie within
28 bits: that of the first one, when all before it are sent and flushed, with the accesses
of these and no more. The sector numbers on the way never overflow. -/
theorem requests_checked (c : Controller) (drive : UInt8) (lba : UInt32) (s : σ)
    (before : Array Access) :
    (∀ (count : UInt16) (buffer : Bytes),
      match Refusal.first (c.readRefusals drive count.toNat lba buffer.size) with
      | some e => c.readSectors drive count lba buffer (⟨s, before⟩ : Traced σ)
          = ⟨.error e, buffer, ⟨s, before⟩⟩
      | none => ∃ id p identity u, c.find drive = .ok (id, p, identity)
          ∧ (c.readSectors drive count lba buffer (⟨s, before⟩ : Traced σ)).device.accesses
            = before ++ (issued id p lba count.toNat cmdReadSectors ++ u).toArray)
    ∧ ∀ data : Bytes,
      match Refusal.first (c.writeRefusals drive data.size) with
      | some e => c.writeSectors drive lba data (⟨s, before⟩ : Traced σ) = .error e ⟨s, before⟩
      | none => ∃ id p identity, c.find drive = .ok (id, p, identity)
          ∧ (∀ l t, c.writeSectors drive lba data (⟨s, before⟩ : Traced σ)
              = .error (.lba28Limit l) t
            ↔ ∃ k, 256 * k < data.size / 512 ∧ l.toNat = lba.toNat + 256 * k
              ∧ (∀ j < k, lba.toNat + 256 * (j + 1) ≤ 2 ^ 28)
              ∧ 2 ^ 28 < l.toNat + min (data.size / 512 - 256 * k) 256
              ∧ Reached c.pollBudget id p drive data lba (data.size / 512) ⟨s, before⟩ l
                (data.size / 512 - 256 * k) t)
          ∧ ∀ next left t, Reached c.pollBudget id p drive data lba (data.size / 512)
              (⟨s, before⟩ : Traced σ) next left t →
            next.toNat + left = lba.toNat + data.size / 512
            ∧ ∃ u ∈ writing c.pollBudget id p data (chunks lba (data.size / 512 - left) 0),
              t.accesses = before ++ u.toArray := by
  refine ⟨fun count buffer => ?_, fun data => ?_⟩
  · have hchecked := readSectors_checked c drive count lba buffer (⟨s, before⟩ : Traced σ)
    split at hchecked
    · exact hchecked
    · obtain ⟨id, p, identity, u, hfind, htrace⟩ := hchecked
      refine ⟨id, p, identity, u, hfind, ?_⟩
      rw [← Array.toList_inj, Array.toList_append]
      exact htrace
  · have hchecked := writeSectors_checked c drive lba data (⟨s, before⟩ : Traced σ)
    split at hchecked
    · exact hchecked
    · obtain ⟨id, p, identity, hfind, heq⟩ := hchecked
      refine ⟨id, p, identity, hfind, fun l t => ?_, fun next left t hreached => ?_⟩
      · rw [heq, ← writeCommands_refused_iff]
        cases writeCommands c.pollBudget id p drive data lba (data.size / 512) 0
            (⟨s, before⟩ : Traced σ) with
        | ok _ m => exact ⟨(fun h => nomatch h), (fun h => nomatch h)⟩
        | error e m => exact Iff.rfl
      · obtain ⟨u, hu, htrace⟩ := hreached.trace
        refine ⟨hreached.running.1, u, hu, ?_⟩
        rw [← Array.toList_inj, Array.toList_append]
        exact htrace

end Controller

end AtaVolume
