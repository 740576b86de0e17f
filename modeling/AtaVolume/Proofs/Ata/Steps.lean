/-
AtaVolume.Proofs.Ata.Steps — the driver's calls, one step at a time.

The calls of the driver that may fail are written as sequences of actions.
Here each of them is given as a function of the machine's state, for any
machine: what it does first, and what follows from each way this can end.
Proofs about the driver rewrite by these equations and never look at how
actions are put together.
-/
import AtaVolume.Ata.Transfer

namespace AtaVolume.Wire

variable {σ : Type}

theorem modify_apply {ε : Type} (f : σ → σ) (s : σ) :
    (modify f : EStateM ε σ PUnit) s = .ok () (f s) := rfl

theorem modifyGet_apply {ε α : Type} (f : σ → α × σ) (s : σ) :
    (modifyGet f : EStateM ε σ α) s = .ok (f s).1 (f s).2 := rfl

variable [PortSpace σ]

/-! ## §1 Polling -/

theorem waitNotBusy_zero (channel : ChannelId) (s : σ) :
    waitNotBusy channel 0 s = .error .timeout s := rfl

theorem waitNotBusy_succ (channel : ChannelId) (reads : Nat) (s : σ) :
    waitNotBusy channel (reads + 1) s
      = if (Status.mk (readRegister channel .command s).1).busy then
          waitNotBusy channel reads (readRegister channel .command s).2
        else .ok ⟨(readRegister channel .command s).1⟩ (readRegister channel .command s).2 := by
  simp only [waitNotBusy, bind, EStateM.bind, modifyGet_apply]
  cases (Status.mk (readRegister channel .command s).1).busy <;> rfl

theorem throwDeviceError_eq (channel : ChannelId) (s : σ) :
    throwDeviceError channel s
      = .error (.deviceError (readRegister channel .error s).1)
          (readRegister channel .error s).2 := rfl

/-- What a poll for a transfer makes of a status that is not busy. -/
def judge (channel : ChannelId) (status : Status) (s : σ) : EStateM.Result AtaError σ Unit :=
  if status.failed then throwDeviceError channel s
  else if status.deviceFault then .error .deviceFault s
  else if !status.dataRequest then .error .noDataRequest s
  else .ok () s

/-- How a call ends: well, or with an error. -/
def ended : Option AtaError → σ → EStateM.Result AtaError σ Unit
  | none, s => .ok () s
  | some e, s => .error e s

theorem pollStatus_eq (budget : UInt32) (channel : ChannelId) (transfer : Bool) (s : σ) :
    pollStatus budget channel transfer s
      = match waitNotBusy channel (budget.toNat + 1) (settle channel 4 s) with
        | .ok status s => if transfer then judge channel status s else .ok () s
        | .error e s => .error e s := by
  simp only [pollStatus, judge, bind, EStateM.bind, modify_apply]
  cases waitNotBusy channel (budget.toNat + 1) (settle channel 4 s) with
  | error e s => rfl
  | ok status s =>
    cases transfer with
    | false => rfl
    | true =>
      simp only
      cases status.failed <;> cases status.deviceFault <;> cases status.dataRequest <;> rfl

/-! ## §2 Reading -/

theorem receive_succ (budget : UInt32) (channel : ChannelId) (n : Nat) (acc : Bytes) (s : σ) :
    receive budget channel (n + 1) acc s
      = match pollStatus budget channel true s with
        | .ok _ s =>
          receive budget channel n (readSectorData channel acc s).1 (readSectorData channel acc s).2
        | .error e s => (.error e, acc, s) := by
  rw [receive]
  cases pollStatus budget channel true s <;> rfl

/-! ## §3 Writing -/

theorem send_succ (budget : UInt32) (channel : ChannelId) (data : Bytes) (n i : Nat) (s : σ) :
    send budget channel data (n + 1) i s
      = match pollStatus budget channel true s with
        | .ok _ s => send budget channel data n (i + 512) (writeSectorData channel data i s)
        | .error e s => .error e s := by
  simp only [send, bind, EStateM.bind, modify_apply]
  cases pollStatus budget channel true s <;> rfl

theorem flushCache_eq (budget : UInt32) (channel : ChannelId) (s : σ) :
    flushCache budget channel s
      = match pollStatus budget channel false (writeRegister channel .command cmdFlushCache s) with
        | .ok _ s =>
          if (Status.mk (readRegister channel .command s).1).failed then
            throwDeviceError channel (readRegister channel .command s).2
          else if (Status.mk (readRegister channel .command s).1).deviceFault then
            .error .deviceFault (readRegister channel .command s).2
          else .ok () (readRegister channel .command s).2
        | .error e s => .error e s := by
  simp only [flushCache, bind, EStateM.bind, modify_apply, modifyGet_apply]
  cases pollStatus budget channel false (writeRegister channel .command cmdFlushCache s) with
  | error e s => rfl
  | ok _ s =>
    simp only
    cases (Status.mk (readRegister channel .command s).1).failed <;>
      cases (Status.mk (readRegister channel .command s).1).deviceFault <;> rfl

theorem writeCommand_eq (budget : UInt32) (channel : ChannelId) (position : Position)
    (drive : UInt8) (data : Bytes) (lba : UInt32) (n i : Nat) (s : σ) :
    writeCommand budget channel position drive data lba n i s
      = if inLba28 lba n then
          match send budget channel data n i
              (issue channel position lba n cmdWriteSectors
                (PortSpace.note (.trace s!"write drive {drive} lba {lba} count {n}") s)) with
          | .ok _ s => flushCache budget channel s
          | .error e s => .error e s
        else .error (.lba28Limit lba) s := by
  cases h : inLba28 lba n with
  | false =>
    simp only [writeCommand, h]
    rfl
  | true =>
    simp only [writeCommand, h, Bool.not_true, Bool.false_eq_true, if_false, if_true, bind,
      EStateM.bind, modify_apply]
    cases send budget channel data n i
      (issue channel position lba n cmdWriteSectors
        (PortSpace.note (.trace s!"write drive {drive} lba {lba} count {n}") s)) <;> rfl

theorem writeCommands_zero (budget : UInt32) (channel : ChannelId) (position : Position)
    (drive : UInt8) (data : Bytes) (lba : UInt32) (i : Nat) (s : σ) :
    writeCommands budget channel position drive data lba 0 i s = .ok () s := by
  rw [writeCommands]
  rfl

theorem writeCommands_pos (budget : UInt32) (channel : ChannelId) (position : Position)
    (drive : UInt8) (data : Bytes) (lba : UInt32) {n : Nat} (hn : n ≠ 0) (i : Nat) (s : σ) :
    writeCommands budget channel position drive data lba n i s
      = match writeCommand budget channel position drive data lba (min n 256) i s with
        | .ok _ s =>
          writeCommands budget channel position drive data (lba + UInt32.ofNat (min n 256))
            (n - min n 256) (i + min n 256 * 512) s
        | .error e s => .error e s := by
  conv => lhs; rw [writeCommands, if_neg hn]
  simp only [bind, EStateM.bind]
  cases writeCommand budget channel position drive data lba (min n maxTransfer) i s <;> rfl

end AtaVolume.Wire
