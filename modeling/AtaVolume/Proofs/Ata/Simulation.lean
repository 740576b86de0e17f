/-
AtaVolume.Proofs.Ata.Simulation — the driver on two machines at once.

What the driver does depends on its machine only through the values that it
reads. So two machines whose ports answer alike are driven alike: each call
ends in the same way on both (`EndsAlike`), and a relation between the machines
that every access keeps still holds at the end. The relation may be a finer one
while a command is under way; `ReadCommandsAlike` and `CommandsAlike` say what has to
be shown of the accesses, and `readSectors_alike` and `writeSectors_alike` what
follows for the calls.
-/
import AtaVolume.Proofs.Ata.Steps
import AtaVolume.Proofs.Checks

namespace AtaVolume

/-! ## §1 Ends -/

section Ends

variable {ε α β σ τ : Type}

/-- Two runs end with the same value, or the same error, in related states. -/
inductive EndsAlike (R : σ → τ → Prop) : EStateM.Result ε σ α → EStateM.Result ε τ α → Prop
  | ok {a : α} {s : σ} {t : τ} (states : R s t) : EndsAlike R (.ok a s) (.ok a t)
  | error {e : ε} {s : σ} {t : τ} (states : R s t) : EndsAlike R (.error e s) (.error e t)

theorem EndsAlike.mono {R Q : σ → τ → Prop} {x : EStateM.Result ε σ α} {y : EStateM.Result ε τ α}
    (h : EndsAlike R x y) (hQ : ∀ s t, R s t → Q s t) : EndsAlike Q x y := by
  cases h with
  | ok states => exact .ok (hQ _ _ states)
  | error states => exact .error (hQ _ _ states)

theorem EndsAlike.cases_eq {R : σ → τ → Prop} {x : EStateM.Result ε σ α}
    {y : EStateM.Result ε τ α} (h : EndsAlike R x y) :
    (∃ a s t, x = .ok a s ∧ y = .ok a t ∧ R s t)
      ∨ ∃ e s t, x = .error e s ∧ y = .error e t ∧ R s t := by
  cases h with
  | ok states => exact .inl ⟨_, _, _, rfl, rfl, states⟩
  | error states => exact .inr ⟨_, _, _, rfl, rfl, states⟩

/-- From related states, two calls end alike. -/
def RunsAlike (R : σ → τ → Prop) (x : EStateM ε σ α) (y : EStateM ε τ α) : Prop :=
  ∀ s t, R s t → EndsAlike R (x s) (y t)

variable {R : σ → τ → Prop}

theorem RunsAlike.pure (a : α) :
    RunsAlike R (Pure.pure a : EStateM ε σ α) (Pure.pure a : EStateM ε τ α) := by
  intro s t h
  exact .ok h

theorem RunsAlike.throw (e : ε) :
    RunsAlike R (throw e : EStateM ε σ α) (throw e : EStateM ε τ α) := by
  intro s t h
  exact .error h

/-- Sequences of calls that run alike run alike. -/
theorem RunsAlike.bind {x : EStateM ε σ α} {y : EStateM ε τ α} {f : α → EStateM ε σ β}
    {g : α → EStateM ε τ β} (hx : RunsAlike R x y) (hf : ∀ a, RunsAlike R (f a) (g a)) :
    RunsAlike R (x >>= f) (y >>= g) := by
  intro s t h
  simp only [Bind.bind, EStateM.bind]
  obtain ⟨a, s', t', hs, ht, states⟩ | ⟨e, s', t', hs, ht, states⟩ := (hx s t h).cases_eq
  · rw [hs, ht]
    exact hf a s' t' states
  · rw [hs, ht]
    exact .error states

theorem RunsAlike.modify {f : σ → σ} {g : τ → τ} (h : ∀ s t, R s t → R (f s) (g t)) :
    RunsAlike R (modify f : EStateM ε σ PUnit) (modify g : EStateM ε τ PUnit) := by
  intro s t hs
  exact .ok (h s t hs)

theorem RunsAlike.ite {p : Prop} [Decidable p] {x x' : EStateM ε σ α} {y y' : EStateM ε τ α}
    (h : RunsAlike R x y) (h' : RunsAlike R x' y') :
    RunsAlike R (if p then x else x') (if p then y else y') := by
  split
  · exact h
  · exact h'

/-- A check before a call. -/
theorem RunsAlike.refuse {p : Prop} [Decidable p] {e : ε} {f : β → EStateM ε σ α}
    {g : β → EStateM ε τ α} {x : EStateM ε σ α} {y : EStateM ε τ α} (h : RunsAlike R x y) :
    RunsAlike R (if p then MonadExcept.throw e >>= f else x)
      (if p then MonadExcept.throw e >>= g else y) :=
  .ite (fun _ _ hs => .error hs) h

end Ends

/-- Two reads end alike. -/
structure OutcomesAlike {σ τ : Type} (R : σ → τ → Prop) (x : ReadOutcome σ) (y : ReadOutcome τ) :
    Prop where
  result : x.result = y.result
  buffer : x.buffer = y.buffer
  states : R x.device y.device

theorem OutcomesAlike.cases_eq {σ τ : Type} {R : σ → τ → Prop} {x : ReadOutcome σ}
    {y : ReadOutcome τ} (h : OutcomesAlike R x y) :
    ∃ result buffer s t, x = ⟨result, buffer, s⟩ ∧ y = ⟨result, buffer, t⟩ ∧ R s t := by
  obtain ⟨result, buffer, s⟩ := x
  obtain ⟨result', buffer', t⟩ := y
  obtain ⟨rfl, rfl, states⟩ := h
  exact ⟨result, buffer, s, t, rfl, rfl, states⟩

namespace Wire

variable {σ τ : Type} [PortSpace σ] [PortSpace τ] {id : ChannelId} {R : σ → τ → Prop}

/-! ## §2 Polls -/

/-- The registers that tell how a command goes. -/
def tells : Register → Bool
  | .command | .control | .error => true
  | _ => false

/-- Both machines tell the same about their commands. -/
def PollsAlike (id : ChannelId) (R : σ → τ → Prop) : Prop :=
  ∀ r, tells r = true → ∀ s t, R s t →
    (readRegister id r s).1 = (readRegister id r t).1
      ∧ R (readRegister id r s).2 (readRegister id r t).2

theorem settle_alike (h : PollsAlike id R) (n : Nat) {s : σ} {t : τ} (hs : R s t) :
    R (settle id n s) (settle id n t) := by
  induction n generalizing s t with
  | zero => exact hs
  | succ n ih => exact ih (h .control rfl s t hs).2

theorem waitNotBusy_alike (h : PollsAlike id R) (reads : Nat) :
    RunsAlike R (waitNotBusy id reads : PortAction σ Status) (waitNotBusy id reads) := by
  induction reads with
  | zero =>
    intro s t hs
    exact .error hs
  | succ reads ih =>
    intro s t hs
    obtain ⟨hbits, hnext⟩ := h .command rfl s t hs
    rw [waitNotBusy_succ, waitNotBusy_succ, hbits]
    split
    · exact ih _ _ hnext
    · exact .ok hnext

theorem throwDeviceError_alike (h : PollsAlike id R) :
    RunsAlike R (throwDeviceError id : PortAction σ Unit) (throwDeviceError id) := by
  intro s t hs
  obtain ⟨hbits, hnext⟩ := h .error rfl s t hs
  rw [throwDeviceError_eq, throwDeviceError_eq, hbits]
  exact .error hnext

theorem pollStatus_alike (h : PollsAlike id R) (budget : UInt32) (transfer : Bool) :
    RunsAlike R (pollStatus budget id transfer : PortAction σ Unit)
      (pollStatus budget id transfer) := by
  unfold pollStatus
  refine .bind (.modify fun s t hs => settle_alike h 4 hs) fun _ => ?_
  refine .bind (waitNotBusy_alike h _) fun status => ?_
  refine .ite ?_ (.pure _)
  refine .ite (throwDeviceError_alike h) ?_
  exact .ite (.throw _) (.ite (.throw _) (.pure _))

/-! ## §3 Sectors -/

/-- Both data ports give the same words. -/
def WordsAlike (id : ChannelId) (R : σ → τ → Prop) : Prop :=
  ∀ s t, R s t →
    (PortSpace.readWord (Register.data.port id) s).1
        = (PortSpace.readWord (Register.data.port id) t).1
      ∧ R (PortSpace.readWord (Register.data.port id) s).2
          (PortSpace.readWord (Register.data.port id) t).2

theorem readWords_alike (h : WordsAlike id R) (n : Nat) (acc : Bytes) {s : σ} {t : τ}
    (hs : R s t) :
    (readWords (Register.data.port id) n acc s).1 = (readWords (Register.data.port id) n acc t).1
      ∧ R (readWords (Register.data.port id) n acc s).2
          (readWords (Register.data.port id) n acc t).2 := by
  induction n generalizing acc s t with
  | zero => exact ⟨rfl, hs⟩
  | succ n ih =>
    obtain ⟨hword, hnext⟩ := h s t hs
    simp only [readWords, hword]
    exact ih _ hnext

theorem receive_alike (hpoll : PollsAlike id R) (hwords : WordsAlike id R) (budget : UInt32)
    (n : Nat) (acc : Bytes) {s : σ} {t : τ} (hs : R s t) :
    (receive budget id n acc s).1 = (receive budget id n acc t).1
      ∧ (receive budget id n acc s).2.1 = (receive budget id n acc t).2.1
      ∧ R (receive budget id n acc s).2.2 (receive budget id n acc t).2.2 := by
  induction n generalizing acc s t with
  | zero => exact ⟨rfl, rfl, hs⟩
  | succ n ih =>
    rw [receive_succ, receive_succ]
    obtain ⟨_, s', t', hs', ht', states⟩ | ⟨e, s', t', hs', ht', states⟩ :=
      (pollStatus_alike hpoll budget true s t hs).cases_eq
    · obtain ⟨hread, hnext⟩ := readWords_alike hwords sectorWords acc states
      simp only [hs', ht', readSectorData, hread]
      exact ih _ hnext
    · simp only [hs', ht', states, and_self]

/-- What is written to both data ports keeps the relation. -/
def SentAlike (id : ChannelId) (R : σ → τ → Prop) : Prop :=
  ∀ w s t, R s t →
    R (PortSpace.writeWord (Register.data.port id) w s)
      (PortSpace.writeWord (Register.data.port id) w t)

theorem writeWords_alike (h : SentAlike id R) (data : Bytes) (n i : Nat) {s : σ} {t : τ}
    (hs : R s t) :
    R (writeWords (Register.data.port id) data n i s)
      (writeWords (Register.data.port id) data n i t) := by
  induction n generalizing i s t with
  | zero => exact hs
  | succ n ih => exact ih _ (h _ s t hs)

theorem send_alike (hpoll : PollsAlike id R) (hsent : SentAlike id R) (budget : UInt32)
    (data : Bytes) (n i : Nat) :
    RunsAlike R (send budget id data n i : PortAction σ Unit) (send budget id data n i) := by
  induction n generalizing i with
  | zero => exact .pure _
  | succ n ih =>
    refine .bind (pollStatus_alike hpoll budget true) fun _ => ?_
    refine .bind (.modify fun s t hs => ?_) fun _ => ih _
    exact writeWords_alike hsent data sectorWords i hs

theorem flushCache_alike (hpoll : PollsAlike id R)
    (hflush : ∀ s t, R s t →
      R (writeRegister id .command cmdFlushCache s) (writeRegister id .command cmdFlushCache t))
    (budget : UInt32) :
    RunsAlike R (flushCache budget id : PortAction σ Unit) (flushCache budget id) := by
  unfold flushCache
  refine .bind (.modify hflush) fun _ => ?_
  refine .bind (pollStatus_alike hpoll budget false) fun _ => ?_
  refine .bind (x := (modifyGet (readRegister id .command) : PortAction σ UInt8)) ?_ fun bits => ?_
  · intro s t hs
    obtain ⟨hbits, hnext⟩ := hpoll .command rfl s t hs
    rw [modifyGet_apply, modifyGet_apply, hbits]
    exact .ok hnext
  · exact .ite (throwDeviceError_alike hpoll) (.ite (.throw _) (.pure _))

/-! ## §4 Commands -/

/-- Two machines on which reads of a device go on alike: `R` holds between commands,
`Reading` while one is under way. -/
structure ReadCommandsAlike (id : ChannelId) (p : Position) (R Reading : σ → τ → Prop) : Prop where
  note : ∀ report s t, R s t → R (PortSpace.note report s) (PortSpace.note report t)
  startRead : ∀ lba n s t, inLba28 lba n = true → 1 ≤ n → n ≤ 256 → R s t →
    Reading (issue id p lba n cmdReadSectors s) (issue id p lba n cmdReadSectors t)
  reads : PollsAlike id Reading
  words : WordsAlike id Reading
  endRead : ∀ s t, Reading s t → R s t

/-- The same of all commands, with `Writing` for those that write. -/
structure CommandsAlike (id : ChannelId) (p : Position) (R Reading Writing : σ → τ → Prop) : Prop
    extends ReadCommandsAlike id p R Reading where
  startWrite : ∀ lba n s t, inLba28 lba n = true → 1 ≤ n → n ≤ 256 → R s t →
    Writing (issue id p lba n cmdWriteSectors s) (issue id p lba n cmdWriteSectors t)
  writes : PollsAlike id Writing
  sent : SentAlike id Writing
  flush : ∀ s t, Writing s t →
    Writing (writeRegister id .command cmdFlushCache s)
      (writeRegister id .command cmdFlushCache t)
  endWrite : ∀ s t, Writing s t → R s t

variable {p : Position} {Reading Writing : σ → τ → Prop}

theorem writeCommand_alike (h : CommandsAlike id p R Reading Writing) (budget : UInt32)
    (drive : UInt8) (data : Bytes) (lba : UInt32) {n : Nat} (hpos : 1 ≤ n) (hn : n ≤ 256)
    (i : Nat) :
    RunsAlike R (writeCommand budget id p drive data lba n i : PortAction σ Unit)
      (writeCommand budget id p drive data lba n i) := by
  intro s t hs
  rw [writeCommand_eq, writeCommand_eq]
  cases hlimit : inLba28 lba n with
  | false => exact .error hs
  | true =>
    have hstart := h.startWrite lba n _ _ hlimit hpos hn
      (h.note (.trace s!"write drive {drive} lba {lba} count {n}") s t hs)
    simp only [if_true]
    obtain ⟨_, s', t', hs', ht', states⟩ | ⟨e, s', t', hs', ht', states⟩ :=
      (send_alike h.writes h.sent budget data n i _ _ hstart).cases_eq
    · simp only [hs', ht']
      exact (flushCache_alike h.writes h.flush budget s' t' states).mono h.endWrite
    · simp only [hs', ht']
      exact .error (h.endWrite _ _ states)

theorem writeCommands_alike (h : CommandsAlike id p R Reading Writing) (budget : UInt32)
    (drive : UInt8) (data : Bytes) (lba : UInt32) (n i : Nat) :
    RunsAlike R (writeCommands budget id p drive data lba n i : PortAction σ Unit)
      (writeCommands budget id p drive data lba n i) := by
  induction n using Nat.strongRecOn generalizing lba i with
  | ind n ih =>
    intro s t hs
    by_cases hzero : n = 0
    · subst hzero
      rw [writeCommands_zero, writeCommands_zero]
      exact .ok hs
    · rw [writeCommands_pos _ _ _ _ _ _ hzero, writeCommands_pos _ _ _ _ _ _ hzero]
      obtain ⟨_, s', t', hs', ht', states⟩ | ⟨e, s', t', hs', ht', states⟩ :=
        (writeCommand_alike h budget drive data lba (n := min n 256) (by omega)
          (Nat.min_le_right n 256) i s t hs).cases_eq
      · simp only [hs', ht']
        exact ih (n - min n 256) (by omega) _ _ _ _ states
      · simp only [hs', ht']
        exact .error states

end Wire

/-! ## §5 The driver's calls -/

namespace Controller

open Wire

variable {σ τ : Type} [PortSpace σ] [PortSpace τ] {id : ChannelId} {p : Position}
  {R Reading Writing : σ → τ → Prop} {c : Controller} {drive : UInt8} {identity : Identity}

/-- A read that goes anywhere has passed all checks. -/
theorem routeRead_ok {n room : Nat} {lba : UInt32} {place : ChannelId × Position}
    (h : c.routeRead drive n lba room = .ok place) :
    (∃ identity, c.find drive = .ok (place.1, place.2, identity))
      ∧ 1 ≤ n ∧ n ≤ 256 ∧ n * 512 ≤ room ∧ inLba28 lba n = true := by
  unfold routeRead at h
  obtain ⟨⟨id, p, identity⟩, hfind, h⟩ := bind_eq_ok.1 h
  simp only [refused_eq_ok] at h
  obtain ⟨hzero, hmany, hroom, hlimit, h⟩ := h
  cases h
  refine ⟨⟨identity, hfind⟩, Nat.pos_of_ne_zero hzero, Nat.le_of_not_lt hmany,
    Nat.le_of_not_lt hroom, ?_⟩
  simpa using hlimit

/-- A write that goes anywhere is one of whole sectors. -/
theorem routeWrite_ok {length : Nat} {place : ChannelId × Position}
    (h : c.routeWrite drive length = .ok place) :
    (∃ identity, c.find drive = .ok (place.1, place.2, identity))
      ∧ 1 ≤ length / 512 ∧ length = length / 512 * 512 := by
  unfold routeWrite at h
  obtain ⟨⟨id, p, identity⟩, hfind, h⟩ := bind_eq_ok.1 h
  simp only [refused_eq_ok] at h
  obtain ⟨hzero, hwhole, h⟩ := h
  cases h
  have hmod : length % 512 = 0 := Decidable.not_not.1 hwhole
  refine ⟨⟨identity, hfind⟩, ?_, ?_⟩ <;> omega

/-- A drive that is not known is neither read nor written. -/
theorem readSectors_unknown {e : AtaError} (h : c.find drive = .error e) (count : UInt16)
    (lba : UInt32) (buffer : Bytes) (s : σ) :
    c.readSectors drive count lba buffer s = ⟨.error e, buffer, s⟩ := by
  unfold readSectors routeRead
  rw [h]
  rfl

theorem writeSectors_unknown {e : AtaError} (h : c.find drive = .error e) (lba : UInt32)
    (data : Bytes) (s : σ) :
    c.writeSectors drive lba data s = .error e s := by
  unfold writeSectors routeWrite
  rw [h]
  rfl

/-- **Two machines are read alike.** A read that is refused touches neither. -/
theorem readSectors_alike (hfind : c.find drive = .ok (id, p, identity))
    (h : ReadCommandsAlike id p R Reading) (count : UInt16) (lba : UInt32) (buffer : Bytes)
    {s : σ} {t : τ} (hs : R s t) :
    OutcomesAlike R (c.readSectors drive count lba buffer s)
      (c.readSectors drive count lba buffer t) := by
  unfold readSectors
  cases hroute : c.routeRead drive count.toNat lba buffer.size with
  | error e => exact ⟨rfl, rfl, hs⟩
  | ok place =>
    obtain ⟨⟨identity', hplace⟩, hpos, hcount, -, hlimit⟩ := routeRead_ok hroute
    rw [hfind] at hplace
    cases hplace
    obtain ⟨hresult, hreceived, states⟩ := receive_alike h.reads h.words c.pollBudget count.toNat
      (Array.emptyWithCapacity (count.toNat * sectorSize))
      (h.startRead lba count.toNat _ _ hlimit hpos hcount
        (h.note (.trace s!"read drive {drive} lba {lba} count {count.toNat}") s t hs))
    exact ⟨hresult, congrArg (overwriteFront · buffer) hreceived, h.endRead _ _ states⟩

/-- **Two machines are written alike.** -/
theorem writeSectors_alike (hfind : c.find drive = .ok (id, p, identity))
    (h : CommandsAlike id p R Reading Writing) (lba : UInt32) (data : Bytes) :
    RunsAlike R (c.writeSectors drive lba data : PortAction σ Unit)
      (c.writeSectors drive lba data) := by
  unfold writeSectors
  cases hroute : c.routeWrite drive data.size with
  | error e => exact .throw e
  | ok place =>
    obtain ⟨⟨identity', hplace⟩, -, -⟩ := routeWrite_ok hroute
    rw [hfind] at hplace
    cases hplace
    refine .bind (writeCommands_alike h _ drive data lba _ 0) fun _ => ?_
    exact .modify (h.note _)

end Controller

end AtaVolume
