/-
AtaVolume.Proofs.Bus.Leftovers — what earlier commands leave in the registers is
never seen.

Both drives of a channel share its registers, and a command that failed
half-way leaves them as they are: busy answers, a cursor, half a sector, the error
of a write that no flush has told. The next command overwrites all of that but the
control register and the buffer (`commanded_read_alike`, `commanded_write_alike`),
and looks at the buffer only where it has filled it itself. So on two buses with
the same drive, whatever else happened on them, the commands to this drive go on
alike (`commands_alike`).
-/
import AtaVolume.Proofs.Ata.Simulation
import AtaVolume.Proofs.Bus.Obstacles

namespace AtaVolume

namespace TaskFile

/-! ## §1 Registers -/

/-- The registers with another control register and another buffer. -/
def alter (t : TaskFile) (control : UInt8) (buffer : Sector) : TaskFile :=
  { t with control, buffer }

/-- Registers that look the same while sectors are read: the buffer counts once a
sector is due. -/
def ReadAlike (t t' : TaskFile) : Prop :=
  ∃ control buffer, t' = t.alter control buffer
    ∧ (t.status.dataRequest = true → buffer = t.buffer)

/-- Registers that look the same while sectors are written: the buffer counts
below the cursor. -/
def WriteAlike (t t' : TaskFile) : Prop :=
  ∃ control buffer, t' = t.alter control buffer
    ∧ ∀ k, k < t.cursor → buffer.byte k = t.buffer.byte k

variable {t t' : TaskFile} {d : Drive}

theorem readAlike_fail (t : TaskFile) (control error : UInt8) (buffer : Sector) :
    ReadAlike (t.fail error) ((t.alter control buffer).fail error) :=
  ⟨control, buffer, rfl, fun h =>
    absurd (show Status.failure.dataRequest = true from h) (by decide)⟩

theorem readAlike_load (t : TaskFile) (control : UInt8) (buffer : Sector) (d : Drive)
    (lba : UInt32) : ReadAlike (t.load d lba) ((t.alter control buffer).load d lba) := by
  unfold load
  split
  · exact readAlike_fail t control _ buffer
  · split
    · exact ⟨control, _, rfl, fun _ => rfl⟩
    · exact readAlike_fail t control _ buffer

theorem readAlike_advanceRead (t : TaskFile) (control : UInt8) (buffer : Sector) (d : Drive)
    (latency : Nat) :
    ReadAlike (t.advanceRead d latency) ((t.alter control buffer).advanceRead d latency) := by
  have hfinish : ReadAlike t.finish (t.alter control buffer).finish :=
    ⟨control, buffer, rfl, fun h => absurd (show Status.idle.dataRequest = true from h) (by decide)⟩
  have hphase : (t.alter control buffer).phase = t.phase := rfl
  unfold advanceRead
  rw [hphase]
  cases t.phase with
  | read lba remaining =>
    simp only
    split
    · exact readAlike_load { t with phase := .read (lba + 1) (remaining - 1), busyReads := latency }
        control buffer d (lba + 1)
    · exact hfinish
  | _ => exact hfinish

theorem readWord_ready (h : t.dataReady = true) (d : Drive) (latency : Nat) :
    t.readWord d latency
      = (t.buffer.word t.cursor,
         if t.cursor + 2 = 512 then advanceRead { t with cursor := t.cursor + 2 } d latency
         else { t with cursor := t.cursor + 2 }) := by
  unfold readWord
  rw [if_pos h]
  simp only
  split <;> rfl

/-- A word reads alike from both. -/
theorem ReadAlike.readWord (h : ReadAlike t t') (d : Drive) (latency : Nat) :
    (t.readWord d latency).1 = (t'.readWord d latency).1
      ∧ ReadAlike (t.readWord d latency).2 (t'.readWord d latency).2 := by
  obtain ⟨control, buffer, rfl, hbuffer⟩ := h
  have hready : (t.alter control buffer).dataReady = t.dataReady := rfl
  cases hdue : t.dataReady with
  | false =>
    unfold TaskFile.readWord
    rw [hready, hdue]
    exact ⟨rfl, control, buffer, rfl, hbuffer⟩
  | true =>
    have hrequest : t.status.dataRequest = true := by
      unfold dataReady at hdue
      exact (Bool.and_eq_true_iff.1 hdue).1
    obtain rfl := hbuffer hrequest
    rw [readWord_ready hdue, readWord_ready (hready.trans hdue)]
    refine ⟨rfl, ?_⟩
    show ReadAlike (if t.cursor + 2 = 512 then _ else _) (if t.cursor + 2 = 512 then _ else _)
    split
    · exact readAlike_advanceRead { t with cursor := t.cursor + 2 } control t.buffer d latency
    · exact ⟨control, t.buffer, rfl, fun _ => rfl⟩

/-- A byte put at the end of what two buffers agree on. -/
theorem byte_setIfInBounds_alike {s s' : Sector} {i : Nat}
    (h : ∀ k, k < i → s'.byte k = s.byte k) (b : UInt8) (k : Nat) (hk : k < i + 1) :
    Sector.byte (s'.setIfInBounds i b) k = Sector.byte (s.setIfInBounds i b) k := by
  by_cases hi : i < 512
  · rw [Sector.byte_setIfInBounds s' hi, Sector.byte_setIfInBounds s hi]
    split
    · rfl
    · exact h k (by omega)
  · rw [Vector.setIfInBounds_eq_of_size_le (by omega),
      Vector.setIfInBounds_eq_of_size_le (by omega)]
    by_cases hlt : k < i
    · exact h k hlt
    · rw [Sector.byte_eq_zero s' (by omega), Sector.byte_eq_zero s (by omega)]

theorem byte_setWord_alike {s s' : Sector} {cursor : Nat}
    (h : ∀ k, k < cursor → s'.byte k = s.byte k) (w : UInt16) (k : Nat) (hk : k < cursor + 2) :
    (s'.setWord cursor w).byte k = (s.setWord cursor w).byte k := by
  unfold Sector.setWord
  exact byte_setIfInBounds_alike (byte_setIfInBounds_alike h _) _ k hk

/-- A full buffer is stored alike from both. -/
theorem writeAlike_storeSector (t : TaskFile) (control : UInt8) (d : Drive) (lba : UInt32)
    (remaining latency : Nat) :
    (t.storeSector d lba remaining latency).2
        = ((t.alter control t.buffer).storeSector d lba remaining latency).2
      ∧ WriteAlike (t.storeSector d lba remaining latency).1
          ((t.alter control t.buffer).storeSector d lba remaining latency).1 := by
  have hbuffer : (t.alter control t.buffer).buffer = t.buffer := rfl
  unfold storeSector
  rw [hbuffer]
  split
  · exact ⟨rfl, control, t.buffer, rfl, fun _ _ => rfl⟩
  · cases Medium.writeSector lba (d.stored t.buffer) d.medium with
    | error e medium => exact ⟨rfl, control, t.buffer, rfl, fun _ _ => rfl⟩
    | ok _ medium =>
      simp only
      split <;> exact ⟨rfl, control, t.buffer, rfl, fun _ _ => rfl⟩

theorem writeWord_of_not_ready (h : t.dataReady = false) (d : Drive) (w : UInt16) (latency : Nat) :
    t.writeWord d w latency = (t, d) := by
  unfold writeWord
  rw [h]
  cases t.phase <;> rfl

/-- A word is written alike to both. -/
theorem WriteAlike.writeWord (h : WriteAlike t t') (d : Drive) (w : UInt16) (latency : Nat) :
    (t.writeWord d w latency).2 = (t'.writeWord d w latency).2
      ∧ WriteAlike (t.writeWord d w latency).1 (t'.writeWord d w latency).1 := by
  obtain ⟨control, buffer, rfl, hbuffer⟩ := h
  have hready : (t.alter control buffer).dataReady = t.dataReady := rfl
  have hphase : (t.alter control buffer).phase = t.phase := rfl
  cases hdue : t.dataReady with
  | false =>
    rw [writeWord_of_not_ready hdue, writeWord_of_not_ready (hready.trans hdue)]
    exact ⟨rfl, control, buffer, rfl, hbuffer⟩
  | true =>
    cases hwrite : t.phase with
    | write lba remaining =>
      have hword := byte_setWord_alike hbuffer w
      rw [Wire.writeWord_due hwrite hdue, Wire.writeWord_due (hphase.trans hwrite)
        (hready.trans hdue)]
      have hcursor : (t.alter control buffer).cursor = t.cursor := rfl
      rw [hcursor]
      split
      · exact ⟨rfl, control, buffer.setWord t.cursor w, rfl, hword⟩
      · -- the buffers are full, so they agree on every byte
        have hfull : buffer.setWord t.cursor w = t.buffer.setWord t.cursor w :=
          Sector.ext_byte fun k hk => hword k (by omega)
        have hput : (t.alter control buffer).putWord w
            = (t.putWord w).alter control (t.putWord w).buffer := by
          unfold putWord alter
          rw [hfull]
        rw [hput]
        exact writeAlike_storeSector (t.putWord w) control d lba remaining latency
    | _ =>
      unfold TaskFile.writeWord
      rw [hphase, hwrite]
      exact ⟨rfl, control, buffer, rfl, hbuffer⟩

/-! ## §2 Commands -/

theorem command_packet (hkind : d.kind ≠ .ata) {value : UInt8} (hvalue : value ≠ cmdIdentify)
    (t : TaskFile) (latency : Nat) :
    t.command d value latency = ((t.cleared latency).fail errAborted, d) := by
  unfold command
  rw [if_neg hvalue, if_pos hkind]
  rfl

/-- A command leaves nothing of what was before but the control register and the
buffer. -/
theorem cleared_addressed (t t' : TaskFile) (p : Position) (lba : UInt32) (n latency : Nat) :
    (t'.addressed p lba n).cleared latency
      = ((t.addressed p lba n).cleared latency).alter t'.control t'.buffer := rfl

theorem commanded_read_alike (t t' : TaskFile) (p : Position) (d : Drive) (lba : UInt32)
    (n latency : Nat) :
    (t.commanded p d lba n cmdReadSectors latency).2
        = (t'.commanded p d lba n cmdReadSectors latency).2
      ∧ ReadAlike (t.commanded p d lba n cmdReadSectors latency).1
          (t'.commanded p d lba n cmdReadSectors latency).1 := by
  unfold commanded
  by_cases hkind : d.kind = .ata
  · cases hfault : d.faults.deviceFault with
    | true =>
      rw [command_fault _ _ hkind hfault (by decide), command_fault _ _ hkind hfault (by decide),
        cleared_addressed t t']
      exact ⟨rfl, t'.control, t'.buffer, rfl,
        fun h => absurd (show Status.fault.dataRequest = true from h) (by decide)⟩
    | false =>
      rw [command_read _ _ hkind hfault, command_read _ _ hkind hfault, cleared_addressed t t']
      refine ⟨rfl, ?_⟩
      generalize (t.addressed p lba n).cleared latency = u
      unfold startRead
      have htarget : (u.alter t'.control t'.buffer).targetLba = u.targetLba := rfl
      have hcount : (u.alter t'.control t'.buffer).targetCount = u.targetCount := rfl
      rw [htarget, hcount]
      split
      · exact readAlike_load { u with phase := .read u.targetLba u.targetCount } _ _ d _
      · exact readAlike_fail u _ _ _
  · rw [command_packet hkind (by decide), command_packet hkind (by decide), cleared_addressed t t']
    exact ⟨rfl, readAlike_fail _ _ _ _⟩

/-- Nothing of the buffer counts at its start. -/
theorem writeAlike_of_cursor {t : TaskFile} (h : t.cursor = 0) (control : UInt8)
    (buffer : Sector) : WriteAlike t (t.alter control buffer) :=
  ⟨control, buffer, rfl, fun k hk => absurd hk (by omega)⟩

theorem commanded_write_alike (t t' : TaskFile) (p : Position) (d : Drive) (lba : UInt32)
    (n latency : Nat) :
    (t.commanded p d lba n cmdWriteSectors latency).2
        = (t'.commanded p d lba n cmdWriteSectors latency).2
      ∧ WriteAlike (t.commanded p d lba n cmdWriteSectors latency).1
          (t'.commanded p d lba n cmdWriteSectors latency).1 := by
  unfold commanded
  by_cases hkind : d.kind = .ata
  · cases hfault : d.faults.deviceFault with
    | true =>
      rw [command_fault _ _ hkind hfault (by decide), command_fault _ _ hkind hfault (by decide),
        cleared_addressed t t']
      exact ⟨rfl, writeAlike_of_cursor rfl _ _⟩
    | false =>
      rw [command_write _ _ hkind hfault, command_write _ _ hkind hfault, cleared_addressed t t']
      have hstart : ((t.addressed p lba n).cleared latency).cursor = 0 := rfl
      generalize (t.addressed p lba n).cleared latency = u at hstart
      unfold startWrite
      have htarget : (u.alter t'.control t'.buffer).targetLba = u.targetLba := rfl
      have hcount : (u.alter t'.control t'.buffer).targetCount = u.targetCount := rfl
      rw [htarget, hcount]
      split
      · exact ⟨rfl, writeAlike_of_cursor (t := { u with
          phase := .write u.targetLba u.targetCount, status := .transferDue }) hstart _ _⟩
      · exact ⟨rfl, writeAlike_of_cursor (t := u.fail errNotFound) hstart _ _⟩
  · rw [command_packet hkind (by decide), command_packet hkind (by decide), cleared_addressed t t']
    exact ⟨rfl, writeAlike_of_cursor rfl _ _⟩

theorem WriteAlike.flush (h : WriteAlike t t') (d : Drive) (latency : Nat) :
    (t.command d cmdFlushCache latency).2 = (t'.command d cmdFlushCache latency).2
      ∧ WriteAlike (t.command d cmdFlushCache latency).1
          (t'.command d cmdFlushCache latency).1 := by
  obtain ⟨control, buffer, rfl, -⟩ := h
  by_cases hkind : d.kind = .ata
  · cases hfault : d.faults.deviceFault with
    | true =>
      rw [command_fault _ _ hkind hfault (by decide), command_fault _ _ hkind hfault (by decide)]
      exact ⟨rfl, writeAlike_of_cursor rfl control buffer⟩
    | false =>
      have hpending : (t.alter control buffer).pendingError = t.pendingError := rfl
      rw [command_flush _ _ hkind hfault, command_flush _ _ hkind hfault, hpending]
      cases t.pendingError with
      | some error =>
        exact ⟨rfl, writeAlike_of_cursor (t := (t.cleared latency).fail error) rfl control buffer⟩
      | none =>
        exact ⟨rfl, writeAlike_of_cursor (t := (t.cleared latency).finish) rfl control buffer⟩
  · rw [command_packet hkind (by decide), command_packet hkind (by decide)]
    exact ⟨rfl, writeAlike_of_cursor rfl control buffer⟩

end TaskFile

/-! ## §3 Two buses -/

namespace Bus

open TaskFile Wire

variable {b b' : Bus} {id : ChannelId} {p : Position} {P : TaskFile → TaskFile → Prop}

/-- Two buses that came from `b` and `b'` by accesses to one drive, which is the
same on both. -/
def Abreast (b b' : Bus) (id : ChannelId) (p : Position) (s s' : Bus) : Prop :=
  ∃ d, b.Served id p d s ∧ b'.Served id p d s'

/-- Two such buses while the drive is in use. -/
inductive Tandem (b b' : Bus) (id : ChannelId) (p : Position) (P : TaskFile → TaskFile → Prop)
    (s s' : Bus) : Prop
  | intro {c c' : BusChannel} {t t' : TaskFile} {d : Drive}
      (channel : s.channel id = c.engaged p t d)
      (channel' : s'.channel id = c'.engaged p t' d) (served : b.Served id p d s)
      (served' : b'.Served id p d s') (alike : P t t')

theorem Tandem.abreast {s s' : Bus} (h : Tandem b b' id p P s s') : Abreast b b' id p s s' := by
  obtain ⟨-, -, served, served', -⟩ := h
  exact ⟨_, served, served'⟩

/-- An access to the drive in use is one on the drive. -/
theorem Served.turned {b s s₁ : Bus} {c : BusChannel} {t t₁ : TaskFile} {d d₁ : Drive}
    (h : b.Served id p d s) (hs : s.channel id = c.engaged p t d)
    (hturned : s.Turned id (c.engaged p t₁ d₁) s₁) : b.Served id p d₁ s₁ := by
  have hc : c.engaged p t₁ d₁ = (s.channel id).engaged p t₁ d₁ := by
    rw [hs, BusChannel.engaged_engaged]
  rw [hc] at hturned
  exact h.trans hturned.served

/-- An access to the drive in use, on both buses. -/
theorem tandem_turned {s s' s₁ s₁' : Bus} {c c' : BusChannel} {t t' t₁ t₁' : TaskFile}
    {d d₁ : Drive} (served : b.Served id p d s) (served' : b'.Served id p d s')
    (hs : s.channel id = c.engaged p t d) (hs' : s'.channel id = c'.engaged p t' d)
    (hturned : s.Turned id (c.engaged p t₁ d₁) s₁)
    (hturned' : s'.Turned id (c'.engaged p t₁' d₁) s₁') (alike : P t₁ t₁') :
    Tandem b b' id p P s₁ s₁' :=
  .intro hturned.channel hturned'.channel (served.turned hs hturned)
    (served'.turned hs' hturned') alike

/-- Both buses are as slow as they were. -/
theorem Served.same_latency (hlatency : b.latency = b'.latency) {s s' : Bus} {d d' : Drive}
    (served : b.Served id p d s) (served' : b'.Served id p d' s') : s'.latency = s.latency := by
  rw [served.latency, served'.latency, hlatency]

/-- What a drive tells about its commands is the same if the registers are. -/
theorem pollsAlike_tandem (hP : ∀ t t', P t t' → ∃ control buffer, t' = t.alter control buffer)
    (hbusy : ∀ t t' k, P t t' → P { t with busyReads := k } { t' with busyReads := k }) :
    PollsAlike id (Tandem b b' id p P) := by
  rintro r hr s s' ⟨hs, hs', served, served', alike⟩
  rename_i c c' t t' d
  have hread := turned_readRegister id r s
  have hread' := turned_readRegister id r s'
  rw [readRegister_fst, readRegister_fst]
  rw [hs] at hread ⊢
  rw [hs'] at hread' ⊢
  obtain ⟨control, buffer, rfl⟩ := hP t t' alike
  cases r with
  | command =>
    rw [BusChannel.readRegister_command_engaged] at hread hread' ⊢
    rw [BusChannel.readRegister_command_engaged]
    refine ⟨?_, tandem_turned served served' hs hs' hread hread'
      (hbusy t _ (t.busyReads - 1) alike)⟩
    simp only [BusChannel.status_engaged]
    rfl
  | control =>
    refine ⟨?_, tandem_turned served served' hs hs' hread hread' alike⟩
    show (c.engaged p t d).status.bits = (c'.engaged p _ d).status.bits
    simp only [BusChannel.status_engaged]
    rfl
  | error =>
    rw [BusChannel.readRegister_error_engaged] at hread hread' ⊢
    rw [BusChannel.readRegister_error_engaged]
    exact ⟨rfl, tandem_turned served served' hs hs' hread hread' alike⟩
  | _ => cases hr

/-- A command that makes the registers alike puts the drive to use. -/
theorem tandem_issue {lba : UInt32} {n : Nat} {command : UInt8}
    (hcommand : ∀ t t' d latency, (commanded t p d lba n command latency).2
        = (commanded t' p d lba n command latency).2
      ∧ P (commanded t p d lba n command latency).1 (commanded t' p d lba n command latency).1)
    (hlatency : b.latency = b'.latency) {s s' : Bus} (h : Abreast b b' id p s s') :
    Tandem b b' id p P (issue id p lba n command s) (issue id p lba n command s') := by
  obtain ⟨d, served, served'⟩ := h
  have hissue := issue_turned served.drive lba n command
  have hissue' := issue_turned served'.drive lba n command
  obtain ⟨hdrive, alike⟩ := hcommand (s.channel id).registers (s'.channel id).registers d s.latency
  rw [served.same_latency hlatency served', ← hdrive] at hissue'
  exact .intro hissue.channel hissue'.channel (served.trans hissue.served)
    (served'.trans hissue'.served) alike

/-- **The commands to a drive go on alike on two buses that have the drive.** -/
theorem commands_alike (id : ChannelId) (p : Position) (hlatency : b.latency = b'.latency) :
    CommandsAlike id p (Abreast b b' id p) (Tandem b b' id p ReadAlike)
      (Tandem b b' id p WriteAlike) where
  note report s s' h := by
    obtain ⟨d, served, served'⟩ := h
    exact ⟨d, served.noted report, served'.noted report⟩
  startRead lba n s s' _ _ _ h :=
    tandem_issue (fun t t' d latency => commanded_read_alike t t' p d lba n latency) hlatency h
  reads := by
    refine pollsAlike_tandem (fun t t' h => ?_) fun t t' k h => ?_
    · obtain ⟨control, buffer, ht, -⟩ := h
      exact ⟨control, buffer, ht⟩
    · obtain ⟨control, buffer, rfl, hbuffer⟩ := h
      exact ⟨control, buffer, rfl, hbuffer⟩
  words := by
    rintro s s' ⟨hs, hs', served, served', alike⟩
    rename_i c c' t t' d
    have hsame := served.same_latency hlatency served'
    have hword := turned_readWord id s
    have hword' := turned_readWord id s'
    rw [readWord_fst, readWord_fst]
    rw [hs, BusChannel.readWord_engaged] at hword ⊢
    rw [hs', hsame, BusChannel.readWord_engaged] at hword' ⊢
    obtain ⟨hfst, alike'⟩ := alike.readWord d s.latency
    exact ⟨hfst, tandem_turned served served' hs hs' hword hword' alike'⟩
  endRead s s' h := h.abreast
  startWrite lba n s s' _ _ _ h :=
    tandem_issue (fun t t' d latency => commanded_write_alike t t' p d lba n latency) hlatency h
  writes := by
    refine pollsAlike_tandem (fun t t' h => ?_) fun t t' k h => ?_
    · obtain ⟨control, buffer, ht, -⟩ := h
      exact ⟨control, buffer, ht⟩
    · obtain ⟨control, buffer, rfl, hbuffer⟩ := h
      exact ⟨control, buffer, rfl, hbuffer⟩
  sent := by
    rintro w s s' ⟨hs, hs', served, served', alike⟩
    rename_i c c' t t' d
    have hsame := served.same_latency hlatency served'
    have hword := turned_writeWord id w s
    have hword' := turned_writeWord id w s'
    obtain ⟨hdrive, alike'⟩ := alike.writeWord d w s.latency
    rw [hs, BusChannel.writeWord_engaged] at hword
    rw [hs', hsame, BusChannel.writeWord_engaged, ← hdrive] at hword'
    exact tandem_turned served served' hs hs' hword hword' alike'
  flush := by
    rintro s s' ⟨hs, hs', served, served', alike⟩
    rename_i c c' t t' d
    have hsame := served.same_latency hlatency served'
    have hflush := turned_writeRegister id .command cmdFlushCache s
    have hflush' := turned_writeRegister id .command cmdFlushCache s'
    obtain ⟨hdrive, alike'⟩ := alike.flush d s.latency
    rw [hs, BusChannel.writeRegister_command_engaged] at hflush
    rw [hs', hsame, BusChannel.writeRegister_command_engaged, ← hdrive] at hflush'
    exact tandem_turned served served' hs hs' hflush hflush' alike'
  endWrite s s' h := h.abreast

end Bus

end AtaVolume
