/-
AtaVolume.Proofs.Volume.ReadOnly — operations that are not meant to change anything do not.

A machine is only looked at if no word is written to it and no command given but the one
to read (`Access.Looks`). What such accesses keep, a read keeps (`LookedAlike.commands`),
and with it every operation that consists of reads (`perform_reads_alike`). This is used
twice: a traced machine keeps what was looked at apart from the rest (`Observed`), and an
emulated one its drives (`Bus.Carrying`).
-/
import AtaVolume.Proofs.Volume.Isolation
import AtaVolume.Proofs.Ata.Conformance

namespace AtaVolume

/-! ## §1 Looking -/

/-- The access writes no word, and to a command register only the command to read. -/
def Access.Looks : Access → Prop
  | .writeWord .. => False
  | .writeByte port value => ∀ id, port = Register.command.port id → value = cmdReadSectors
  | _ => True

namespace Wire

variable {σ τ : Type} [PortSpace σ] [PortSpace τ] {R : σ → τ → Prop}

/-- Two machines that answer alike as long as they are only looked at. -/
structure LookedAlike (R : σ → τ → Prop) : Prop where
  note : ∀ report s t, R s t → R (PortSpace.note report s) (PortSpace.note report t)
  wait : ∀ ms s t, R s t → R (PortSpace.wait ms s) (PortSpace.wait ms t)
  read : ∀ id r s t, R s t →
    (readRegister id r s).1 = (readRegister id r t).1
      ∧ R (readRegister id r s).2 (readRegister id r t).2
  word : ∀ id, WordsAlike id R
  write : ∀ id r value s t, (r = .command → value = cmdReadSectors) → R s t →
    R (writeRegister id r value s) (writeRegister id r value t)

/-- A command to read is only looking. -/
theorem LookedAlike.issue (h : LookedAlike R) (id : ChannelId) (p : Position) (lba : UInt32)
    (n : Nat) {s : σ} {t : τ} (hs : R s t) :
    R (issue id p lba n cmdReadSectors s) (issue id p lba n cmdReadSectors t) := by
  unfold Wire.issue select
  refine h.write id .command _ _ _ (fun _ => rfl) ?_
  refine h.write id .lbaHigh _ _ _ nofun ?_
  refine h.write id .lbaMid _ _ _ nofun ?_
  refine h.write id .lbaLow _ _ _ nofun ?_
  refine h.write id .sectorCount _ _ _ nofun ?_
  exact h.wait 1 _ _ (h.write id .deviceSelect _ _ _ nofun hs)

/-- **Reads only look**, and so do the polls between their sectors. -/
theorem LookedAlike.commands (h : LookedAlike R) (id : ChannelId) (p : Position) :
    ReadCommandsAlike id p R R where
  note := h.note
  startRead lba n _ _ _ _ _ hs := h.issue id p lba n hs
  reads r _ := h.read id r
  words := h.word id
  endRead _ _ hs := hs

end Wire

open Wire

variable {σ τ : Type} [PortSpace σ] [PortSpace τ]

namespace Disks

/-- The same driver on two machines. -/
def Driving (c : Controller) (R : σ → τ → Prop) (s : Disks σ) (t : Disks τ) : Prop :=
  s.controller = c ∧ t.controller = c ∧ R s.machine t.machine

/-- The disks of two machines are read alike. -/
theorem readsAlike {R : σ → τ → Prop} (h : LookedAlike R) (c : Controller) (drive : UInt8) :
    ReadsAlike drive (Driving c R) where
  size := by
    rintro ⟨c, m⟩ ⟨_, m'⟩ ⟨rfl, rfl, -⟩
    rfl
  note := by
    rintro report ⟨c, m⟩ ⟨_, m'⟩ ⟨rfl, rfl, hs⟩
    exact ⟨rfl, rfl, h.note report m m' hs⟩
  read := by
    rintro count lba buffer ⟨_, m⟩ ⟨c, m'⟩ ⟨rfl, hc, hs⟩
    obtain rfl : c = _ := hc
    cases hfind : c.find drive with
    | error e =>
      simp only [BlockDevice.readSectors, Controller.readSectors_unknown hfind]
      exact ⟨rfl, rfl, rfl, rfl, hs⟩
    | ok place =>
      obtain ⟨id, p, identity⟩ := place
      obtain ⟨hresult, hbuffer, states⟩ :=
        Controller.readSectors_alike hfind (h.commands id p) count lba buffer hs
      exact ⟨hresult, hbuffer, rfl, rfl, states⟩

end Disks

/-! ## §2 On a traced machine -/

/-- A machine and its traced copy, on which nothing was done but looking since the
accesses `before`. -/
structure Observed (before : Array Access) (s : σ) (t : Traced σ) : Prop where
  machine : t.machine = s
  looked : ∃ u : Array Access, t.accesses = before ++ u ∧ ∀ a ∈ u, a.Looks

omit [PortSpace σ] in
/-- One more access. -/
theorem Observed.push {before : Array Access} {s s' : σ} {t : Traced σ}
    (h : Observed before s t) {a : Access} (ha : a.Looks) :
    Observed before s' ⟨s', t.accesses.push a⟩ where
  machine := rfl
  looked := by
    obtain ⟨u, hu, hlooks⟩ := h.looked
    refine ⟨u.push a, by rw [hu, Array.append_push], fun x hx => ?_⟩
    rcases Array.mem_push.1 hx with hx | rfl
    · exact hlooks x hx
    · exact ha

theorem looks_writeByte {r : Register} {value : UInt8} (id : ChannelId)
    (h : r = .command → value = cmdReadSectors) :
    (Access.writeByte (r.port id) value).Looks := by
  intro id' hport
  refine h ?_
  revert hport
  cases id <;> cases id' <;> cases r <;> decide

/-- Reads leave nothing but looks in the trace. -/
theorem looked_observed (before : Array Access) :
    LookedAlike (Observed (σ := σ) before) where
  note := by
    rintro report _ ⟨m, accesses⟩ ⟨rfl, hlooked⟩
    exact ⟨rfl, hlooked⟩
  wait := by
    rintro ms _ ⟨m, accesses⟩ ⟨rfl, hlooked⟩
    exact Observed.push ⟨rfl, hlooked⟩ trivial
  read := by
    rintro id r _ ⟨m, accesses⟩ ⟨rfl, hlooked⟩
    exact ⟨rfl, Observed.push ⟨rfl, hlooked⟩ trivial⟩
  word := by
    rintro id _ ⟨m, accesses⟩ ⟨rfl, hlooked⟩
    exact ⟨rfl, Observed.push ⟨rfl, hlooked⟩ trivial⟩
  write := by
    rintro id r value _ ⟨m, accesses⟩ hvalue ⟨rfl, hlooked⟩
    exact Observed.push ⟨rfl, hlooked⟩ (looks_writeByte id hvalue)

/-! ## §3 On the emulated bus -/

/-- A drive that is told to read stays as it is. -/
theorem BusChannel.drive?_startRead (c : BusChannel) (p : Position) (latency : Nat) :
    (c.command cmdReadSectors latency).drive? p = c.drive? p := by
  have hdrive : ∀ (t : TaskFile) (d : Drive), (t.command d cmdReadSectors latency).2 = d := by
    intro t d
    unfold TaskFile.command
    simp only
    rw [if_neg (by decide)]
    split
    · rfl
    split
    · rfl
    · rw [if_pos trivial]
  unfold command
  split
  · simp only [hdrive]
    cases p <;> rfl
  · simp only [hdrive]
    cases p <;> rfl
  · rfl

theorem Bus.sameDrives_startRead (id : ChannelId) (b : Bus) :
    b.SameDrives (writeRegister id .command cmdReadSectors b) :=
  .of_turned (turned_writeRegister id .command cmdReadSectors b) fun p =>
    BusChannel.drive?_startRead _ p b.latency

/-- Looking changes no drive. -/
theorem Bus.looked_carrying (b : Bus) : LookedAlike b.Carrying where
  note := by
    rintro report s _ ⟨rfl, hs⟩
    exact ⟨rfl, hs.trans (sameDrives_note s report)⟩
  wait _ _ _ hs := hs
  read := by
    rintro id r s _ ⟨rfl, hs⟩
    exact ⟨rfl, rfl, hs.trans (sameDrives_readRegister id r s)⟩
  word := words_carrying b
  write := by
    rintro id r value s _ hvalue ⟨rfl, hs⟩
    refine ⟨rfl, hs.trans ?_⟩
    by_cases hr : r = .command
    · subst hr
      rw [hvalue rfl]
      exact sameDrives_startRead id s
    · exact sameDrives_writeRegister id hr value s

/-! ## §4 Operations -/

namespace Operation

/-- **What is not meant to change anything changes nothing.** On any machine and with any
driver, an operation that only reads writes no word, and gives no command but the one to
read, however it ends. On the emulated bus every drive is what it was, with its medium,
the write commands it has accepted and its flushes. -/
theorem perform_looks {operation : Operation} (h : operation.isReadOnly = true) (drive : UInt8)
    (c : Controller) :
    (∀ (σ : Type) [PortSpace σ] (s : σ) (before : Array Access), ∃ response m u,
      perform drive operation (⟨c, s⟩ : Disks σ) = (response, ⟨c, m⟩)
        ∧ perform drive operation (⟨c, ⟨s, before⟩⟩ : Disks (Traced σ))
          = (response, ⟨c, ⟨m, before ++ u⟩⟩)
        ∧ ∀ a ∈ u, a.Looks)
      ∧ ∀ (b : Bus) (slot : Slot),
        (perform drive operation (⟨c, b⟩ : Disks Bus)).2.machine.drive? slot = b.drive? slot := by
  constructor
  · intro σ _ s before
    have hstart : Disks.Driving c (Observed before) (⟨c, s⟩ : Disks σ) ⟨c, ⟨s, before⟩⟩ :=
      ⟨rfl, rfl, rfl, #[], Array.append_empty.symm, fun _ ha => nomatch ha⟩
    have halike := perform_reads_alike (Disks.readsAlike (looked_observed before) c drive) h hstart
    generalize perform drive operation (⟨c, s⟩ : Disks σ) = x at halike
    generalize perform drive operation (⟨c, ⟨s, before⟩⟩ : Disks (Traced σ)) = y at halike
    obtain ⟨response, c₁, m⟩ := x
    obtain ⟨_, c₂, m', accesses⟩ := y
    obtain ⟨hresponse, hc, hc', hmachine, u, hu, hlooks⟩ := halike
    obtain rfl : response = _ := hresponse
    obtain rfl : c₁ = c := hc
    obtain rfl : c₂ = c₁ := hc'
    obtain rfl : m' = m := hmachine
    obtain rfl : accesses = before ++ u := hu
    exact ⟨response, m', u, rfl, rfl, hlooks⟩
  · intro b slot
    have hstart : Disks.Driving c b.Carrying (⟨c, b⟩ : Disks Bus) ⟨c, b⟩ :=
      ⟨rfl, rfl, rfl, .refl b⟩
    obtain ⟨-, -, -, -, hdrives⟩ :=
      perform_reads_alike (Disks.readsAlike b.looked_carrying c drive) h hstart
    exact hdrives _ _

/-- Also a check of what cannot be a volume, with a driver that knows of a disk of eight
sectors. -/
theorem perform_looks_check :
    isReadOnly .check = true
      ∧ (∀ (σ : Type) [PortSpace σ] (s : σ) (before : Array Access), ∃ response m u,
          perform 0 .check (⟨.single 8, s⟩ : Disks σ) = (response, ⟨.single 8, m⟩)
            ∧ perform 0 .check (⟨.single 8, ⟨s, before⟩⟩ : Disks (Traced σ))
              = (response, ⟨.single 8, ⟨m, before ++ u⟩⟩)
            ∧ ∀ a ∈ u, a.Looks)
      ∧ ∀ (b : Bus) (slot : Slot),
          (perform 0 .check (⟨.single 8, b⟩ : Disks Bus)).2.machine.drive? slot = b.drive? slot :=
  ⟨rfl, perform_looks rfl 0 (.single 8)⟩

end Operation

end AtaVolume
