/-
AtaVolume.Proofs.Device.Recorder — a device that writes down the calls on its drives.

Nothing is assumed of the device below: its calls may fail, and it may store other bytes
than it was given. A recorder hands each call on and keeps it with its result, so that what
a volume asks of any device can be told by the calls that were made. The recorder itself
does not show: a call on a volume ends with it as without it, and where the device keeps to
the sectors that are named, no sector changes that no recorded call has written
(`Recorder.drivesAlike`).
-/
import AtaVolume.Proofs.Bytes.Sectors
import AtaVolume.Proofs.Volume.Alike

namespace AtaVolume

/-- A read or a write on a drive, and how it ended. -/
inductive DriveCall
  /-- With what is in the buffer afterwards. -/
  | read (drive : UInt8) (lba : UInt32) (count : UInt16) (buffer : Bytes)
    (result : Except AtaError Unit)
  | write (drive : UInt8) (lba : UInt32) (data : Bytes) (result : Except AtaError Unit)

namespace DriveCall

/-- The first sector of the call. -/
def lba : DriveCall → UInt32
  | .read _ lba _ _ _ => lba
  | .write _ lba _ _ => lba

/-- How the call ended. -/
def result : DriveCall → Except AtaError Unit
  | .read _ _ _ _ result => result
  | .write _ _ _ result => result

/-- The sectors that the call writes. -/
def Writes : DriveCall → Nat → Prop
  | .read _ _ _ _ _, _ => False
  | .write _ lba data _, j => lba.toNat ≤ j ∧ j < lba.toNat + wholeSectors data

end DriveCall

/-- A device and the calls that were made on it, the first one first. -/
structure Recorder (δ : Type) where
  device : δ
  calls : List DriveCall := []

namespace Recorder

variable {δ : Type} [BlockDevice δ]

/-- The device as a read left it, and the read. -/
def afterRead (drive : UInt8) (lba : UInt32) (count : UInt16) (o : ReadOutcome δ)
    (calls : List DriveCall) : ReadOutcome (Recorder δ) :=
  ⟨o.result, o.buffer, ⟨o.device, calls ++ [.read drive lba count o.buffer o.result]⟩⟩

instance : BlockDevice (Recorder δ) where
  totalSectors r drive := BlockDevice.totalSectors r.device drive
  readSectors drive count lba buffer r :=
    afterRead drive lba count (BlockDevice.readSectors drive count lba buffer r.device) r.calls
  writeSectors drive lba data r :=
    match BlockDevice.writeSectors drive lba data r.device with
    | .ok _ d => .ok () ⟨d, r.calls ++ [.write drive lba data (.ok ())]⟩
    | .error e d => .error e ⟨d, r.calls ++ [.write drive lba data (.error e)]⟩
  note report r := { r with device := BlockDevice.note report r.device }
  size_readSectors drive count lba buffer r :=
    BlockDevice.size_readSectors drive count lba buffer r.device

theorem writeSectors_eq (drive : UInt8) (lba : UInt32) (data : Bytes) (r : Recorder δ) :
    BlockDevice.writeSectors drive lba data r
      = match BlockDevice.writeSectors drive lba data r.device with
        | .ok _ d => .ok () ⟨d, r.calls ++ [.write drive lba data (.ok ())]⟩
        | .error e d => .error e ⟨d, r.calls ++ [.write drive lba data (.error e)]⟩ := rfl

/-! ## §1 The recorder does not show -/

/-- The state in which a write leaves a device. -/
def written {ε σ α : Type} : EStateM.Result ε σ α → σ
  | .ok _ s => s
  | .error _ s => s

/-- What a drive holds changes only by writes, and only where they go; what a write stores
there, and how it ends, is left open. -/
structure Confined (drive : UInt8) (image : δ → Sectors) : Prop where
  note : ∀ report s, image (BlockDevice.note report s) = image s
  read : ∀ count lba buffer s,
    image (BlockDevice.readSectors drive count lba buffer s).device = image s
  write : ∀ lba data s j, ¬ (lba.toNat ≤ j ∧ j < lba.toNat + wholeSectors data) →
    image (written (BlockDevice.writeSectors drive lba data s)) j = image s j

/-- A recorder and the device without it, both from `s` on. -/
structure Follows (drive : UInt8) (s : δ) (r : Recorder δ) (d : δ) : Prop where
  device : r.device = d
  /-- Only what was written has changed. -/
  kept : ∀ image, Confined drive image → ∀ j, (∀ c ∈ r.calls, ¬ c.Writes j) → image d j = image s j

theorem follows_start (drive : UInt8) (s : δ) : Follows drive s ⟨s, []⟩ s :=
  ⟨rfl, fun _ _ _ _ => rfl⟩

/-- **A recorder does not change what it records**, and no sector changes but by a write. -/
theorem drivesAlike (drive : UInt8) (s : δ) : DrivesAlike drive (Follows drive s) where
  size := by
    rintro ⟨d, calls⟩ _ ⟨rfl, -⟩
    rfl
  note := by
    rintro report ⟨d, calls⟩ _ ⟨rfl, hkept⟩
    refine ⟨rfl, fun image hconfined j hj => ?_⟩
    rw [hconfined.note, hkept image hconfined j hj]
  read := by
    rintro count lba buffer ⟨d, calls⟩ _ ⟨rfl, hkept⟩
    refine ⟨rfl, rfl, rfl, fun image hconfined j hj => ?_⟩
    rw [hconfined.read]
    exact hkept image hconfined j fun c hc => hj c (List.mem_append_left _ hc)
  write := by
    rintro lba data ⟨d, calls⟩ _ ⟨rfl, hkept⟩
    -- the new state is that of the device, with one more call
    have hkept' : ∀ result image, Confined drive image → ∀ j,
        (∀ c ∈ calls ++ [DriveCall.write drive lba data result], ¬ c.Writes j) →
        image (written (BlockDevice.writeSectors drive lba data d)) j = image s j := by
      intro result image hconfined j hj
      have hlast := hj _ (List.mem_append_right _ (List.mem_singleton_self _))
      rw [hconfined.write lba data d j hlast]
      exact hkept image hconfined j fun c hc => hj c (List.mem_append_left _ hc)
    rw [writeSectors_eq]
    simp only
    generalize BlockDevice.writeSectors drive lba data d = o at hkept' ⊢
    cases o with
    | ok _ t => exact .ok ⟨rfl, hkept' _⟩
    | error e t => exact .error ⟨rfl, hkept' _⟩

/-! ## §2 What a call on a volume asks of its drive -/

section Tells

variable {α β : Type}

/-- How a call on a volume ended. -/
def ended : EStateM.Result VolumeError (Recorder δ) α → Except VolumeError α
  | .ok a _ => .ok a
  | .error e _ => .error e

/-- The calls on drives that were made until then. -/
def made : EStateM.Result VolumeError (Recorder δ) α → List DriveCall
  | .ok _ r => r.calls
  | .error _ r => r.calls

/-- What can be told of a call by its end and the calls on drives, of which some had been
made before. -/
def Tells (x : VolumeAction (Recorder δ) α) (calls : List DriveCall)
    (P : Except VolumeError α → List DriveCall → Prop) : Prop :=
  ∀ r : Recorder δ, r.calls = calls → P (ended (x r)) (made (x r))

variable {x : VolumeAction (Recorder δ) α} {f : α → VolumeAction (Recorder δ) β}
  {calls : List DriveCall} {P : Except VolumeError α → List DriveCall → Prop}
  {Q : Except VolumeError β → List DriveCall → Prop}

omit [BlockDevice δ]

theorem Tells.pure {a : α} (h : P (.ok a) calls) :
    Tells (Pure.pure a : VolumeAction (Recorder δ) α) calls P := by
  rintro r rfl
  exact h

theorem Tells.throw {e : VolumeError} (h : P (.error e) calls) :
    Tells (throw e : VolumeAction (Recorder δ) α) calls P := by
  rintro r rfl
  exact h

/-- What has to be told of a call so that `Q` can be told of the calls that follow: a call
that fails ends them. -/
def Next (f : α → VolumeAction (Recorder δ) β) (Q : Except VolumeError β → List DriveCall → Prop) :
    Except VolumeError α → List DriveCall → Prop
  | .ok a, made => Tells (f a) made Q
  | .error e, made => Q (.error e) made

theorem Tells.bind (hx : Tells x calls (Next f Q)) : Tells (x >>= f) calls Q := by
  intro r hr
  have hend := hx r hr
  simp only [Bind.bind, EStateM.bind]
  cases hrun : x r with
  | ok a t =>
    rw [hrun] at hend
    exact hend t rfl
  | error e t =>
    rw [hrun] at hend
    exact hend

end Tells

section Calls

open Volume

variable {calls : List DriveCall} {drive : UInt8}

/-- Reports are not recorded. -/
theorem tells_note {P : Except VolumeError Unit → List DriveCall → Prop} (report : Report)
    (h : P (.ok ()) calls) : Tells (note report : VolumeAction (Recorder δ) Unit) calls P := by
  rintro r rfl
  exact h

/-- A write makes one call, and an error of it is passed on. -/
theorem tells_write {P : Except VolumeError Unit → List DriveCall → Prop} {lba : UInt32}
    {data : Bytes} (hok : P (.ok ()) (calls ++ [.write drive lba data (.ok ())]))
    (herror : ∀ e, P (.error (.io e)) (calls ++ [.write drive lba data (.error e)])) :
    Tells (write drive lba data : VolumeAction (Recorder δ) Unit) calls P := by
  rintro r rfl
  unfold write
  rw [writeSectors_eq]
  cases BlockDevice.writeSectors drive lba data r.device with
  | ok _ d => exact hok
  | error e d => exact herror e

/-- So does the read of a sector. -/
theorem tells_readSector {P : Except VolumeError Bytes → List DriveCall → Prop} {lba : UInt32}
    (hok : ∀ bytes, P (.ok bytes) (calls ++ [.read drive lba 1 bytes (.ok ())]))
    (herror : ∀ e buffer, P (.error (.io e)) (calls ++ [.read drive lba 1 buffer (.error e)])) :
    Tells (readSector drive lba : VolumeAction (Recorder δ) Bytes) calls P := by
  rintro r rfl
  have hread : readSector drive lba r = received (afterRead drive lba 1
      (BlockDevice.readSectors drive 1 lba (zeroes sectorSize) r.device) r.calls) := rfl
  rw [hread]
  obtain ⟨result, buffer, d⟩ := BlockDevice.readSectors drive 1 lba (zeroes sectorSize) r.device
  cases result with
  | ok _ => exact hok buffer
  | error e => exact herror e buffer

end Calls

end Recorder

end AtaVolume
