/-
AtaVolume.Proofs.Volume.Isolation — what is done to one drive keeps to it.

An operation, and a change to the faults of a drive, is addressed to one drive. It
answers from this drive alone and leaves all others as they are, whatever has happened on
them before (`Event.occur_keepsTo`). Two runs are followed at once for that: on both the
drive is the same (`SameDrive`), and it still is when the drive was used
(`drivesAlike_parallel`).
-/
import AtaVolume.Proofs.Bus.Enumeration
import AtaVolume.Proofs.Volume.Alike

namespace AtaVolume

/-! ## §1 Operations -/

/-- What can be asked of a drive, or of the volume on it. -/
inductive Operation
  | read (count : UInt16) (lba : UInt32) (buffer : Bytes)
  | readRange (lba : UInt32) (buffer : Bytes)
  | write (lba : UInt32) (data : Bytes)
  | plan
  | planBitmap
  | format (verify : Bool)
  | mount
  | writeBitmap (sb : Superblock) (bitmap : BlockBitmap)
  | readBitmap (sb : Superblock)
  | newIndex
  | allocate
  | release (inode : UInt32)
  | readIndex (inode : UInt32)
  | listFiles
  | check
  | readSector (lba : UInt32)
  | scan

/-- The operation is not meant to change anything. -/
def Operation.isReadOnly : Operation → Bool
  | .write .. | .format _ | .writeBitmap .. | .allocate | .release _ => false
  | _ => true

/-- What an operation gives: a result, and the buffer or the progress told. -/
inductive Response
  | read (result : Except AtaError Unit) (buffer : Bytes)
  | written (result : Except AtaError Unit)
  | superblock (result : Except VolumeError Superblock)
  | bitmap (result : Except VolumeError BlockBitmap)
  | done (result : Except VolumeError Unit)
  | index (result : Except VolumeError Index)
  | file (result : Except VolumeError (UInt32 × Index))
  | files (result : Except VolumeError (List (UInt32 × Index)))
  | report (result : Except VolumeError CheckReport)
  | sector (result : Except VolumeError Bytes)
  | occupancy (result : Except VolumeError Occupancy) (progress : Array (UInt32 × UInt32))

/-- The result of a call, and the state that it leaves. -/
def settled {ε σ α : Type} : EStateM.Result ε σ α → Except ε α × σ
  | .ok a s => (.ok a, s)
  | .error e s => (.error e, s)

namespace Operation

variable {δ ε : Type} [BlockDevice δ] [BlockDevice ε]

/-- The answer of a volume. -/
def answer {α : Type} (wrap : Except VolumeError α → Response) (call : VolumeAction δ α) (s : δ) :
    Response × δ :=
  (wrap (settled (call s)).1, (settled (call s)).2)

/-- Performs an operation on a drive. -/
def perform (drive : UInt8) : Operation → δ → Response × δ
  | .read count lba buffer, s =>
    let o := BlockDevice.readSectors drive count lba buffer s
    (.read o.result o.buffer, o.device)
  | .readRange lba buffer, s =>
    let o := BlockDevice.readRange drive lba buffer s
    (.read o.result o.buffer, o.device)
  | .write lba data, s =>
    let r := settled (BlockDevice.writeSectors drive lba data s)
    (.written r.1, r.2)
  | .plan, s => answer .superblock (Volume.plan drive) s
  | .planBitmap, s => answer .bitmap (Volume.planBitmap drive) s
  | .format verify, s => answer .superblock (Volume.format drive verify) s
  | .mount, s => answer .superblock (Volume.mount drive) s
  | .writeBitmap sb bitmap, s => answer .done (Volume.writeBitmap drive sb bitmap) s
  | .readBitmap sb, s => answer .bitmap (Volume.readBitmap drive sb) s
  | .newIndex, s => answer .index (Volume.newIndex drive) s
  | .allocate, s => answer .file (Volume.allocate drive) s
  | .release inode, s => answer .index (Volume.release drive inode) s
  | .readIndex inode, s => answer .index (Volume.readIndex drive inode) s
  | .listFiles, s => answer .files (Volume.listFiles drive) s
  | .check, s => answer .report (Volume.check drive) s
  | .readSector lba, s => answer .sector (Volume.readSector drive lba) s
  | .scan, s =>
    let o := Volume.scan drive s
    (.occupancy o.result o.progress, o.device)

/-! ## §2 Operations on two devices -/

variable {drive : UInt8} {R : δ → ε → Prop} {s : δ} {t : ε}

theorem settled_alike {η α σ τ : Type} {R : σ → τ → Prop} {x : EStateM.Result η σ α}
    {y : EStateM.Result η τ α} (h : EndsAlike R x y) :
    (settled x).1 = (settled y).1 ∧ R (settled x).2 (settled y).2 := by
  cases h with
  | ok states => exact ⟨rfl, states⟩
  | error states => exact ⟨rfl, states⟩

omit [BlockDevice δ] [BlockDevice ε] in
theorem answer_alike {α : Type} {wrap : Except VolumeError α → Response} {x : VolumeAction δ α}
    {y : VolumeAction ε α} (h : RunsAlike R x y) (hs : R s t) :
    (answer wrap x s).1 = (answer wrap y t).1 ∧ R (answer wrap x s).2 (answer wrap y t).2 := by
  obtain ⟨hresult, states⟩ := settled_alike (h s t hs)
  exact ⟨congrArg wrap hresult, states⟩

/-- Drives that are read alike are operated alike as long as nothing is to change. -/
theorem perform_reads_alike (h : ReadsAlike drive R) {operation : Operation}
    (hreads : operation.isReadOnly = true) (hs : R s t) :
    (perform drive operation s).1 = (perform drive operation t).1
      ∧ R (perform drive operation s).2 (perform drive operation t).2 := by
  cases operation with
  | read count lba buffer =>
    obtain ⟨hresult, hbuffer, states⟩ := h.read count lba buffer s t hs
    exact ⟨congrArg₂ Response.read hresult hbuffer, states⟩
  | readRange lba buffer =>
    obtain ⟨hresult, hbuffer, states⟩ := BlockDevice.readRange_alike h lba buffer hs
    exact ⟨congrArg₂ Response.read hresult hbuffer, states⟩
  | plan => exact answer_alike (Volume.plan_alike h) hs
  | planBitmap => exact answer_alike (Volume.planBitmap_alike h) hs
  | mount => exact answer_alike (Volume.mount_alike h) hs
  | readBitmap sb => exact answer_alike (Volume.readBitmap_alike h sb) hs
  | newIndex => exact answer_alike (Volume.newIndex_alike h) hs
  | readIndex inode => exact answer_alike (Volume.readIndex_alike h inode) hs
  | listFiles => exact answer_alike (Volume.listFiles_alike h) hs
  | check => exact answer_alike (Volume.check_alike h) hs
  | readSector lba => exact answer_alike (Volume.readSector_alike h lba) hs
  | scan =>
    obtain ⟨hresult, hprogress, states⟩ := Volume.scan_alike h hs
    exact ⟨congrArg₂ Response.occupancy hresult hprogress, states⟩
  | _ => cases hreads

/-- **Drives that answer alike are operated alike.** -/
theorem perform_alike (h : DrivesAlike drive R) (operation : Operation) (hs : R s t) :
    (perform drive operation s).1 = (perform drive operation t).1
      ∧ R (perform drive operation s).2 (perform drive operation t).2 := by
  cases hreads : operation.isReadOnly with
  | true => exact perform_reads_alike h.toReadsAlike hreads hs
  | false =>
    cases operation with
    | write lba data =>
      obtain ⟨hresult, states⟩ := settled_alike (h.write lba data s t hs)
      exact ⟨congrArg Response.written hresult, states⟩
    | format verify => exact answer_alike (Volume.format_alike h verify) hs
    | writeBitmap sb bitmap => exact answer_alike (Volume.writeBitmap_alike h sb bitmap) hs
    | allocate => exact answer_alike (Volume.allocate_alike h) hs
    | release inode => exact answer_alike (Volume.release_alike h inode) hs
    | _ => cases hreads

end Operation

/-! ## §3 One drive of many -/

namespace Disks

variable {k : UInt8} {s s' s'' t t' : Disks Bus}

/-- Between two states nothing but drive `k` has changed, and it is still there. -/
structure Spares (k : UInt8) (s s' : Disks Bus) : Prop where
  controller : s'.controller = s.controller
  latency : s'.machine.latency = s.machine.latency
  others : ∀ slot : Slot, slot.val ≠ k.toNat → s'.machine.drive? slot = s.machine.drive? slot
  present : ∀ slot, (s'.machine.drive? slot).isSome = (s.machine.drive? slot).isSome

theorem Spares.refl (k : UInt8) (s : Disks Bus) : Spares k s s :=
  ⟨rfl, rfl, fun _ _ => rfl, fun _ => rfl⟩

theorem Spares.trans (h : Spares k s s') (h' : Spares k s' s'') : Spares k s s'' where
  controller := h'.controller.trans h.controller
  latency := h'.latency.trans h.latency
  others slot ne := (h'.others slot ne).trans (h.others slot ne)
  present slot := (h'.present slot).trans (h.present slot)

theorem Spares.finds (h : Spares k s s') (hs : s.controller.Finds s.machine) :
    s'.controller.Finds s'.machine := by
  intro drive id p identity hfind
  rw [h.controller] at hfind
  obtain ⟨slot, hslot, hid, hp, hsome⟩ := hs drive id p identity hfind
  exact ⟨slot, hslot, hid, hp, (h.present slot).trans hsome⟩

/-- Drivers of the same kind work on two machines with the same drive `k`. -/
structure SameDrive (k : UInt8) (s t : Disks Bus) : Prop where
  controller : s.controller = t.controller
  latency : s.machine.latency = t.machine.latency
  finds : s.controller.Finds s.machine
  drive : ∀ slot : Slot, slot.val = k.toNat → s.machine.drive? slot = t.machine.drive? slot

theorem SameDrive.refl (k : UInt8) (h : s.controller.Finds s.machine) : SameDrive k s s :=
  ⟨rfl, rfl, h, fun _ _ => rfl⟩

/-- A driver that has just started finds its disks. -/
theorem finds_start (budget : UInt32) (b : Bus) :
    (start budget b).controller.Finds (start budget b).machine := by
  have hfinds := (Controller.finds_enumerate budget b).1
  unfold Disks.start
  generalize Controller.enumerate budget b = started at hfinds
  exact hfinds

theorem place_injective : ∀ {slot slot' : Slot},
    (channelOf slot', positionOf slot') = (channelOf slot, positionOf slot) → slot' = slot := by
  decide

/-- Accesses to one drive. -/
theorem spares_of_served {slot : Slot} (hslot : slot.val = k.toNat) {d : Drive} {b' : Bus}
    (hsome : (s.machine.drive? slot).isSome = true)
    (h : s.machine.Served (channelOf slot) (positionOf slot) d b') :
    Spares k s ⟨s.controller, b'⟩ where
  controller := rfl
  latency := h.latency
  others slot' ne := by
    refine h.others _ _ fun heq => ne ?_
    rw [place_injective heq, hslot]
  present slot' := by
    by_cases heq : slot' = slot
    · subst heq
      rw [hsome]
      unfold Bus.drive?
      rw [h.drive]
      rfl
    · unfold Bus.drive?
      rw [h.others _ _ fun hplace => heq (place_injective hplace)]

/-- From `s` and `t`, two runs on drive `k` have come to `s'` and `t'`. -/
structure Parallel (k : UInt8) (s t s' t' : Disks Bus) : Prop where
  spares : Spares k s s'
  spares' : Spares k t t'
  same : SameDrive k s' t'

theorem Parallel.extend {u v : Disks Bus} (h : Parallel k u v s t) (hs : Spares k s s')
    (ht : Spares k t t')
    (hdrive : ∀ slot : Slot, slot.val = k.toNat →
      s'.machine.drive? slot = t'.machine.drive? slot) : Parallel k u v s' t' where
  spares := h.spares.trans hs
  spares' := h.spares'.trans ht
  same :=
    { controller := by rw [hs.controller, ht.controller, h.same.controller]
      latency := by rw [hs.latency, ht.latency, h.same.latency]
      finds := hs.finds h.same.finds
      drive := hdrive }

/-- What two machines have in common beside the drive they keep. -/
theorem Parallel.sameDrive {j : UInt8} (h : Parallel k s t s' t') (hj : SameDrive j s t) :
    SameDrive j s' t' where
  controller := h.same.controller
  latency := h.same.latency
  finds := h.same.finds
  drive slot hslot := by
    by_cases hk : slot.val = k.toNat
    · exact h.same.drive slot hk
    · rw [h.spares.others slot hk, h.spares'.others slot hk, hj.drive slot hslot]

/-- Two runs go on in parallel as long as only the drive is used. -/
theorem Parallel.abreast {u v : Disks Bus} (h : Parallel k u v s t) {id : ChannelId}
    {p : Position} {identity : Identity} (hfind : s.controller.find k = .ok (id, p, identity))
    {b b' : Bus} (hb : Bus.Abreast s.machine t.machine id p b b') :
    Parallel k u v ⟨s.controller, b⟩ ⟨t.controller, b'⟩ := by
  obtain ⟨slot, hslot, rfl, rfl, hsome⟩ := h.same.finds k id p identity hfind
  obtain ⟨d, hserved, hserved'⟩ := hb
  have hsome' : (t.machine.drive? slot).isSome = true := by
    rw [← h.same.drive slot hslot]
    exact hsome
  refine h.extend (spares_of_served hslot hsome hserved) (spares_of_served hslot hsome' hserved') ?_
  intro place hplace
  obtain rfl : place = slot := Fin.ext (hplace.trans hslot.symm)
  exact hserved.drive.trans hserved'.drive.symm

/-- The drive of two runs is where both of them find it. -/
theorem SameDrive.abreast (h : SameDrive k s t) {id : ChannelId} {p : Position}
    {identity : Identity} (hfind : s.controller.find k = .ok (id, p, identity)) :
    Bus.Abreast s.machine t.machine id p s.machine t.machine := by
  obtain ⟨slot, hslot, rfl, rfl, hsome⟩ := h.finds k id p identity hfind
  obtain ⟨d, hd⟩ := Option.isSome_iff_exists.1 hsome
  exact ⟨d, .refl hd, .refl ((h.drive slot hslot).symm.trans hd)⟩

/-- A report changes no drive. -/
theorem spares_note (k : UInt8) (s : Disks Bus) (report : Report) :
    Spares k s (BlockDevice.note report s) where
  controller := rfl
  latency := rfl
  others _ _ := Bus.sameDrives_note s.machine report _ _
  present _ := congrArg Option.isSome (Bus.sameDrives_note s.machine report _ _)

/-- What is done to the disks keeps to one drive: it depends on this drive alone, and no
other one changes. -/
def KeepsTo {α : Type} (k : UInt8) (act : Disks Bus → α × Disks Bus) : Prop :=
  ∀ s t, SameDrive k s t → (act s).1 = (act t).1 ∧ Parallel k s t (act s).2 (act t).2

theorem SameDrive.parallel (h : SameDrive k s t) : Parallel k s t s t :=
  ⟨.refl k s, .refl k t, h⟩

/-- **Runs in parallel answer alike.** -/
theorem drivesAlike_parallel (k : UInt8) (u v : Disks Bus) : DrivesAlike k (Parallel k u v) where
  size s t h := by
    show s.controller.totalSectors k = t.controller.totalSectors k
    rw [h.same.controller]
  note report s t h := by
    exact h.extend (spares_note k s report) (spares_note k t report) h.same.drive
  read count lba buffer s t h := by
    obtain ⟨c, b⟩ := s
    obtain ⟨c', b'⟩ := t
    obtain rfl : c = c' := h.same.controller
    cases hfind : c.find k with
    | error e =>
      simp only [BlockDevice.readSectors, Controller.readSectors_unknown hfind]
      exact ⟨rfl, rfl, h⟩
    | ok place =>
      obtain ⟨id, p, identity⟩ := place
      obtain ⟨hresult, hbuffer, states⟩ := Controller.readSectors_alike hfind
        (Bus.commands_alike id p h.same.latency).toReadCommandsAlike count lba buffer
        (h.same.abreast hfind)
      exact ⟨hresult, hbuffer, h.abreast hfind states⟩
  write lba data := by
    intro s t h
    obtain ⟨c, b⟩ := s
    obtain ⟨c', b'⟩ := t
    obtain rfl : c = c' := h.same.controller
    cases hfind : c.find k with
    | error e =>
      simp only [BlockDevice.writeSectors, Controller.writeSectors_unknown hfind]
      exact .error h
    | ok place =>
      obtain ⟨id, p, identity⟩ := place
      simp only [BlockDevice.writeSectors]
      obtain ⟨_, x, y, hx, hy, states⟩ | ⟨e, x, y, hx, hy, states⟩ :=
        (Controller.writeSectors_alike hfind (Bus.commands_alike id p h.same.latency) lba data _ _
          (h.same.abreast hfind)).cases_eq
      · rw [hx, hy]
        exact .ok (h.abreast hfind states)
      · rw [hx, hy]
        exact .error (h.abreast hfind states)

end Disks

/-! ## §4 One slot of a bus -/

namespace Bus

theorem drive?_setDrive (b : Bus) (slot place : Slot) (d : Option Drive) :
    (b.setDrive slot d).drive? place = if place = slot then d else b.drive? place := by
  match slot, place with
  | 0, 0 | 0, 1 | 0, 2 | 0, 3 | 1, 0 | 1, 1 | 1, 2 | 1, 3
  | 2, 0 | 2, 1 | 2, 2 | 2, 3 | 3, 0 | 3, 1 | 3, 2 | 3, 3 => rfl

theorem drive?_modifyDrive (b : Bus) (slot place : Slot) (f : Drive → Drive) :
    (b.modifyDrive slot f).drive? place
      = if place = slot then (b.drive? place).map f else b.drive? place := by
  unfold modifyDrive
  by_cases hplace : place = slot
  · subst hplace
    rw [if_pos rfl]
    cases hdrive : b.drive? place with
    | none => exact hdrive
    | some d =>
      rw [Option.map_some]
      exact (drive?_setDrive b place place _).trans (if_pos rfl)
  · rw [if_neg hplace]
    cases b.drive? slot with
    | none => rfl
    | some d => exact (drive?_setDrive b slot place _).trans (if_neg hplace)

theorem latency_setDrive (b : Bus) (slot : Slot) (d : Option Drive) :
    (b.setDrive slot d).latency = b.latency := by
  unfold setDrive setChannel
  split <;> rfl

theorem latency_modifyDrive (b : Bus) (slot : Slot) (f : Drive → Drive) :
    (b.modifyDrive slot f).latency = b.latency := by
  unfold modifyDrive
  split
  · exact latency_setDrive b slot _
  · rfl

theorem slot?_eq_some_iff {n : Nat} {slot : Slot} : slot? n = some slot ↔ slot.val = n := by
  unfold slot?
  split
  case isTrue hlt => simp [Fin.ext_iff, eq_comm]
  case isFalse hge =>
    have hbound : slot.val < 4 := slot.isLt
    simp only [reduceCtorEq, false_iff]
    omega

end Bus

/-! ## §5 Events -/

/-- An operation on a drive, or a change of its faults. -/
inductive Event
  | operate (drive : UInt8) (operation : Operation)
  | fault (drive : UInt8) (change : Faults → Faults)

namespace Event

/-- The drive that an event is addressed to. -/
def drive : Event → UInt8
  | .operate drive _ => drive
  | .fault drive _ => drive

/-- The bus with the faults of a drive changed, if there is one of that number. -/
def refault (b : Bus) (drive : UInt8) (change : Faults → Faults) : Bus :=
  match Bus.slot? drive.toNat with
  | some slot => b.modifyDrive slot fun d => { d with faults := change d.faults }
  | none => b

/-- What an event does, and what it answers if it is an operation. -/
def occur : Event → Disks Bus → Option Response × Disks Bus
  | .operate drive operation, s =>
    let r := operation.perform drive s
    (some r.1, r.2)
  | .fault drive change, s => (none, { s with machine := refault s.machine drive change })

variable {s t : Disks Bus}

/-- New faults are those of one drive. -/
theorem drive?_refault (b : Bus) (drive : UInt8) (change : Faults → Faults) (slot : Slot) :
    (refault b drive change).drive? slot
      = if slot.val = drive.toNat then
          (b.drive? slot).map fun d => { d with faults := change d.faults }
        else b.drive? slot := by
  unfold refault Bus.slot?
  by_cases hlt : drive.toNat < 4
  · have hslot : slot = ⟨drive.toNat, hlt⟩ ↔ slot.val = drive.toNat := Fin.ext_iff
    rw [dif_pos hlt]
    simp only [Bus.drive?_modifyDrive, hslot]
  · have hne : slot.val ≠ drive.toNat := by
      have hbound : slot.val < 4 := slot.isLt
      omega
    rw [dif_neg hlt, if_neg hne]

theorem latency_refault (b : Bus) (drive : UInt8) (change : Faults → Faults) :
    (refault b drive change).latency = b.latency := by
  unfold refault
  split
  · exact Bus.latency_modifyDrive b _ _
  · rfl

theorem spares_refault (drive : UInt8) (change : Faults → Faults) (s : Disks Bus) :
    Disks.Spares drive s { s with machine := refault s.machine drive change } where
  controller := rfl
  latency := latency_refault s.machine drive change
  others slot ne := by rw [drive?_refault, if_neg ne]
  present slot := by
    rw [drive?_refault]
    split
    · exact Option.isSome_map
    · rfl

/-- **An event keeps to its drive.** -/
theorem occur_keepsTo (event : Event) : Disks.KeepsTo event.drive event.occur := by
  intro s t h
  cases event with
  | operate drive operation =>
    obtain ⟨hresponse, hend⟩ :=
      Operation.perform_alike (Disks.drivesAlike_parallel drive s t) operation h.parallel
    exact ⟨congrArg some hresponse, hend⟩
  | fault drive change =>
    refine ⟨rfl, h.parallel.extend (spares_refault drive change s)
      (spares_refault drive change t) ?_⟩
    intro slot hslot
    simp only [occur, drive?_refault]
    rw [h.drive slot hslot]

end Event

end AtaVolume
