/-
AtaVolume.Proofs.Machine.Discovery — what a driver knows once it has started, and what
becomes of requests to slots without a disk.

A request to a drive that is not there is refused before anything is done: the calls of
the driver look the drive up first, and every call on a volume starts with one of them
(`perform_refused`), unless it has looked at what it was given before that and found it to
make no sense (`Machine.start_refuses_misuse`). The table of drives is filled once, so this
holds as long as the machine runs. Together with what enumeration reports it is `Discovered`.
-/
import AtaVolume.Proofs.Exact.Calls
import AtaVolume.Proofs.Machine.Sessions

namespace AtaVolume

/-! ## §1 Drives that are not there -/

/-- Whatever a drive is asked for is refused with `e`, and nothing is done. -/
structure Refused {δ : Type} [BlockDevice δ] (drive : UInt8) (e : AtaError) (s : δ) : Prop where
  size : BlockDevice.totalSectors s drive = .error e
  read : ∀ count lba buffer,
    BlockDevice.readSectors drive count lba buffer s = ⟨.error e, buffer, s⟩
  write : ∀ lba data, BlockDevice.writeSectors drive lba data s = .error e s

namespace Controller

variable {σ : Type} [PortSpace σ] {c : Controller} {drive : UInt8} {e : AtaError}

/-- A driver refuses what is addressed to drives that it does not know. -/
theorem refused {s : Disks σ} (h : s.controller.find drive = .error e) : Refused drive e s where
  size := by
    show s.controller.totalSectors drive = .error e
    rw [totalSectors, h]
    rfl
  read count lba buffer := by
    simp only [BlockDevice.readSectors, readSectors_unknown h]
  write lba data := by
    simp only [BlockDevice.writeSectors, writeSectors_unknown h]

/-- The drives that a driver knows are the usable ones. -/
theorem find_of_not_usable {slot : Slot} (hslot : drive.toNat = slot.val)
    (h : (c.devices.get slot).isUsable = false) : c.find drive = .error (.notPresent drive) := by
  have hdevice : c.device? drive = some (c.devices.get slot) := by
    rw [device?, hslot]
    exact Vector.getElem?_eq_getElem slot.isLt
  unfold find
  rw [hdevice]
  cases hkind : c.devices.get slot with
  | absent => rfl
  | unsupported id p kind => rfl
  | disk id p identity =>
    rw [hkind] at h
    cases h

end Controller

/-! ## §2 Operations that are refused -/

/-- How an operation failed, if it did. -/
def Response.failure : Response → Option VolumeError
  | .read result _ | .written result => reason (result.mapError .io)
  | .superblock result => reason result
  | .bitmap result => reason result
  | .done result => reason result
  | .index result => reason result
  | .file result => reason result
  | .files result => reason result
  | .report result => reason result
  | .sector result => reason result
  | .occupancy result _ => reason result
where
  /-- The error of a result. -/
  reason {α : Type} : Except VolumeError α → Option VolumeError
    | .ok _ => none
    | .error e => some e

/-- What is wrong with a range of so many bytes whatever the drive: it has no sectors, or
not whole ones. -/
def BlockDevice.rangeMisuse (size : Nat) : Option AtaError :=
  if size = 0 then some .emptyTransfer
  else if size % sectorSize ≠ 0 then some (.misalignedLength size)
  else none

/-- What is wrong with an operation whatever the drive: with its range, or with a bitmap
that is not that of the superblock. -/
def Operation.misuse : Operation → Option VolumeError
  | .readRange _ buffer => (BlockDevice.rangeMisuse buffer.size).map .io
  | .writeBitmap sb bitmap =>
    if bitmap.total ≠ sb.totalBlocks then
      some (.corrupted (.bitmapTotal bitmap.total sb.totalBlocks))
    else none
  | .readBitmap sb => if sb.bitmapSectors = 0 then some (.io .emptyTransfer) else none
  | _ => none

section Operations

variable {δ : Type} [BlockDevice δ] {drive : UInt8} {e : AtaError} {s : δ}

theorem BlockDevice.rangeMisuse_sectors {n : Nat} (h : n ≠ 0) :
    rangeMisuse (n * sectorSize) = none := by
  rw [rangeMisuse, if_neg (Nat.mul_ne_zero h (by decide)),
    if_neg (not_not_intro (Nat.mul_mod_left n sectorSize))]

theorem BlockDevice.readRange_refused (h : Refused drive e s) (lba : UInt32) (buffer : Bytes) :
    ∃ rest, readRange drive lba buffer s
      = ⟨.error ((rangeMisuse buffer.size).getD e), rest, s⟩ := by
  unfold readRange rangeMisuse
  by_cases hzero : buffer.size = 0
  · rw [if_pos hzero, if_pos hzero]
    exact ⟨_, rfl⟩
  rw [if_neg hzero, if_neg hzero]
  by_cases hwhole : buffer.size % 512 = 0
  · rw [if_neg (not_not_intro hwhole), if_neg (not_not_intro hwhole), readPieces,
      if_neg (show buffer.size / 512 ≠ 0 by omega)]
    simp only [h.read]
    exact ⟨_, rfl⟩
  · rw [if_pos hwhole, if_pos hwhole]
    exact ⟨_, rfl⟩

namespace Volume

theorem readSector_refused (h : Refused drive e s) (lba : UInt32) :
    readSector drive lba s = .error (.io e) s := by
  rw [readSector, h.read]
  rfl

theorem readSectors_refused (h : Refused drive e s) (lba : UInt32) {n : Nat} (hn : n ≠ 0) :
    readSectors drive lba n s = .error (.io e) s := by
  obtain ⟨rest, hrest⟩ := BlockDevice.readRange_refused h lba (zeroes (n * sectorSize))
  rw [size_zeroes, BlockDevice.rangeMisuse_sectors hn] at hrest
  rw [readSectors, hrest]
  rfl

theorem write_refused (h : Refused drive e s) (lba : UInt32) (data : Bytes) :
    write drive lba data s = .error (.io e) s := by
  rw [write, h.write]

theorem totalSectors_refused (h : Refused drive e s) :
    totalSectors drive s = .error (.io e) s := by
  rw [totalSectors, h.size]

theorem plan_refused (h : Refused drive e s) : plan drive s = .error (.io e) s :=
  bind_run_error (totalSectors_refused h) _

theorem mount_refused (h : Refused drive e s) : mount drive s = .error (.io e) s :=
  bind_run_error (bind_run_error (readSector_refused h superblockLba) _) _

end Volume

namespace Operation

/-- An operation that is refused does nothing, and tells why. -/
def Refuses (drive : UInt8) (e : VolumeError) (s : δ) (operation : Operation) : Prop :=
  (operation.perform drive s).2 = s ∧ (operation.perform drive s).1.failure = some e

omit [BlockDevice δ] in
theorem refuses_answer {α : Type} {wrap : Except VolumeError α → Response}
    {call : VolumeAction δ α} {e : VolumeError} (h : call s = .error e s)
    (hwrap : (wrap (.error e)).failure = some e) :
    (answer wrap call s).2 = s ∧ (answer wrap call s).1.failure = some e := by
  rw [answer, h]
  exact ⟨rfl, hwrap⟩

/-- **What is addressed to a drive that is not there is refused.** Only a range and a
bitmap that make no sense are refused for that first. -/
theorem perform_refused (h : Refused drive e s) (operation : Operation) :
    Refuses drive (operation.misuse.getD (.io e)) s operation := by
  unfold Refuses
  cases operation with
  | read count lba buffer =>
    have hperform : (read count lba buffer).perform drive s = (.read (.error e) buffer, s) := by
      simp only [perform, h.read]
    rw [hperform]
    exact ⟨rfl, rfl⟩
  | readRange lba buffer =>
    obtain ⟨rest, hrest⟩ := BlockDevice.readRange_refused h lba buffer
    have hperform : (readRange lba buffer).perform drive s
        = (.read (.error ((BlockDevice.rangeMisuse buffer.size).getD e)) rest, s) := by
      simp only [perform, hrest]
    rw [hperform, misuse, Option.getD_map]
    exact ⟨rfl, rfl⟩
  | write lba data =>
    have hperform : (write lba data).perform drive s = (.written (.error e), s) := by
      simp only [perform, h.write, settled]
    rw [hperform]
    exact ⟨rfl, rfl⟩
  | plan => exact refuses_answer (Volume.plan_refused h) rfl
  | planBitmap => exact refuses_answer (Volume.bind_run_error (Volume.plan_refused h) _) rfl
  | format verify => exact refuses_answer (Volume.bind_run_error (Volume.plan_refused h) _) rfl
  | mount => exact refuses_answer (Volume.mount_refused h) rfl
  | writeBitmap sb bitmap =>
    rw [misuse]
    refine refuses_answer ?_ rfl
    unfold Volume.writeBitmap
    split
    · rfl
    · exact Volume.write_refused h _ _
  | readBitmap sb =>
    rw [misuse]
    refine refuses_answer (Volume.bind_run_error ?_ _) rfl
    split
    case isTrue hzero =>
      rw [hzero]
      rfl
    case isFalse hpos =>
      exact Volume.readSectors_refused h _ fun hzero => hpos (UInt32.toNat_inj.1 hzero)
  | newIndex => exact refuses_answer (Volume.bind_run_error (Volume.totalSectors_refused h) _) rfl
  | allocate => exact refuses_answer (Volume.bind_run_error (Volume.mount_refused h) _) rfl
  | release inode => exact refuses_answer (Volume.bind_run_error (Volume.mount_refused h) _) rfl
  | readIndex inode => exact refuses_answer (Volume.bind_run_error (Volume.mount_refused h) _) rfl
  | listFiles => exact refuses_answer (Volume.bind_run_error (Volume.mount_refused h) _) rfl
  | check => exact refuses_answer (Volume.bind_run_error (Volume.mount_refused h) _) rfl
  | readSector lba => exact refuses_answer (Volume.readSector_refused h lba) rfl
  | scan =>
    have hperform : scan.perform drive s = (.occupancy (.error (.io e)) #[], s) := by
      simp only [perform, Volume.scan, h.size]
    rw [hperform]
    exact ⟨rfl, rfl⟩

end Operation

end Operations

/-! ## §3 What a driver has found -/

namespace Machine

/-- No event changes what the driver knows. -/
theorem controller_run (events : List Event) {m : Machine} (h : m.Ready) :
    (run events m).2.disks.controller = m.disks.controller := by
  induction events generalizing m with
  | nil => rfl
  | cons event events ih =>
    have hspares := (event.occur_keepsTo _ _ (.refl event.drive h.inStep)).2.spares
    have hoccur : (m.occur event).2.disks.controller = m.disks.controller := by
      rw [occur, disks_reach]
      exact hspares.controller
    exact (ih (h.reach hspares)).trans hoccur

/-- The driver of the machine knows what was attached to the bus `b` when it was started. -/
structure Discovered (b : Bus) (m : Machine) : Prop where
  /-- The usable slots are those with a disk that is not stuck. -/
  usable : ∀ slot : Slot, (m.disks.controller.devices.get slot).isUsable = true
    ↔ ∃ d, b.drive? slot = some d ∧ d.kind = .ata ∧ d.faults.stuckBusy = false
  disk : ∀ (slot : Slot) d, b.drive? slot = some d → d.kind = .ata → d.faults.stuckBusy = false →
    ∃ id p identity, m.disks.controller.devices.get slot = .disk id p identity
      ∧ id.number.toNat = slot.val / 2 ∧ p.number.toNat = slot.val % 2
      ∧ identity.size = min d.medium.sectorCount 0x0FFFFFFF
      ∧ (d.model.utf8ByteSize ≤ 40 →
          identity.model.toList = d.model.toList.rdropWhile fun c => c == ' ' || c == '\x00')
      ∧ identity.supportsLba = true ∧ identity.supportsLba48 = false
  packet : ∀ (slot : Slot) d kind, b.drive? slot = some d → d.kind = .packet kind →
    d.faults.stuckBusy = false →
    ∃ id p, m.disks.controller.devices.get slot = .unsupported id p kind
      ∧ id.number.toNat = slot.val / 2 ∧ p.number.toNat = slot.val % 2
  absent : ∀ slot : Slot, (∀ d, b.drive? slot = some d → d.faults.stuckBusy = true) →
    m.disks.controller.devices.get slot = .absent
  silent : ∀ id, (m.disks.machine.channel id).registers.control = controlNoInterrupts
  /-- Every drive, and with it every medium, is what it was. -/
  drives : ∀ slot, m.disks.machine.drive? slot = b.drive? slot
  /-- Whatever happens later, an operation on any other slot changes nothing, not even the
  count of port accesses, and fails: the drive is not present, unless what the operation was
  given makes no sense on any drive. -/
  refused : ∀ (events : List Event) (slot : Slot) (drive : UInt8), drive.toNat = slot.val →
    (m.disks.controller.devices.get slot).isUsable = false → ∀ operation,
      Operation.Refuses drive (operation.misuse.getD (.io (.notPresent drive)))
        (run events m).2.inStep operation

section Started

variable {budget : UInt32} {b : Bus}

theorem isUsable_start (h : b.latency ≤ budget.toNat) (directory : Directory)
    (places : List (Slot × Place)) (slot : Slot) :
    ((start budget b directory places).disks.controller.devices.get slot).isUsable = true
      ↔ ∃ d, b.drive? slot = some d ∧ d.kind = .ata ∧ d.faults.stuckBusy = false := by
  have hdevices := (Controller.enumerate_shown h).1
  unfold start Disks.start
  generalize Controller.enumerate budget b = started at hdevices ⊢
  rw [hdevices]
  exact b.isUsable_shown slot

/-- **Enumeration reports exactly what is attached**, on every machine whose drives are
done before the driver stops polling: which slots hold disks and what these tell about
themselves, which hold packet devices, and that all others are empty. It turns the
interrupts off, it changes no drive, and requests to the other slots go nowhere from
then on. -/
theorem start_discovers (h : b.latency ≤ budget.toNat) (directory : Directory)
    (places : List (Slot × Place)) : Discovered b (start budget b directory places) := by
  have husable := isUsable_start h directory places
  have hready : (start budget b directory places).Ready := Disks.finds_start budget b
  obtain ⟨hdevices, hdrives, hsilent, -⟩ := Controller.enumerate_shown h
  unfold start Disks.start at husable hready ⊢
  generalize Controller.enumerate budget b = started at husable hready hdevices hdrives hsilent ⊢
  obtain ⟨controller, machine⟩ := started
  constructor
  case usable => exact husable
  case disk =>
    intro slot d hd hkind hstuck
    rw [hdevices, Bus.shown_of_some hd, Drive.shown_ata hkind hstuck]
    exact ⟨_, _, _, rfl, (number_place slot).1, (number_place slot).2, d.size_identification,
      d.readModel_identification, d.capabilities_identification⟩
  case packet =>
    intro slot d kind hd hkind hstuck
    rw [hdevices, Bus.shown_of_some hd, Drive.shown_packet hkind hstuck]
    exact ⟨_, _, rfl, number_place slot⟩
  case absent =>
    intro slot hslot
    rw [hdevices, Bus.shown]
    cases hdrive : b.drive? slot with
    | none => rfl
    | some d => exact if_pos (hslot d hdrive)
  case silent => exact hsilent
  case drives => exact fun slot => hdrives _ _
  case refused =>
    intro events slot drive hslot hunusable operation
    refine Operation.perform_refused (Controller.refused ?_) operation
    rw [controller_inStep, controller_run events hready]
    exact Controller.find_of_not_usable hslot hunusable

end Started

/-- A bus with a disk, a packet device, an empty slot, and a disk that is stuck. -/
def mixedBus : Bus where
  primary := { master := some (.disk "EMULATED DISK " (.memory (.blank 8)))
               slave := some (.packet .atapi "EMULATED CD") }
  secondary := { slave := some { Drive.disk "EMULATED DISK" (.memory (.blank 8)) with
                                   faults := { stuckBusy := true } } }

/-- Of a machine with one disk that answers, it is the one that is found. -/
theorem start_discovers_mixed :
    mixedBus.latency ≤ (1000 : UInt32).toNat ∧ Discovered mixedBus (start 1000 mixedBus {} [])
      ∧ ∀ slot : Slot,
          ((start 1000 mixedBus {} []).disks.controller.devices.get slot).isUsable = true
            ↔ slot = 0 := by
  have hlatency : mixedBus.latency ≤ (1000 : UInt32).toNat := by decide
  have hdiscovered := start_discovers hlatency {} []
  refine ⟨hlatency, hdiscovered, fun slot => (hdiscovered.usable slot).trans ?_⟩
  constructor
  · rintro ⟨d, hd, hkind, hstuck⟩
    match slot with
    | 0 => rfl
    | 1 =>
      cases hd
      cases hkind
    | 2 => cases hd
    | 3 =>
      cases hd
      cases hstuck
  · rintro rfl
    exact ⟨_, rfl, rfl, rfl⟩

/-- A bitmap of eight blocks is written to a larger volume. -/
def shortBitmap : Operation := .writeBitmap (.forSize 1024) (.blank 8)

/-- The bitmap of a volume without blocks is read. -/
def noBitmap : Operation := .readBitmap { Superblock.forSize 1024 with totalBlocks := 0 }

/-- What makes no sense on any drive is refused for that. -/
theorem failure_misused {δ : Type} [BlockDevice δ] {drive : UInt8} {e : AtaError} {s : δ}
    (h : Refused drive e s) :
    (shortBitmap.perform drive s).1.failure = some (.corrupted (.bitmapTotal 8 1024))
      ∧ (noBitmap.perform drive s).1.failure = some (.io .emptyTransfer) := by
  have hwritten : shortBitmap.misuse = some (.corrupted (.bitmapTotal 8 1024)) := by decide
  have hread : noBitmap.misuse = some (.io .emptyTransfer) := by decide
  have hfirst := (Operation.perform_refused h shortBitmap).2
  have hsecond := (Operation.perform_refused h noBitmap).2
  rw [hwritten] at hfirst
  rw [hread] at hsecond
  exact ⟨hfirst, hsecond⟩

/-- **Some requests are refused for what they are given**, and not because the drive is not
there. -/
theorem start_refuses_misuse :
    let m := start 1000 mixedBus {} []
    (m.disks.controller.devices.get 2).isUsable = false
      ∧ (shortBitmap.perform 2 m.inStep).1.failure = some (.corrupted (.bitmapTotal 8 1024))
      ∧ (noBitmap.perform 2 m.inStep).1.failure = some (.io .emptyTransfer)
      ∧ (shortBitmap.perform 2 m.inStep).1.failure ≠ some (.io (.notPresent 2))
      ∧ (noBitmap.perform 2 m.inStep).1.failure ≠ some (.io (.notPresent 2)) := by
  have hlatency : mixedBus.latency ≤ (1000 : UInt32).toNat := by decide
  have husable := isUsable_start hlatency {} [] 2
  generalize start 1000 mixedBus {} [] = m at husable ⊢
  have hunusable : (m.disks.controller.devices.get 2).isUsable = false := by
    rw [← Bool.not_eq_true, husable]
    rintro ⟨d, hd, -⟩
    cases hd
  have hfind : m.inStep.controller.find 2 = .error (.notPresent 2) := by
    rw [controller_inStep]
    exact Controller.find_of_not_usable rfl hunusable
  obtain ⟨hwritten, hread⟩ := failure_misused (Controller.refused hfind)
  refine ⟨hunusable, hwritten, hread, ?_, ?_⟩
  · rw [hwritten]
    decide
  · rw [hread]
    decide

end Machine

end AtaVolume
