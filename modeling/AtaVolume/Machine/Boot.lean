/-
AtaVolume.Machine.Boot — from variables to disks that can be used.

Booting reads the configuration, opens the images, puts a drive for each on
the bus and lets the driver find them. It tells what it is doing as it goes,
up to the step that failed.

Images may share a file, and then a drive shows what another one has written.
A drive has its image by itself; the machine keeps the files, and the images in
step with them. Whatever is done reaches the medium of one drive at most, so it is
enough to bring the images up to date before it (`Machine.inStep`) and to keep
what that one image holds afterwards (`Machine.save`).
-/
import AtaVolume.Bus.Emulated
import AtaVolume.Machine.Config
import AtaVolume.Machine.Directory
import AtaVolume.Shell.Execute

namespace AtaVolume

/-- What booting tells on its way. -/
inductive BootMessage
  | step (text : String)
  /-- How far it has come, of 100. -/
  | progress (percent : Nat)
  deriving DecidableEq, Repr

/-- Why booting failed. -/
inductive BootError
  | config (cause : ConfigError)
  | file (cause : FileError)
  deriving DecidableEq, Repr

/-- The error's text. -/
def BootError.message : BootError → String
  | .config cause => cause.message
  | .file cause => cause.message

/-- Disks on an emulated bus, and the files behind them. -/
structure Machine where
  disks : Disks Bus
  directory : Directory
  /-- The file behind each slot. -/
  places : List (Slot × Place)

/-- What booting leaves behind: the messages, the reports, the files, and the
machine if all went well. -/
structure BootOutcome where
  messages : Array BootMessage
  journal : Journal
  directory : Directory
  result : Except BootError Machine

namespace Boot

/-! ## §1 Images -/

/-- The model of a drive on an image. -/
def modelName (slot : Slot) : String := s!"ELIXIR VIRTUAL DISK {slot.val}"

/-- The drives attached so far. -/
structure Attached where
  messages : Array BootMessage
  directory : Directory
  bus : Bus
  places : List (Slot × Place) := []

/-- What is told before an image is opened. -/
def attaching (slot : Slot) (spec : DiskSpec) : BootMessage :=
  .step s!"💾 Attaching {spec.path} ({spec.sectors} sectors) to slot {slot.val}..."

/-- Opens the images in order, `count` of them in all, and attaches a drive for
each; stops at the first that cannot be opened. -/
def attachAll (count : Nat) : (k : Nat) → List (Slot × DiskSpec) → Attached →
    Attached × Option FileError
  | _, [], a => (a, none)
  | k, (slot, spec) :: rest, a =>
    let messages := a.messages.push (attaching slot spec)
    match a.directory.openImage spec.path spec.sectors with
    | .error e => ({ a with messages }, some e)
    | .ok (place, image, directory) =>
      attachAll count (k + 1) rest
        { messages := messages.push (.progress (10 + 60 * (k + 1) / count))
          directory
          bus := a.bus.attach slot.val (Drive.disk (modelName slot) (.file image))
          places := a.places ++ [(slot, place)] }

/-! ## §2 Booting -/

/-- The report that real ports are not to be had. -/
def noHardware : Report :=
  .warn "ELIXIR_HARDWARE set but built without the `hardware` feature, using emulator"

/-- Lets the driver find the drives. -/
def probeDrives (pollBudget : UInt32) (a : Attached) : BootOutcome :=
  let messages := a.messages.push (.step "⚙️  Probing IDE channels...")
  let disks := Disks.start pollBudget a.bus
  let found := disks.controller.devices.toList.countP Device.isUsable
  let ready := s!"{found} ATA drive(s) ready"
  let disks := BlockDevice.note (.info ready) disks
  { messages := messages ++ #[.progress 90, .step ("📁 " ++ ready), .progress 100]
    journal := disks.machine.journal
    directory := a.directory
    result := .ok { disks, directory := a.directory, places := a.places } }

/-- Boots with the images in a directory; reports go to the journal. -/
def run (lookup : String → Option String) (directory : Directory) (journal : Journal) :
    BootOutcome :=
  let messages := #[.step "🧠 Reading machine configuration..."]
  match MachineConfig.ofLookup lookup with
  | .error e => { messages, journal, directory, result := .error (.config e) }
  | .ok config =>
    let journal := if config.hardware then journal.note noHardware else journal
    let start : Attached :=
      { messages := messages.push (.progress 10), directory, bus := { journal } }
    match attachAll config.attached.length 0 config.attached start with
    | (a, some e) =>
      { messages := a.messages, journal := a.bus.journal, directory := a.directory,
        result := .error (.file e) }
    | (a, none) => probeDrives config.pollBudget a

end Boot

/-! ## §3 Images on one file -/

namespace Machine

/-- The content of the image in a slot. -/
def content? (m : Machine) (slot : Slot) : Option FileContent :=
  (m.disks.machine.drive? slot).bind fun d => d.medium.file?

/-- The content of the file behind a slot. -/
def file? (m : Machine) (slot : Slot) : Option FileContent :=
  (m.places.lookup slot).bind m.directory.file?

/-- The drive of a slot, its image brought up to date with the file behind it. -/
def refreshed (m : Machine) (slot : Slot) (d : Drive) : Drive :=
  match m.file? slot with
  | some content => { d with medium := d.medium.showing content }
  | none => d

/-- The disks as they answer now: every image shows the file behind it. -/
def inStep (m : Machine) : Disks Bus :=
  { m.disks with
    machine := [(0 : Slot), 1, 2, 3].foldl
      (fun b slot => b.modifyDrive slot (m.refreshed slot)) m.disks.machine }

/-- Keeps what the image in a slot holds in the file behind it, if there is one. -/
def save (m : Machine) (slot : Slot) : Machine :=
  match m.places.lookup slot, m.file? slot, m.content? slot with
  | some place, some _, some content => { m with directory := m.directory.store place content }
  | _, _, _ => m

/-- Does to the disks what reaches the medium in one slot at most: it finds the
images as their files are, and what it leaves in that slot goes to the file. -/
def reach {α : Type} (slot? : Option Slot) (act : Disks Bus → α × Disks Bus) (m : Machine) :
    α × Machine :=
  let (answer, disks) := act m.inStep
  let m := { m with disks }
  (answer, slot?.elim m m.save)

/-! ## §4 Commands -/

/-- The slot that a command is about. -/
def slotOf (c : Command) : Option Slot := c.drive?.bind fun drive => Bus.slot? drive.toNat

/-- Carries out a command. -/
def execute (m : Machine) (c : Command) : Reply × Machine := m.reach (slotOf c) (Shell.execute c)

end Machine

end AtaVolume
