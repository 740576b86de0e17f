/-
AtaVolume.Proofs.Machine.Boot — booting finds exactly the disks that are configured.

An image goes a long way before it is a disk that can be used: its file is opened, a
drive for it is put on the bus, and the driver asks that drive for its size. Opening
one image makes a file, but no directory, so it does not get in the way of the others
(`Directory.openImage_of_folders`); after all of them the bus carries a drive for each
image and nothing else (`attachAll_carries`); and the driver, which polls at least once,
outlasts the busy answers of the emulated drives (`run_provides`).
-/
import AtaVolume.Machine.Boot
import AtaVolume.Proofs.Machine.Config
import AtaVolume.Proofs.Machine.Directory
import AtaVolume.Proofs.Bus.Probing
import AtaVolume.Proofs.Volume.Isolation

namespace AtaVolume

/-! ## §1 Configured images -/

/-- All images of a configuration can be opened. -/
def MachineConfig.Opens (config : MachineConfig) (directory : Directory) : Prop :=
  ∀ slot spec, config.disks.get slot = some spec →
    ∃ opened, directory.openImage spec.path spec.sectors = .ok opened

namespace MachineConfig

variable (config : MachineConfig)

theorem mem_attached (slot : Slot) (spec : DiskSpec) :
    (slot, spec) ∈ config.attached ↔ config.disks.get slot = some spec := by
  have hslot : slot ∈ [(0 : Slot), 1, 2, 3] := by
    revert slot
    decide
  simp only [attached, List.mem_filterMap, Option.map_eq_some_iff, Prod.mk.injEq]
  constructor
  · rintro ⟨_, -, _, hspec, rfl, rfl⟩
    exact hspec
  · intro hspec
    exact ⟨slot, hslot, spec, hspec, rfl, rfl⟩

/-- No slot has two images. -/
theorem nodup_attached : (config.attached.map Prod.fst).Nodup := by
  unfold attached
  rw [List.map_filterMap]
  refine List.Nodup.filterMap ?_ (show [(0 : Slot), 1, 2, 3].Nodup by decide)
  intro slot slot' key hkey hkey'
  simp only [Option.map_map, Option.mem_def, Option.map_eq_some_iff, Function.comp] at hkey hkey'
  obtain ⟨_, -, rfl⟩ := hkey
  obtain ⟨_, -, hslot⟩ := hkey'
  exact hslot.symm

end MachineConfig

/-! ## §2 Attaching drives -/

/-- The slot carries a disk on an image of the given size. -/
def Bus.Carries (b : Bus) (slot : Slot) (spec : DiskSpec) : Prop :=
  ∃ image : FileImage, image.capacity = spec.sectors
    ∧ b.drive? slot = some (Drive.disk (Boot.modelName slot) (.file image))

theorem Bus.attach_slot (b : Bus) (slot : Slot) (d : Drive) :
    b.attach slot.val d = b.setDrive slot (some d) := by
  have hslot : slot? slot.val = some slot := dif_pos slot.isLt
  rw [attach, hslot]

namespace Boot

/-- **Every image gets a drive in its slot**, and the other slots stay as they are. -/
theorem attachAll_carries (count k : Nat) {images : List (Slot × DiskSpec)} {a : Attached}
    {directory : Directory} (hfolders : a.directory.folders = directory.folders)
    (hopens : ∀ slot spec, (slot, spec) ∈ images →
      ∃ opened, directory.openImage spec.path spec.sectors = .ok opened)
    (hnodup : (images.map Prod.fst).Nodup) :
    ∃ a', attachAll count k images a = (a', none) ∧ a'.bus.latency = a.bus.latency
      ∧ (∀ slot spec, (slot, spec) ∈ images → a'.bus.Carries slot spec)
      ∧ ∀ slot, slot ∉ images.map Prod.fst → a'.bus.drive? slot = a.bus.drive? slot := by
  induction images generalizing a k with
  | nil => exact ⟨a, rfl, rfl, by simp, by simp⟩
  | cons entry rest ih =>
    obtain ⟨slot, spec⟩ := entry
    obtain ⟨place, image, opened, hopen, hcapacity, hopened⟩ :=
      Directory.openImage_of_folders hfolders (hopens slot spec (by simp))
    rw [List.map_cons, List.nodup_cons] at hnodup
    obtain ⟨hfresh, hrest⟩ := hnodup
    obtain ⟨a', hattach, hlatency, hcarries, hothers⟩ := ih (k + 1)
      (a := { messages := (a.messages.push (attaching slot spec)).push
                (.progress (10 + 60 * (k + 1) / count))
              directory := opened
              bus := a.bus.attach slot.val (Drive.disk (modelName slot) (.file image))
              places := a.places ++ [(slot, place)] })
      hopened (fun slot spec hmem => hopens slot spec (List.mem_cons_of_mem _ hmem)) hrest
    simp only [Bus.attach_slot, Bus.latency_setDrive, Bus.drive?_setDrive] at hlatency hothers
    refine ⟨a', ?_, hlatency, ?_, ?_⟩
    · rw [attachAll, hopen]
      exact hattach
    · intro other spec' hmem
      rw [List.mem_cons] at hmem
      cases hmem with
      | inl heq =>
        cases heq
        exact ⟨image, hcapacity, by simpa using hothers slot hfresh⟩
      | inr hmem => exact hcarries other spec' hmem
    · intro other hother
      rw [List.map_cons, List.mem_cons, not_or] at hother
      rw [hothers other hother.2, if_neg hother.1]

/-- The drives of a configuration: one for each image, and none where there is none. -/
theorem attachAll_config {config : MachineConfig} (a : Attached)
    (hopens : config.Opens a.directory) :
    ∃ a', attachAll config.attached.length 0 config.attached a = (a', none)
      ∧ a'.bus.latency = a.bus.latency
      ∧ (∀ slot spec, config.disks.get slot = some spec → a'.bus.Carries slot spec)
      ∧ ∀ slot, config.disks.get slot = none → a'.bus.drive? slot = a.bus.drive? slot := by
  obtain ⟨a', hattach, hlatency, hcarries, hothers⟩ :=
    attachAll_carries config.attached.length 0 rfl
      (fun slot spec hmem => hopens slot spec ((config.mem_attached slot spec).1 hmem))
      config.nodup_attached
  refine ⟨a', hattach, hlatency, ?_, ?_⟩
  · intro slot spec hspec
    exact hcarries slot spec ((config.mem_attached slot spec).2 hspec)
  · intro slot hnone
    apply hothers
    intro hmem
    obtain ⟨⟨_, spec⟩, hattached, rfl⟩ := List.mem_map.1 hmem
    simp [(config.mem_attached _ spec).1 hattached] at hnone

end Boot

/-! ## §3 Machines -/

/-- The machine has the disks that are configured, and nothing else. -/
structure Machine.Provides (m : Machine) (config : MachineConfig) : Prop where
  usable : ∀ slot, (m.disks.controller.devices.get slot).isUsable = (config.disks.get slot).isSome
  disk : ∀ slot spec, config.disks.get slot = some spec →
    ∃ id p identity, m.disks.controller.devices.get slot = .disk id p identity
      ∧ id.number.toNat = slot.val / 2 ∧ p.number.toNat = slot.val % 2
  totalSectors : ∀ (slot : Slot) spec (drive : UInt8), config.disks.get slot = some spec →
    drive.toNat = slot.val → m.disks.controller.totalSectors drive = .ok spec.sectors
  absent : ∀ slot, config.disks.get slot = none → m.disks.controller.devices.get slot = .absent
  pollBudget : m.disks.controller.pollBudget = config.pollBudget

/-- The size of a drive is that of its image. -/
theorem DiskSpec.Proper.reported {spec : DiskSpec} (h : spec.Proper) {image : FileImage}
    (hcapacity : image.capacity = spec.sectors) (model : String) :
    (Drive.disk model (.file image)).reportedSectors = spec.sectors := by
  have hle : spec.sectors ≤ 0x0FFFFFFF := UInt32.le_iff_toNat_le.2 h.bounded
  show min image.capacity 0x0FFFFFFF = spec.sectors
  rw [hcapacity, UInt32.min_def, if_pos hle]

namespace Boot

variable {lookup : String → Option String} {config : MachineConfig}

/-- The machine at the end of booting, with the drives that were attached. -/
theorem probeDrives_ok (budget : UInt32) (a : Attached) :
    ∃ m, (probeDrives budget a).result = .ok m
      ∧ m.disks.controller = (Controller.enumerate budget a.bus).1 := by
  have hstart : (Disks.start budget a.bus).controller = (Controller.enumerate budget a.bus).1 := by
    rw [Disks.start]
  unfold probeDrives
  generalize Disks.start budget a.bus = started at hstart ⊢
  exact ⟨_, rfl, hstart⟩

/-- A driver with this table of devices has what is configured. -/
theorem provides_of_shown {b : Bus} {m : Machine} (hproper : config.Proper lookup)
    (hdevices : ∀ slot : Slot, m.disks.controller.devices.get slot = b.shown slot)
    (hbudget : m.disks.controller.pollBudget = config.pollBudget)
    (hcarries : ∀ slot spec, config.disks.get slot = some spec → b.Carries slot spec)
    (hempty : ∀ slot, config.disks.get slot = none → b.drive? slot = none) : m.Provides config := by
  have hdisk : ∀ slot spec, config.disks.get slot = some spec →
      ∃ identity, m.disks.controller.devices.get slot
          = .disk (channelOf slot) (positionOf slot) identity
        ∧ identity.size = spec.sectors := by
    intro slot spec hspec
    obtain ⟨image, hcapacity, hdrive⟩ := hcarries slot spec hspec
    refine ⟨_, by rw [hdevices, Bus.shown_of_some hdrive, Drive.shown_ata rfl rfl], ?_⟩
    rw [Drive.size_identification, (hproper.image slot spec hspec).reported hcapacity]
  have habsent : ∀ slot, config.disks.get slot = none →
      m.disks.controller.devices.get slot = .absent := by
    intro slot hnone
    rw [hdevices, Bus.shown, hempty slot hnone]
  constructor
  case usable =>
    intro slot
    cases hspec : config.disks.get slot with
    | none => simp [habsent slot hspec, Device.isUsable]
    | some spec =>
      obtain ⟨identity, hdevice, -⟩ := hdisk slot spec hspec
      simp [hdevice, Device.isUsable]
  case disk =>
    intro slot spec hspec
    obtain ⟨identity, hdevice, -⟩ := hdisk slot spec hspec
    exact ⟨_, _, identity, hdevice, number_place slot⟩
  case totalSectors =>
    intro slot spec drive hspec hslot
    obtain ⟨identity, hdevice, hsize⟩ := hdisk slot spec hspec
    have hentry : m.disks.controller.device? drive
        = some (m.disks.controller.devices.get slot) := by
      rw [Controller.device?, hslot]
      exact Vector.getElem?_eq_getElem slot.isLt
    simp [Controller.totalSectors, Controller.find, hentry, hdevice, Except.map, hsize]
  case absent => exact habsent
  case pollBudget => exact hbudget

/-- **Every configuration that is accepted boots to exactly the disks it names**, if their
images can be opened, whatever poll budget it has. -/
theorem run_provides (h : MachineConfig.ofLookup lookup = .ok config) (directory : Directory)
    (journal : Journal) :
    config.Proper lookup
      ∧ (config.Opens directory →
          ∃ m, (run lookup directory journal).result = .ok m ∧ m.Provides config) := by
  have hproper := MachineConfig.proper_ofLookup h
  refine ⟨hproper, ?_⟩
  intro hopens
  unfold run
  rw [h]
  simp only
  generalize (if config.hardware then journal.note noHardware else journal) = journal
  obtain ⟨a, hattach, hlatency, hcarries, hothers⟩ := attachAll_config
    { messages := #[.step "🧠 Reading machine configuration..."].push (.progress 10)
      directory, bus := { journal } } hopens
  rw [hattach]
  obtain ⟨m, hresult, hcontroller⟩ := probeDrives_ok config.pollBudget a
  -- two busy answers: one is read before the driver polls, and it polls at least once
  have hbudget : a.bus.latency ≤ config.pollBudget.toNat + 1 := by
    have hpos := hproper.pollBudget
    rw [hlatency]
    show 2 ≤ config.pollBudget.toNat + 1
    omega
  have hdevices := (Controller.enumerate_found hbudget).1
  refine ⟨m, hresult, provides_of_shown hproper (by rw [hcontroller]; exact hdevices)
    (by simp only [hcontroller, Controller.enumerate]) hcarries ?_⟩
  intro slot hnone
  rw [hothers slot hnone]
  match slot with
  | 0 | 1 | 2 | 3 => rfl

/-- Variables for two disks on one file, and the least poll budget. -/
def sharedLookup (name : String) : Option String :=
  if name = diskVariable 1 then some "data.img:8"
  else if name = diskVariable 2 then some " data.img "
  else if name = pollBudgetVariable then some "1"
  else none

/-- The configuration that they are. -/
def sharedConfig : MachineConfig where
  disks := #v[none, some ⟨"data.img", 8⟩, some ⟨"data.img", 131072⟩, none]
  pollBudget := 1
  hardware := false

/-- Two disks on a file that booting makes. -/
theorem run_provides_shared :
    MachineConfig.ofLookup sharedLookup = .ok sharedConfig ∧ sharedConfig.Opens {}
      ∧ sharedConfig.Proper sharedLookup
      ∧ ∃ m, (run sharedLookup {} .closed).result = .ok m ∧ m.Provides sharedConfig := by
  have hconfig : MachineConfig.ofLookup sharedLookup = .ok sharedConfig := by rfl
  have hopens : sharedConfig.Opens {} := by
    intro slot spec hspec
    match slot with
    | 0 => cases hspec
    | 1 =>
      cases hspec
      exact ⟨_, rfl⟩
    | 2 =>
      cases hspec
      exact ⟨_, rfl⟩
    | 3 => cases hspec
  obtain ⟨hproper, hrun⟩ := run_provides hconfig {} .closed
  exact ⟨hconfig, hopens, hproper, hrun hopens⟩

end Boot

end AtaVolume
