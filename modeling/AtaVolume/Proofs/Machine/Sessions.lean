/-
AtaVolume.Proofs.Machine.Sessions — drives interfere through a common file and in no other way.

A session is a list of operations and of changes to the faults of drives. What happens to
one drive in a session is what happens to it when everything is left out that is addressed
neither to it nor to a drive on its file (`Machine.run_apart`): two runs are followed at once,
one with and one without the other events, and after each event the drive, and all drives
on its file, answer the same on both (`Machine.Agree`).

Drives on one file do interfere: what is written to the one is read from the other
(`Machine.run_interferes`).
-/
import AtaVolume.Proofs.Bus.DiskStores
import AtaVolume.Proofs.Bus.Probing
import AtaVolume.Proofs.Machine.Sharing

namespace AtaVolume

/-! ## §1 Drivers that have just started -/

namespace Disks

/-- A driver that has just started works on the disks that were attached. -/
theorem carries_start {budget : UInt32} {b : Bus} (h : b.latency ≤ budget.toNat) {slot : Slot}
    {d : Drive} (hdrive : b.drive? slot = some d) :
    Carries (start budget b).controller (channelOf slot) (positionOf slot) d (start budget b) := by
  obtain ⟨-, hdrives, -, hlatency⟩ := Controller.enumerate_shown h
  have hbudget : (Controller.enumerate budget b).1.pollBudget = budget := by
    simp only [Controller.enumerate]
  unfold start
  generalize Controller.enumerate budget b = started at hdrives hlatency hbudget
  refine ⟨rfl, (hdrives _ _).trans hdrive, ?_⟩
  rw [hlatency, hbudget]
  exact h

/-- A disk reads as it is. -/
theorem read_within {c : Controller} {drive : UInt8} {id : ChannelId} {p : Position}
    {identity : Identity} {d : Drive} {s : Disks Bus} {size : Nat}
    (hfind : c.find drive = .ok (id, p, identity)) (hs : Carries c id p d s)
    (hd : d.Faultless size) (hlimit : size ≤ 2 ^ 28) (hpos : 0 < size) {buffer : Bytes}
    (hbuffer : buffer.size = 512) :
    ((Operation.read 1 0 buffer).perform drive s).1
      = .read (.ok ()) (d.medium.content.bytes 0 1) := by
  have hread := readsWithin hfind hd.responsive hlimit hd.large (fun j _ hj => hd.good j hj) hs
    (Nat.le_refl 1) (by decide) (Nat.zero_le _) (show (0 : UInt32).toNat + 1 ≤ size from hpos)
    hbuffer
  simp only [Operation.perform]
  generalize BlockDevice.readSectors drive 1 0 buffer s = o at hread
  obtain ⟨result, buffer', device⟩ := o
  cases result with
  | error e => exact (hread.error e rfl).elim
  | ok _ => exact congrArg (Response.read (.ok ())) (hread.ok rfl)

end Disks

/-! ## §2 Sessions -/

namespace Event

/-- The answers that came from a drive. -/
def answersOf (k : UInt8) (answers : List (UInt8 × Response)) : List Response :=
  (answers.filter (·.1 = k)).map (·.2)

theorem answersOf_append (k : UInt8) (answers later : List (UInt8 × Response)) :
    answersOf k (answers ++ later) = answersOf k answers ++ answersOf k later := by
  unfold answersOf
  rw [List.filter_append, List.map_append]

/-- Of what an event answers, a drive's part is all if the event is the drive's own. -/
theorem answersOf_answer (k drive : UInt8) (answer : Option Response) :
    answersOf k (answer.map fun response => (drive, response)).toList
      = if drive = k then answer.toList else [] := by
  cases answer with
  | none => exact (ite_self _).symm
  | some response => by_cases hk : drive = k <;> simp [answersOf, hk]

end Event

namespace Machine

open Event (answersOf answersOf_append answersOf_answer)

/-- A machine whose driver has just been started, with the files behind its drives. -/
def start (budget : UInt32) (b : Bus) (directory : Directory) (places : List (Slot × Place)) :
    Machine :=
  { disks := Disks.start budget b, directory, places }

/-- What an event does, and what it answers if it is an operation. -/
def occur (m : Machine) (event : Event) : Option Response × Machine :=
  m.reach (Bus.slot? event.drive.toNat) event.occur

/-- A session: the answers with the drives they come from, and where it ends. -/
def run : List Event → Machine → List (UInt8 × Response) × Machine
  | [], m => ([], m)
  | event :: events, m =>
    let r := m.occur event
    let rest := run events r.2
    ((r.1.map fun response => (event.drive, response)).toList ++ rest.1, rest.2)

/-- The file behind the drive of a number. -/
def place? (m : Machine) (drive : UInt8) : Option Place :=
  (Bus.slot? drive.toNat).bind fun slot => m.places.lookup slot

/-- Drive `j` is drive `k`, or has the same file behind it. -/
def Near (m : Machine) (k j : UInt8) : Prop :=
  j = k ∨ (m.place? j).isSome = true ∧ m.place? j = m.place? k

instance (m : Machine) (k j : UInt8) : Decidable (m.Near k j) :=
  inferInstanceAs (Decidable (_ ∨ _))

/-- Of a session, what is addressed to drive `k` or to a drive on its file. -/
def concerning (m : Machine) (k : UInt8) (events : List Event) : List Event :=
  events.filter (m.Near k ·.drive)

/-- No other drive has the file of drive `k` behind it. -/
def Alone (m : Machine) (k : UInt8) : Prop := ∀ j, m.Near k j → j = k

variable {α : Type} {m n m' : Machine} {k j i : UInt8} {slot other : Slot}

theorem near_self (m : Machine) (k : UInt8) : m.Near k k := .inl rfl

theorem near_of_places (h : m'.places = m.places) (k j : UInt8) : m'.Near k j ↔ m.Near k j := by
  unfold Near place?
  rw [h]

theorem concerning_of_places (h : m'.places = m.places) (k : UInt8) (events : List Event) :
    m'.concerning k events = m.concerning k events :=
  List.filter_congr fun event _ => by simp [near_of_places h]

theorem place?_of_slot (m : Machine) (h : slot.val = j.toNat) :
    m.place? j = m.places.lookup slot := by
  rw [place?, Bus.slot?_eq_some_iff.2 h, Option.bind_some]

/-- Whatever has its file in common with a drive near `k` is near `k` too. -/
theorem Near.of_shares (h : m.Near k i) (hother : other.val = i.toNat) (hslot : slot.val = j.toNat)
    (hshares : m.Shares slot other) : m.Near k j := by
  obtain ⟨place, hplace, hplace'⟩ := hshares
  rw [← m.place?_of_slot hslot] at hplace
  rw [← m.place?_of_slot hother] at hplace'
  have hsame : m.place? i = m.place? k := by
    cases h with
    | inl heq => rw [heq]
    | inr hfile => exact hfile.2
  exact .inr ⟨by rw [hplace]; rfl, by rw [hplace, ← hplace', hsame]⟩

/-! ## §3 Two runs -/

/-- On both machines drive `k` and all drives on its file answer the same. -/
structure Agree (k : UInt8) (m n : Machine) : Prop where
  places : m.places = n.places
  drives : ∀ j, m.Near k j → Disks.SameDrive j m.inStep n.inStep
  files : ∀ j (slot : Slot), m.Near k j → slot.val = j.toNat → m.file? slot = n.file? slot

theorem Agree.refl (k : UInt8) (h : m.Ready) : m.Agree k m where
  places := rfl
  drives j _ := .refl j h.inStep
  files _ _ _ _ := rfl

/-- Drives that were the same are so when they show the same file. -/
theorem sameDrive_inStep (h : Disks.SameDrive j m.disks n.disks)
    (hfiles : ∀ slot : Slot, slot.val = j.toNat → m.file? slot = n.file? slot) :
    Disks.SameDrive j m.inStep n.inStep where
  controller := h.controller
  latency := by rw [latency_inStep, latency_inStep, h.latency]
  finds := Ready.inStep h.finds
  drive slot hslot := by
    rw [drive?_inStep, drive?_inStep, h.drive slot hslot, refreshed_congr (hfiles slot hslot)]

variable {act : Disks Bus → α × Disks Bus}

/-- What keeps to a drive near `k` leaves the same in the files of such drives. -/
theorem Agree.file?_reach (h : m.Agree k n) (hj : m.Near k j) (hact : Disks.KeepsTo j act)
    (hi : m.Near k i) (hslot : slot.val = i.toNat) :
    (m.reach (Bus.slot? j.toNat) act).2.file? slot
      = (n.reach (Bus.slot? j.toNat) act).2.file? slot := by
  have hsame := (hact _ _ (h.drives j hj)).2.same
  have hshares : ∀ own, n.Shares own slot ↔ m.Shares own slot := fun own => by
    rw [Shares, Shares, h.places]
  by_cases hreach : ∃ own, Bus.slot? j.toNat = some own ∧ m.Shares own slot
  · obtain ⟨own, hown, hfile⟩ := hreach
    rw [hown, file?_reach_of_shares hfile, file?_reach_of_shares ((hshares own).2 hfile),
      h.files i slot hi hslot, hsame.drive own (Bus.slot?_eq_some_iff.1 hown)]
  · have hapart : ∀ own, Bus.slot? j.toNat = some own → ¬ m.Shares own slot :=
      fun own hown hfile => hreach ⟨own, hown, hfile⟩
    have hapart' : ∀ own, Bus.slot? j.toNat = some own → ¬ n.Shares own slot :=
      fun own hown hfile => hapart own hown ((hshares own).1 hfile)
    rw [file?_reach_of_apart hapart, file?_reach_of_apart hapart', h.files i slot hi hslot]

/-- What keeps to a drive near `k` gives the same on both machines, and they still agree. -/
theorem Agree.near (h : m.Agree k n) (hj : m.Near k j) (hact : Disks.KeepsTo j act) :
    (m.reach (Bus.slot? j.toNat) act).1 = (n.reach (Bus.slot? j.toNat) act).1
      ∧ (m.reach (Bus.slot? j.toNat) act).2.Agree k (n.reach (Bus.slot? j.toNat) act).2 := by
  obtain ⟨hanswer, hparallel⟩ := hact _ _ (h.drives j hj)
  have hplaces : (m.reach (Bus.slot? j.toNat) act).2.places = m.places := m.places_reach
  refine ⟨hanswer, ?_, ?_, ?_⟩
  · rw [places_reach, places_reach, h.places]
  · intro i hi
    rw [near_of_places hplaces] at hi
    refine sameDrive_inStep ?_ fun slot hslot => h.file?_reach hj hact hi hslot
    rw [disks_reach, disks_reach]
    exact hparallel.sameDrive (h.drives i hi)
  · intro i slot hi hslot
    exact h.file?_reach hj hact ((near_of_places hplaces k i).1 hi) hslot

/-- A drive that is not near `k` lies in another slot than the drives that are, and has
another file. -/
theorem Near.apart (hi : m.Near k i) (hj : ¬ m.Near k j) (hslot : slot.val = i.toNat)
    {own : Slot} (hown : Bus.slot? j.toNat = some own) : slot ≠ own ∧ ¬ m.Shares own slot := by
  rw [Bus.slot?_eq_some_iff] at hown
  refine ⟨?_, fun hshares => hj (hi.of_shares hslot hown hshares)⟩
  rintro rfl
  have heq : i = j := UInt8.toNat_inj.1 (hslot.symm.trans hown)
  exact hj (heq ▸ hi)

/-- What keeps to any other drive is not noticed. -/
theorem Agree.far (h : m.Agree k n) (hj : ¬ m.Near k j) (hact : Disks.KeepsTo j act) :
    (m.reach (Bus.slot? j.toNat) act).2.Agree k n := by
  have hready : m.Ready := ready_of_inStep (h.drives k (m.near_self k)).finds
  have hleft := reach_left hready hact
  have hspares := (hact _ _ (.refl j hready.inStep)).2.spares
  refine ⟨hleft.places.trans h.places, ?_, ?_⟩
  · intro i hi
    rw [near_of_places hleft.places] at hi
    have hsame := h.drives i hi
    refine ⟨?_, ?_, hleft.ready.inStep, fun slot hslot => ?_⟩
    · rw [controller_inStep, disks_reach, hspares.controller, hsame.controller]
    · rw [latency_inStep, disks_reach, hspares.latency, hsame.latency]
    · rw [hleft.apart slot fun _ => hi.apart hj hslot, hsame.drive slot hslot]
  · intro i slot hi hslot
    rw [near_of_places hleft.places] at hi
    rw [file?_reach_of_apart fun _ hown => (hi.apart hj hslot hown).2, h.files i slot hi hslot]

/-! ## §4 Two disks on one file -/

section Started

variable {budget : UInt32} {b : Bus} {directory : Directory} {places : List (Slot × Place)}
  {d : Drive}

/-- The same on a machine on which the image shows its file. -/
theorem carries_inStep (h : b.latency ≤ budget.toNat) (hdrive : b.drive? slot = some d)
    (hfile : (start budget b directory places).file? slot = d.medium.file?) :
    Disks.Carries (start budget b directory places).disks.controller (channelOf slot)
      (positionOf slot) d (start budget b directory places).inStep := by
  have hcarries : Disks.Carries (start budget b directory places).disks.controller
      (channelOf slot) (positionOf slot) d (start budget b directory places).disks :=
    Disks.carries_start h hdrive
  generalize start budget b directory places = m at hfile hcarries
  refine ⟨rfl, ?_, ?_⟩
  · have hinStep := m.drive?_inStep slot
    rw [show m.disks.machine.drive? slot = some d from hcarries.drive, Option.map_some,
      refreshed_of_file? hfile] at hinStep
    exact hinStep
  · rw [latency_inStep]
    exact hcarries.latency

theorem find_start (h : b.latency ≤ budget.toNat) (hdrive : b.drive? slot = some d)
    (hkind : d.kind = .ata) (hstuck : d.faults.stuckBusy = false) {drive : UInt8}
    (hslot : drive.toNat = slot.val) :
    (start budget b directory places).disks.controller.find drive
      = .ok (channelOf slot, positionOf slot, Identity.ofBytes d.identification.toBytes) := by
  have hcontroller : (start budget b directory places).disks.controller
      = (Controller.enumerate budget b).1 := by
    rw [start, Disks.start]
  rw [hcontroller]
  exact Controller.find_enumerate (Nat.le_succ_of_le h) hdrive hkind hstuck hslot

end Started

/-- A file made for eight sectors, opened. -/
def newImage : FileImage := .openContent .empty 8

/-- The disk on it in a slot. -/
def newDisk (slot : Slot) : Drive := .disk (Boot.modelName slot) (.file newImage)

/-- Two images of this size, with one path or with two, opened as when a machine boots. -/
def pairAttached (common : Bool) : Boot.Attached :=
  (Boot.attachAll 2 0 [(0, ⟨"a.img", 8⟩), (1, ⟨if common then "a.img" else "b.img", 8⟩)]
    { messages := #[], directory := {}, bus := {} }).1

/-- A machine with two disks, on one file or on two. -/
def pair (common : Bool) : Machine :=
  start 1000 (pairAttached common).bus (pairAttached common).directory (pairAttached common).places

theorem faultless_newDisk (slot : Slot) : (newDisk slot).Faultless 8 :=
  ⟨⟨rfl, rfl, rfl⟩, rfl, Nat.le_refl 8, fun _ _ => rfl⟩

theorem shares_pair : (pair true).Shares 0 1 := ⟨⟨.above 0, ["a.img"]⟩, rfl, rfl⟩

section Pair

variable (common : Bool) (hslot : slot.val < 2)
include hslot

theorem drive?_pair : (pairAttached common).bus.drive? slot = some (newDisk slot) := by
  match slot, common with
  | 0, true | 0, false | 1, true | 1, false => rfl

theorem file?_pair : (pair common).file? slot = some newImage.content := by
  match slot, common with
  | 0, true | 0, false | 1, true | 1, false => rfl

omit hslot in
theorem latency_pair : (pairAttached common).bus.latency ≤ (1000 : UInt32).toNat := by
  cases common <;> decide

/-- Before anything happens both disks are new. -/
theorem carries_pair :
    Disks.Carries (pair common).disks.controller (channelOf slot) (positionOf slot) (newDisk slot)
      (pair common).inStep := by
  have hfile : (pair common).file? slot = some newImage.content := file?_pair common hslot
  unfold pair at hfile ⊢
  exact carries_inStep (latency_pair common) (drive?_pair common hslot) hfile

theorem find_pair {drive : UInt8} (hdrive : drive.toNat = slot.val) :
    (pair common).disks.controller.find drive = .ok (channelOf slot, positionOf slot,
      Identity.ofBytes (newDisk slot).identification.toBytes) := by
  unfold pair
  exact find_start (latency_pair common) (drive?_pair common hslot) rfl rfl hdrive

end Pair

/-- A sector that is written to the first disk is on the second one. -/
theorem written_pair {data : Bytes} (hdata : data.size = 1 * 512) :
    ∃ d, Disks.Carries (pair true).disks.controller .primary .slave d
        ((pair true).occur (.operate 0 (.write 0 data))).2.inStep
      ∧ d.Faultless 8 ∧ d.medium.content.bytes 0 1 = data := by
  have hfirst : (0 : Slot).val < 2 := by decide
  have hsecond : (1 : Slot).val < 2 := by decide
  obtain ⟨s, d, commands, flushes, hwrite, hcarries, hgrown⟩ :=
    Disks.writes_within (find_pair true hfirst (show (0 : UInt8).toNat = 0 from rfl))
      (show (8 : UInt32).toNat ≤ 2 ^ 28 by decide) (carries_pair true hfirst) (faultless_newDisk 0)
      (Nat.le_refl 1) hdata (show (0 : UInt32).toNat + 1 ≤ 8 by decide)
  have hoccur : (Event.operate 0 (.write 0 data)).occur (pair true).inStep
      = (some (.written (.ok ())), s) := by
    simp only [Event.occur, Operation.perform, hwrite, settled]
  have hready : (pair true).Ready := Disks.finds_start 1000 (pairAttached true).bus
  have hleft := reach_left hready (Event.operate 0 (.write 0 data)).occur_keepsTo
  -- the first disk is still on the file, which now holds what was written
  have hfile : d.medium.file?.isSome = true := hgrown.file
  obtain ⟨content, hcontent⟩ := Option.isSome_iff_exists.1 hfile
  have hheld : (((Event.operate 0 (.write 0 data)).occur (pair true).inStep).2.machine.drive? 0).bind
      (fun d => d.medium.file?) = some content := by
    rw [hoccur, show s.machine.drive? 0 = some d from hcarries.drive]
    exact hcontent
  have hshown := hleft.shared 0 1 content rfl (by decide) shares_pair
    (by rw [file?_pair true hsecond]; rfl) hheld
  have hsame : (newDisk 1).medium.showing content = d.medium :=
    Medium.showing_eq rfl hgrown.sectorCount hcontent
  have hbefore : (pair true).inStep.machine.drive? 1 = some (newDisk 1) :=
    (carries_pair true hsecond).drive
  rw [hbefore, Option.map_some, hsame] at hshown
  have hdisks : ((pair true).occur (.operate 0 (.write 0 data))).2.disks = s := by
    rw [occur, disks_reach, hoccur]
  refine ⟨{ newDisk 1 with medium := d.medium }, ⟨?_, hshown, ?_⟩, ?_, ?_⟩
  · rw [controller_inStep, hdisks]
    exact hcarries.controller
  · rw [latency_inStep, hdisks]
    exact hcarries.latency
  · have hlarge := (faultless_newDisk 0).grown hgrown
    exact ⟨⟨rfl, rfl, rfl⟩, rfl, hlarge.large, fun _ _ => rfl⟩
  · show d.medium.content.bytes 0 1 = data
    rw [hgrown.content]
    exact Sectors.bytes_overlay_ofRun _ 0 hdata

/-- A sector of ones. -/
def ones : Bytes := Array.replicate (1 * 512) 0xFF

theorem ones_ne_zeroes : ones ≠ zeroes 512 := by
  intro heq
  have hfirst : ones.getD 0 0 = 0 := by rw [heq, getD_zeroes]
  simp [ones] at hfirst

/-- Nothing was written to a new disk. -/
theorem content_newDisk (slot : Slot) (j : Nat) : (newDisk slot).medium.content j = Sector.zero := by
  show (if j < 8 then (∅ : Std.HashMap Nat Sector).getD j Sector.zero else Sector.zero) = Sector.zero
  rw [Std.HashMap.getD_empty, ite_self]

theorem bytes_newDisk (slot : Slot) : (newDisk slot).medium.content.bytes 0 1 = zeroes 512 :=
  Sectors.bytes_of_zero fun j _ _ => content_newDisk slot j

/-- An operation answers from the disks as they are then. -/
theorem occur_operate (m : Machine) (drive : UInt8) (operation : Operation) :
    (m.occur (.operate drive operation)).1 = some (operation.perform drive m.inStep).1 := rfl

/-- A sector of ones is written to the first disk, and read from the second one. -/
def writeThenRead : List Event :=
  [.operate 0 (.write 0 ones), .operate 1 (.read 1 0 (zeroes 512))]

/-- Without the write there is nothing on the second disk. -/
theorem run_read_pair (common : Bool) :
    (run (writeThenRead.filter (·.drive = 1)) (pair common)).1.map (·.2)
      = [.read (.ok ()) (zeroes 512)] := by
  have hsecond : (1 : Slot).val < 2 := by decide
  have hread := Disks.read_within (find_pair common hsecond (show (1 : UInt8).toNat = 1 from rfl))
    (carries_pair common hsecond) (faultless_newDisk 1) (by decide) (by decide)
    (show (zeroes 512).size = 512 by simp)
  rw [bytes_newDisk] at hread
  have hevents : writeThenRead.filter (·.drive = 1) = [.operate 1 (.read 1 0 (zeroes 512))] := rfl
  rw [hevents]
  simp only [run]
  rw [occur_operate, hread]
  rfl

/-- On two files each disk has its own. -/
theorem alone_pair : (pair false).Alone 1 := by
  rintro j (heq | ⟨hsome, hplace⟩)
  · exact heq
  · unfold place? at hsome hplace
    cases hslot : Bus.slot? j.toNat with
    | none =>
      rw [hslot] at hsome
      cases hsome
    | some slot =>
      have hval : slot.val = j.toNat := Bus.slot?_eq_some_iff.1 hslot
      have hplaces : (pair false).places
          = [(0, ⟨.above 0, ["a.img"]⟩), (1, ⟨.above 0, ["b.img"]⟩)] := rfl
      rw [hslot, hplaces, Option.bind_some] at hplace
      match slot with
      | 0 => exact absurd hplace (by decide)
      | 1 => exact UInt8.toNat_inj.1 hval.symm
      | 2 => exact absurd hplace (by decide)
      | 3 => exact absurd hplace (by decide)

/-! ## §5 Sessions that are cut down -/

/-- Both runs end in agreement, and have given the drive's answers. -/
theorem Agree.run (h : m.Agree k n) (events : List Event) :
    answersOf k (run events m).1 = answersOf k (run (m.concerning k events) n).1
      ∧ (run events m).2.Agree k (run (m.concerning k events) n).2 := by
  induction events generalizing m n with
  | nil => exact ⟨rfl, h⟩
  | cons event events ih =>
    have hrest : (m.occur event).2.concerning k events = m.concerning k events :=
      concerning_of_places m.places_reach k events
    by_cases hevent : m.Near k event.drive
    · obtain ⟨hanswer, hstep⟩ := h.near hevent event.occur_keepsTo
      obtain ⟨hanswers, hend⟩ := ih (m := (m.occur event).2) (n := (n.occur event).2) hstep
      rw [hrest] at hanswers hend
      have hkeep : m.concerning k (event :: events) = event :: m.concerning k events :=
        List.filter_cons_of_pos (by simpa using hevent)
      rw [hkeep]
      simp only [Machine.run, answersOf_append, answersOf_answer]
      rw [show (m.occur event).1 = (n.occur event).1 from hanswer, hanswers]
      exact ⟨rfl, hend⟩
    · have hstep := h.far hevent event.occur_keepsTo
      obtain ⟨hanswers, hend⟩ := ih (m := (m.occur event).2) hstep
      rw [hrest] at hanswers hend
      have hother : event.drive ≠ k := fun heq => hevent (.inl heq)
      have hskip : m.concerning k (event :: events) = m.concerning k events :=
        List.filter_cons_of_neg (by simpa using hevent)
      rw [hskip]
      simp only [Machine.run, answersOf_append, answersOf_answer, if_neg hother, List.nil_append]
      exact ⟨hanswers, hend⟩

/-- The answers of a session that is addressed to one drive come from it. -/
theorem answersOf_run {events : List Event} (h : ∀ event ∈ events, event.drive = k) (m : Machine) :
    answersOf k (run events m).1 = (run events m).1.map (·.2) := by
  induction events generalizing m with
  | nil => rfl
  | cons event events ih =>
    rw [List.forall_mem_cons] at h
    simp only [Machine.run, answersOf_append, answersOf_answer, if_pos h.1, ih h.2, List.map_append]
    cases (m.occur event).1 <;> rfl

/-- **Drives do not interfere unless they are on one file.** Whatever drives a machine has,
on whatever files, and whatever happens once the driver has started: a drive gives the
answers, and ends with the content, the write commands and the flushes, that it has when
all is left out that is addressed neither to it nor to a drive on its file. A drive that
shares its file with no other one has those of the session that is addressed to it alone. -/
theorem run_apart (budget : UInt32) (b : Bus) (directory : Directory) (places : List (Slot × Place))
    (events : List Event) (k : UInt8) :
    let m := start budget b directory places
    (answersOf k (run events m).1 = answersOf k (run (m.concerning k events) m).1
      ∧ ∀ slot : Slot, slot.val = k.toNat →
          (run events m).2.inStep.machine.drive? slot
            = (run (m.concerning k events) m).2.inStep.machine.drive? slot)
    ∧ (m.Alone k →
        answersOf k (run events m).1 = (run (events.filter (·.drive = k)) m).1.map (·.2)
        ∧ ∀ slot : Slot, slot.val = k.toNat →
            (run events m).2.inStep.machine.drive? slot
              = (run (events.filter (·.drive = k)) m).2.inStep.machine.drive? slot) := by
  intro m
  have hready : m.Ready := Disks.finds_start budget b
  obtain ⟨hanswers, hend⟩ := (Agree.refl k hready).run events
  have hdrive := (hend.drives k (near_self _ k)).drive
  refine ⟨⟨hanswers, hdrive⟩, ?_⟩
  intro halone
  have hown : m.concerning k events = events.filter (·.drive = k) :=
    List.filter_congr fun event _ =>
      decide_eq_decide.2 ⟨halone event.drive, fun heq => heq ▸ m.near_self k⟩
  rw [hown] at hanswers hdrive
  exact ⟨hanswers.trans (answersOf_run (by simp) m), hdrive⟩

/-- Disks on two files: what is written to the first one is not read from the second one. -/
theorem run_apart_pair :
    (pair false).Alone 1
      ∧ Event.answersOf 1 (run writeThenRead (pair false)).1
        = [.read (.ok ()) (zeroes 512)] := by
  have hapart := (run_apart 1000 (pairAttached false).bus (pairAttached false).directory
    (pairAttached false).places writeThenRead 1).2 alone_pair
  exact ⟨alone_pair, hapart.1.trans (run_read_pair false)⟩

/-- **Drives on one file interfere**: what the second disk reads depends on what was
written to the first one. -/
theorem run_interferes :
    Event.answersOf 1 (run writeThenRead (pair true)).1 = [.read (.ok ()) ones]
      ∧ (run (writeThenRead.filter (·.drive = 1)) (pair true)).1.map (·.2)
        = [.read (.ok ()) (zeroes 512)]
      ∧ Event.answersOf 1 (run writeThenRead (pair true)).1
        ≠ (run (writeThenRead.filter (·.drive = 1)) (pair true)).1.map (·.2) := by
  have hboth : Event.answersOf 1 (run writeThenRead (pair true)).1 = [.read (.ok ()) ones] := by
    obtain ⟨d, hcarries, hd, hbytes⟩ := written_pair (show ones.size = 1 * 512 by simp [ones])
    have hread := Disks.read_within
      (find_pair true (show (1 : Slot).val < 2 by decide) (show (1 : UInt8).toNat = 1 from rfl))
      hcarries hd (by decide) (by decide) (show (zeroes 512).size = 512 by simp)
    rw [hbytes] at hread
    simp only [writeThenRead, run, Event.answersOf_append, Event.answersOf_answer]
    rw [occur_operate _ 1, hread]
    rfl
  have hlone := run_read_pair true
  refine ⟨hboth, hlone, ?_⟩
  rw [hboth, hlone]
  intro heq
  cases ones_ne_zeroes (by simpa using heq)

end Machine

end AtaVolume
