/-
AtaVolume.Machine.Config — which images become drives, and how often the
driver polls.

A configuration comes from variables, looked up by name. The images of the
four slots are written `path` or `path:sectors`; the last colon counts, and
only if nothing but digits follows it.
-/
import AtaVolume.Ata.Controller
import AtaVolume.Text.Blank

namespace AtaVolume

/-- An image file that backs a drive. -/
structure DiskSpec where
  path : String
  sectors : UInt32
  deriving DecidableEq, Repr

/-- Why variables are no configuration. -/
inductive ConfigError
  /-- The image of a variable has no path. -/
  | emptyPath (name : String)
  /-- The size in a variable is zero, or more than 28 bits address. -/
  | invalidSectors (name value : String)
  /-- The poll budget is no positive number. -/
  | invalidPollBudget (value : String)
  deriving DecidableEq, Repr

/-- The variables with the poll budget and the choice of real ports. -/
def pollBudgetVariable : String := "ELIXIR_POLL_BUDGET"
def hardwareVariable : String := "ELIXIR_HARDWARE"

/-- The variable with the image of a slot. -/
def diskVariable (slot : Slot) : String := s!"ELIXIR_DISK{slot.val}"

/-- All variables that a configuration comes from. -/
def configVariables : List String :=
  [(0 : Slot), 1, 2, 3].map diskVariable ++ [pollBudgetVariable, hardwareVariable]

/-- The error's text. -/
def ConfigError.message : ConfigError → String
  | .emptyPath name => s!"{name} has an empty image path"
  | .invalidSectors name value =>
    s!"{name}: invalid sector count '{value}' (expected 1..={lba28Max})"
  | .invalidPollBudget value => s!"{pollBudgetVariable}: invalid poll budget '{value}'"

namespace DiskSpec

/-- The size of an image whose size is not given: 64 MiB. -/
abbrev defaultSectors : UInt32 := 131072

/-- The image that is used when none is configured. -/
def default : DiskSpec := ⟨"elixir0.img", defaultSectors⟩

/-- The characters before and behind the last colon. -/
def splitLastColon (cs : List Char) : Option (List Char × List Char) :=
  if cs.contains ':' then
    let back := cs.reverse
    some ((back.dropWhile (· != ':')).tail.reverse, (back.takeWhile (· != ':')).reverse)
  else none

/-- A path that is not empty, with a size. -/
def withPath (name : String) (path : List Char) (sectors : UInt32) : Except ConfigError DiskSpec :=
  if path.isEmpty then .error (.emptyPath name) else .ok ⟨String.ofList path, sectors⟩

/-- The number of sectors that digits write, if a drive can have so many. -/
def readSectors (name : String) (digits : List Char) : Except ConfigError UInt32 :=
  match Text.readNatural 10 digits with
  | some n =>
    if 0 < n ∧ n ≤ lba28Max then .ok (UInt32.ofNat n)
    else .error (.invalidSectors name (String.ofList digits))
  | none => .error (.invalidSectors name (String.ofList digits))

/-- Reads the image of a variable. -/
def parse (name value : String) : Except ConfigError DiskSpec :=
  let text := Text.trim value.toList
  match splitLastColon text with
  | some (path, digits) =>
    if !digits.isEmpty && Text.allDigits digits then do
      let sectors ← readSectors name digits
      withPath name path sectors
    else withPath name text defaultSectors
  | none => withPath name text defaultSectors

end DiskSpec

/-- The images of the slots, the poll budget, and whether real ports are
asked for. -/
structure MachineConfig where
  disks : Vector (Option DiskSpec) slotCount
  pollBudget : UInt32
  hardware : Bool

namespace MachineConfig

/-- Reads the image of a slot, if its variable is set. -/
def readDisk (lookup : String → Option String) (slot : Slot) :
    Except ConfigError (Option DiskSpec) :=
  match lookup (diskVariable slot) with
  | some value => (DiskSpec.parse (diskVariable slot) value).map some
  | none => .ok none

/-- Reads the poll budget. -/
def readPollBudget (lookup : String → Option String) : Except ConfigError UInt32 :=
  match lookup pollBudgetVariable with
  | none => .ok defaultPollBudget
  | some value =>
    match Text.readWord (Text.trim value.toList) with
    | some n => if 0 < n then .ok n else .error (.invalidPollBudget value)
    | none => .error (.invalidPollBudget value)

/-- Whether real ports are asked for: by `1`, `true` or `yes`. -/
def readHardware (lookup : String → Option String) : Bool :=
  match lookup hardwareVariable with
  | none => false
  | some value => ["1", "true", "yes"].contains (String.ofList (Text.trim value.toList))

/-- Reads a configuration. With no image configured, slot 0 has the default
one. -/
def ofLookup (lookup : String → Option String) : Except ConfigError MachineConfig := do
  let d₀ ← readDisk lookup 0
  let d₁ ← readDisk lookup 1
  let d₂ ← readDisk lookup 2
  let d₃ ← readDisk lookup 3
  let disks :=
    if d₀.isNone && d₁.isNone && d₂.isNone && d₃.isNone then
      #v[some DiskSpec.default, none, none, none]
    else #v[d₀, d₁, d₂, d₃]
  let pollBudget ← readPollBudget lookup
  return { disks, pollBudget, hardware := readHardware lookup }

/-- The slots with images, in order. -/
def attached (c : MachineConfig) : List (Slot × DiskSpec) :=
  [(0 : Slot), 1, 2, 3].filterMap fun slot => (c.disks.get slot).map fun spec => (slot, spec)

end MachineConfig

end AtaVolume
