/-
AtaVolume.Proofs.Device.Stores — drives that keep what they are given.

A volume knows its drive only through the calls of a block device. A
`DriveView` says what the drive holds, and `DriveView.Stores` what the calls
do to that: reads change nothing and bring what is there, writes replace the
sectors they name. With `fails` the calls may also go wrong; then a read has
changed nothing, and a write has replaced the first ones of its sectors, from
none to all of them.
-/
import AtaVolume.Proofs.Device.Ranges

namespace AtaVolume

/-- What there is to know about one drive of a device. -/
structure DriveView (δ : Type) where
  /-- The number of sectors. -/
  size : UInt32
  /-- The device is in working order. -/
  Sound : δ → Prop
  /-- The content of the drive. -/
  image : δ → Sectors

namespace DriveView

variable {δ : Type} (v : DriveView δ)

/-- The drive is in order and holds `m`. -/
structure Holds (m : Sectors) (s : δ) : Prop where
  sound : v.Sound s
  image : v.image s = m

/-- How a write of `n` sectors may end on a drive that held `m`. -/
def Wrote (fails : Prop) (m : Sectors) (lba n : Nat) (source : Sectors) :
    EStateM.Result AtaError δ Unit → Prop
  | .ok _ s => v.Holds (m.overlay lba n source) s
  | .error _ s => fails ∧ ∃ k ≤ n, v.Holds (m.overlay lba k source) s

/-- Calls on the drive keep to what is said above. They end well unless they
may fail. -/
structure Stores [BlockDevice δ] (drive : UInt8) (fails : Prop) : Prop where
  size : ∀ {s}, v.Sound s → BlockDevice.totalSectors s drive = .ok v.size
  note : ∀ {m s}, v.Holds m s → ∀ report, v.Holds m (BlockDevice.note report s)
  read : ∀ m, BlockDevice.ReadsWithin drive (v.Holds m) fails m 0 v.size.toNat
  write : ∀ {m s}, v.Holds m s → ∀ {lba : UInt32} {data : Bytes} {n : Nat}, 1 ≤ n →
    data.size = n * 512 → lba.toNat + n ≤ v.size.toNat →
    v.Wrote fails m lba.toNat n (Sectors.ofRun data) (BlockDevice.writeSectors drive lba data s)

/-- No call fails. -/
abbrev FaultFree [BlockDevice δ] (drive : UInt8) : Prop := v.Stores drive False

/-- Any call may fail. -/
abbrev Fallible [BlockDevice δ] (drive : UInt8) : Prop := v.Stores drive True

end DriveView

end AtaVolume
