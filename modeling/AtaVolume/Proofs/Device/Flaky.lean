/-
AtaVolume.Proofs.Device.Flaky — a drive that fails as a script says.

Each read and each write takes one line of the script: `none` lets it go well, and
`some k` makes it fail, a write after its first `k` sectors. Behind the end of the
script all goes well. There is a script for every way in which the calls on a
fallible drive can fail.
-/
import AtaVolume.Proofs.Device.Stores

namespace AtaVolume

/-- A drive and what will become of the calls on it. -/
structure Flaky where
  size : UInt32
  image : Sectors
  script : List (Option Nat) := []

namespace Flaky

/-- An empty drive. -/
def blank (size : UInt32) (script : List (Option Nat)) : Flaky :=
  { size, image := fun _ => Sector.zero, script }

/-- The next line of the script is taken. -/
def advance (d : Flaky) : Flaky := { d with script := d.script.tail }

/-- The first `n` sectors of a write have reached the drive. -/
def store (d : Flaky) (lba n : Nat) (data : Bytes) : Flaky :=
  { d with image := d.image.overlay lba n (.ofRun data) }

instance : BlockDevice Flaky where
  totalSectors d _ := .ok d.size
  readSectors _ count lba buffer d :=
    match d.script.head?.join with
    | none =>
      ⟨.ok (), overwriteFront (d.image.bytes lba.toNat count.toNat) buffer, d.advance⟩
    | some _ => ⟨.error .timeout, buffer, d.advance⟩
  writeSectors _ lba data d :=
    match d.script.head?.join with
    | none => .ok () (d.advance.store lba.toNat (wholeSectors data) data)
    | some k => .error .timeout (d.advance.store lba.toNat (min k (wholeSectors data)) data)
  note _ d := d
  size_readSectors _ count lba buffer d := by
    cases d.script.head?.join with
    | none => exact size_overwriteFront _ _
    | some _ => rfl

/-- The drive as volumes see it. -/
def view (size : UInt32) : DriveView Flaky where
  size := size
  Sound d := d.size = size
  image := Flaky.image

theorem sound_blank (size : UInt32) (script : List (Option Nat)) :
    (view size).Sound (blank size script) := rfl

/-- **Whatever the script, the drive is one whose calls may fail.** -/
theorem view_fallible (size : UInt32) (drive : UInt8) : (view size).Fallible drive where
  size := by
    rintro d rfl
    rfl
  note h _ := h
  read := by
    rintro m d ⟨hsize, rfl⟩ lba count buffer hpos hcount hlo hhi hbuffer
    have hnat : (UInt16.ofNat count).toNat = count :=
      UInt16.toNat_ofNat_of_lt' (show count < 2 ^ 16 by omega)
    simp only [BlockDevice.readSectors, hnat]
    cases d.script.head?.join with
    | none =>
      refine ⟨⟨hsize, rfl⟩, fun _ => ?_, fun _ h => (nomatch h)⟩
      exact overwriteFront_eq_left (by rw [Sectors.size_bytes, hbuffer])
    | some k => exact ⟨⟨hsize, rfl⟩, fun h => (nomatch h), fun _ _ => trivial⟩
  write := by
    rintro m d ⟨hsize, rfl⟩ lba data n hn hdata hend
    have hwhole : wholeSectors data = n := by
      show data.size / 512 = n
      omega
    simp only [BlockDevice.writeSectors, hwhole]
    cases d.script.head?.join with
    | none => exact ⟨hsize, rfl⟩
    | some k => exact ⟨trivial, min k n, Nat.min_le_right k n, hsize, rfl⟩

/-- The drive behind the end of its script. -/
def calm (size : UInt32) : DriveView Flaky :=
  { view size with Sound := fun d => d.size = size ∧ d.script = [] }

/-- There it does not fail any more. -/
theorem calm_faultFree (size : UInt32) (drive : UInt8) : (calm size).FaultFree drive where
  size := by
    rintro d ⟨rfl, -⟩
    rfl
  note h _ := h
  read := by
    rintro m d ⟨⟨hsize, hscript⟩, rfl⟩ lba count buffer hpos hcount hlo hhi hbuffer
    have hnat : (UInt16.ofNat count).toNat = count :=
      UInt16.toNat_ofNat_of_lt' (show count < 2 ^ 16 by omega)
    have hspent : d.advance.script = [] := congrArg List.tail hscript
    simp only [BlockDevice.readSectors, hnat, hscript, List.head?_nil, Option.join_none]
    refine ⟨⟨⟨hsize, hspent⟩, rfl⟩, fun _ => ?_, fun _ h => (nomatch h)⟩
    exact overwriteFront_eq_left (by rw [Sectors.size_bytes, hbuffer])
  write := by
    rintro m d ⟨⟨hsize, hscript⟩, rfl⟩ lba data n hn hdata hend
    have hwhole : wholeSectors data = n := by
      show data.size / 512 = n
      omega
    have hspent : d.advance.script = [] := congrArg List.tail hscript
    simp only [BlockDevice.writeSectors, hwhole, hscript, List.head?_nil, Option.join_none]
    exact ⟨⟨hsize, hspent⟩, rfl⟩

end Flaky

end AtaVolume
