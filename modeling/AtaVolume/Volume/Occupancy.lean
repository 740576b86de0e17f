/-
AtaVolume.Volume.Occupancy — which sectors of a drive hold anything.

Every sector of the drive is read; one that is all zeros counts as free. The
progress is told after each command.
-/
import AtaVolume.Volume.Basic

namespace AtaVolume

/-- How full a drive is. -/
structure Occupancy where
  totalSectors : UInt32
  usedSectors : UInt32
  freeSectors : UInt32
  lastUsed : Option UInt32
  /-- The sector behind the last used one, if the drive has it. -/
  nextFreeLba : Option UInt32
  deriving DecidableEq, Repr

/-- What a scan leaves behind: how it ended, the progress that was told (sectors
done, sectors in all), and the device. -/
structure ScanOutcome (δ : Type) where
  result : Except VolumeError Occupancy
  progress : Array (UInt32 × UInt32)
  device : δ

namespace Occupancy

/-- What a scan has found so far. -/
structure Tally where
  used : UInt32 := 0
  lastUsed : Option UInt32 := none
  deriving DecidableEq, Repr

/-- Counts `n` sectors; the first is sector `lba`, at place `k` in `bytes`. -/
def tally (bytes : Bytes) : (n : Nat) → (k : Nat) → (lba : UInt32) → Tally → Tally
  | 0, _, _, t => t
  | n + 1, k, lba, t =>
    tally bytes n (k + 1) (lba + 1)
      (if isZeroed (sectorBytes bytes k) then t else { used := t.used + 1, lastUsed := some lba })

/-- The sector behind the last used one. -/
def nextFree (total : UInt32) : Option UInt32 → Option UInt32
  | none => some 0
  | some last => if total.toNat ≤ last.toNat + 1 then none else some (last + 1)

/-- The result of a scan. -/
def ofTally (total : UInt32) (t : Tally) : Occupancy where
  totalSectors := total
  usedSectors := t.used
  freeSectors := total - t.used
  lastUsed := t.lastUsed
  nextFreeLba := nextFree total t.lastUsed

end Occupancy

namespace Volume

open Occupancy

variable {δ : Type} [BlockDevice δ]

/-- Scans the last `n` sectors of a drive of `total` sectors, from `lba` on, in
commands of at most 256 sectors. -/
def scanFrom (drive : UInt8) (total : UInt32) (n : Nat) (lba : UInt32) (buffer : Bytes)
    (t : Tally) (progress : Array (UInt32 × UInt32)) (device : δ) : ScanOutcome δ :=
  if n = 0 then
    let found := s!"{t.used} used / {total} sectors"
    ⟨.ok (ofTally total t), progress,
      BlockDevice.note (.debug s!"scan of drive {drive}: {found}") device⟩
  else
    let count := min n maxTransfer
    let piece := buffer.extract 0 (count * sectorSize)
    match BlockDevice.readSectors drive (UInt16.ofNat count) lba piece device with
    | ⟨.error e, _, device⟩ => ⟨.error (.io e), progress, device⟩
    | ⟨.ok _, piece, device⟩ =>
      let done := lba + UInt32.ofNat count
      let t := tally piece count 0 lba t
      scanFrom drive total (n - count) done piece t (progress.push (done, total)) device
termination_by n
decreasing_by show n - min n 256 < n; omega

/-- Scans a drive. -/
def scan (drive : UInt8) (device : δ) : ScanOutcome δ :=
  match BlockDevice.totalSectors device drive with
  | .error e => ⟨.error (.io e), #[], device⟩
  | .ok total =>
    scanFrom drive total total.toNat 0 (zeroes (maxTransfer * sectorSize)) {} #[] device

end Volume

end AtaVolume
