/-
AtaVolume.BlockDevice — what a volume needs of the disks below it.

A block device reads and writes whole sectors of numbered drives. `readRange`
reads a range of any length in commands of at most 256 sectors, each into its
own piece of the buffer.
-/
import AtaVolume.Ata.Error
import AtaVolume.Journal

namespace AtaVolume

/-- What a read leaves behind: how it ended, the buffer, and the device. -/
structure ReadOutcome (δ : Type) where
  result : Except AtaError Unit
  buffer : Bytes
  device : δ

/-- Drives with sectors, and a journal. -/
class BlockDevice (δ : Type) where
  /-- The number of sectors that a drive reports. -/
  totalSectors : δ → UInt8 → Except AtaError UInt32
  /-- Reads a number of sectors, 1 to 256, from a sector on into a buffer. -/
  readSectors : UInt8 → UInt16 → UInt32 → Bytes → δ → ReadOutcome δ
  /-- Writes the bytes, a whole number of sectors, from a sector on. -/
  writeSectors : UInt8 → UInt32 → Bytes → EStateM AtaError δ Unit
  note : Report → δ → δ
  /-- A read fills a buffer and never resizes it. -/
  size_readSectors : ∀ drive count lba buffer device,
    (readSectors drive count lba buffer device).buffer.size = buffer.size

namespace BlockDevice

variable {δ : Type} [BlockDevice δ]

/-- Reads the `n` sectors from `lba` on into the bytes of `buffer` from
offset `i` on; `acc` holds the bytes before offset `i`. -/
def readPieces (drive : UInt8) (buffer : Bytes) (lba : UInt32) (n i : Nat) (acc : Bytes)
    (device : δ) : ReadOutcome δ :=
  if n = 0 then ⟨.ok (), acc ++ buffer.extract i buffer.size, device⟩
  else
    let count := min n maxTransfer
    let stop := i + count * sectorSize
    match readSectors drive (UInt16.ofNat count) lba (buffer.extract i stop) device with
    | ⟨.error e, piece, device⟩ =>
      ⟨.error e, acc ++ piece ++ buffer.extract stop buffer.size, device⟩
    | ⟨.ok _, piece, device⟩ =>
      if lba.toNat + count < UInt32.size then
        readPieces drive buffer (lba + UInt32.ofNat count) (n - count) stop (acc ++ piece) device
      else
        ⟨.error (.lba28Limit 0xFFFFFFFF), acc ++ piece ++ buffer.extract stop buffer.size, device⟩
termination_by n
decreasing_by show n - min n 256 < n; omega

/-- Reads the sectors from `lba` on into the whole of `buffer`. -/
def readRange (drive : UInt8) (lba : UInt32) (buffer : Bytes) (device : δ) : ReadOutcome δ :=
  if buffer.size = 0 then ⟨.error .emptyTransfer, buffer, device⟩
  else if buffer.size % sectorSize ≠ 0 then
    ⟨.error (.misalignedLength buffer.size), buffer, device⟩
  else readPieces drive buffer lba (buffer.size / sectorSize) 0 #[] device

end BlockDevice

end AtaVolume
