/-
AtaVolume.Ata.Error — how a call on a drive can fail.

The first seven causes are refusals of the request itself. The last four are
reported by the device while it works, and may not occur again on a second
try.
-/
import AtaVolume.Sector
import AtaVolume.Text.Numeral

namespace AtaVolume

/-- Why a call on a drive failed. -/
inductive AtaError
  /-- There is no slot of that number. -/
  | invalidDrive (drive : UInt8)
  /-- The slot holds no usable drive. -/
  | notPresent (drive : UInt8)
  /-- Nothing is to be transferred. -/
  | emptyTransfer
  /-- More sectors than one command transfers. -/
  | tooManySectors (count : Nat)
  /-- A length in bytes that is no multiple of the sector size. -/
  | misalignedLength (length : Nat)
  /-- A buffer that does not hold the sectors asked for. -/
  | bufferTooSmall (needed actual : Nat)
  /-- A range from this sector on that 28 bits do not address. -/
  | lba28Limit (lba : UInt32)
  /-- The device reports a fault. -/
  | deviceFault
  /-- The device reports an error, with the error register. -/
  | deviceError (error : UInt8)
  /-- The device asks for no data where a transfer is due. -/
  | noDataRequest
  /-- The device stayed busy. -/
  | timeout
  deriving DecidableEq, Repr

namespace AtaError

/-- The error's number; 0 is left for success. -/
def code : AtaError → UInt8
  | .deviceFault => 1
  | .deviceError _ => 2
  | .noDataRequest => 3
  | .timeout => 4
  | .invalidDrive _ => 0x10
  | .notPresent _ => 0x11
  | .emptyTransfer => 0x12
  | .tooManySectors _ => 0x13
  | .misalignedLength _ => 0x14
  | .bufferTooSmall .. => 0x15
  | .lba28Limit _ => 0x20

/-- The error comes from the device and not from the request. -/
def isTransient : AtaError → Bool
  | .deviceFault | .deviceError _ | .noDataRequest | .timeout => true
  | _ => false

/-- The error's text. -/
def message : AtaError → String
  | .invalidDrive d => s!"Invalid drive index: {d}"
  | .notPresent d => s!"No ATA device at drive {d}"
  | .emptyTransfer => "Zero-length transfer"
  | .tooManySectors n => s!"Too many sectors for one command: {n}"
  | .misalignedLength n => s!"Misaligned length: {n} bytes is not a multiple of 512"
  | .bufferTooSmall needed actual => s!"Buffer too small: need {needed} bytes, got {actual}"
  | .lba28Limit lba => s!"LBA {Text.hexMarked 1 lba.toNat} exceeds the 28-bit limit"
  | .deviceFault => "Device fault"
  | .deviceError e => s!"Device error (error register {Text.hexMarked 2 e.toNat})"
  | .noDataRequest => "Device did not request data"
  | .timeout => "Timed out waiting for the device"

end AtaError

end AtaVolume
