/-
AtaVolume.Media.Error — why a medium refuses a sector.
-/
import AtaVolume.Sector

namespace AtaVolume

/-- A medium refuses only sectors that it does not have. -/
inductive MediumError
  /-- Sector `lba` of a medium with `count` sectors. -/
  | beyondEnd (lba count : UInt32)
  deriving DecidableEq, Repr

/-- What an error of input or output is about, whatever its text. -/
inductive ErrorKind
  | invalidInput
  deriving DecidableEq, Repr

/-- The error's kind: the caller asked for what there is not. -/
def MediumError.kind : MediumError → ErrorKind
  | .beyondEnd .. => .invalidInput

/-- The error's text. -/
def MediumError.message : MediumError → String
  | .beyondEnd lba count => s!"sector {lba} beyond end of media ({count} sectors)"

end AtaVolume
