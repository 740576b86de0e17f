/-
AtaVolume.Journal — what the machine reports while it works.

Every layer reports in the same form: a level and a text. A journal keeps the
reports in the order they were made, or nothing while it is closed.
-/

namespace AtaVolume

/-- How much a report matters, the least first. -/
inductive Level
  | trace
  | debug
  | info
  | warn
  deriving DecidableEq, Repr

/-- The level's name in a listing. -/
def Level.name : Level → String
  | .trace => "TRACE"
  | .debug => "DEBUG"
  | .info => "INFO"
  | .warn => "WARN"

/-- One report. -/
structure Report where
  level : Level
  text : String
  deriving DecidableEq, Repr

namespace Report

def trace (text : String) : Report := ⟨.trace, text⟩
def debug (text : String) : Report := ⟨.debug, text⟩
def info (text : String) : Report := ⟨.info, text⟩
def warn (text : String) : Report := ⟨.warn, text⟩

/-- The report as one line: its level and its text. -/
def line (r : Report) : String := s!"{r.level.name} {r.text}"

end Report

/-- The reports kept so far, oldest first, and whether more are taken. -/
structure Journal where
  isOpen : Bool
  reports : Array Report := #[]

namespace Journal

/-- A journal that keeps nothing. -/
def closed : Journal := ⟨false, #[]⟩

/-- A journal that keeps every report. -/
def opened : Journal := ⟨true, #[]⟩

/-- Takes a report down if the journal is open. -/
def note (j : Journal) (r : Report) : Journal :=
  if j.isOpen then { j with reports := j.reports.push r } else j

/-- The journal without what it has kept so far. -/
def drained (j : Journal) : Journal := { j with reports := #[] }

end Journal

end AtaVolume
