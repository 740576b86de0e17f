/-
AtaVolume.Main — the shell at a terminal.

Reads the variables and the images, boots, and answers lines until `exit` or
the end of the input. An image is written back whole when booting made or
lengthened it, and after each command that may have changed it. Warnings go to
the error output.
-/
import AtaVolume.Machine.Dialogue

namespace AtaVolume.Terminal

/-- The configured images. -/
abbrev Images := List (Slot × DiskSpec)

/-- Prints a text at once. -/
def say (text : String) : IO Unit := do
  let out ← IO.getStdout
  out.putStr text
  out.flush

/-- Prints the warnings of a journal to the error output. -/
def warn (journal : Journal) : IO Unit := do
  for report in journal.reports do
    if report.level = .warn then IO.eprintln report.line

/-- The variables that are set. -/
def readVariables : IO (List (String × String)) := do
  let mut found := []
  for name in configVariables do
    if let some value ← IO.getEnv name then found := (name, value) :: found
  return found

/-- Adds what the disk holds on the way of a path. -/
def learn (directory : Directory) (path : String) : IO Directory := do
  let here ← IO.currentDir
  let mut directory := directory
  for stage in Place.stages path do
    if ← (here / stage).isDir then
      directory := directory.withFolder stage
    else if ← (here / stage).pathExists then
      directory := directory.withFile stage (.ofPacked (← IO.FS.readBinFile (here / stage)))
  return directory

/-- Writes the image of a slot back. -/
def save (images : Images) (m : Machine) (slot : Slot) : IO Unit := do
  match images.lookup slot, m.file? slot with
  | some spec, some content =>
    IO.FS.writeBinFile ((← IO.currentDir) / spec.path) content.toPacked
  | _, _ => return ()

/-- Writes the images back that are longer than the files were. -/
def saveGrown (images : Images) (before : Directory) (m : Machine) : IO Unit := do
  for (slot, place) in m.places do
    let lengthBefore := (before.file? place).map FileContent.length
    let lengthNow := (m.file? slot).map FileContent.length
    if lengthBefore ≠ lengthNow then save images m slot

/-- The machine with an empty journal, after its warnings were printed. -/
def drain (m : Machine) : IO Machine := do
  warn m.disks.machine.journal
  let bus := { m.disks.machine with journal := m.disks.machine.journal.drained }
  return { m with disks := { m.disks with machine := bus } }

/-- Answers lines until the dialogue is over. -/
partial def converse (images : Images) (input : IO.FS.Stream) (m : Machine) : IO Unit := do
  let line ← input.getLine
  if line.isEmpty then say Dialogue.leaving
  else
    let turn := Dialogue.answer m line
    say turn.text
    let m ← drain turn.machine
    if let some slot := turn.changed then save images m slot
    unless turn.isLast do converse images input m

/-- Boots and talks. -/
def run : IO Unit := do
  let settings ← readVariables
  let lookup (name : String) := settings.lookup name
  let images := match MachineConfig.ofLookup lookup with
    | .ok config => config.attached
    | .error _ => []
  let mut directory : Directory := {}
  for (_, spec) in images do
    directory ← learn directory spec.path
  say Dialogue.opening
  let outcome := Boot.run lookup directory .opened
  say (Dialogue.stepsText outcome.messages)
  match outcome.result with
  | .error e =>
    warn outcome.journal
    say (Dialogue.errorText e.message)
  | .ok m =>
    let m ← drain m
    saveGrown images directory m
    say Dialogue.greeting
    converse images (← IO.getStdin) m
    say Dialogue.farewell

end AtaVolume.Terminal

/-- Runs the shell. -/
def main : IO Unit := AtaVolume.Terminal.run
