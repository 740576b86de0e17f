/-
AtaVolume.Ata.PortSpace — all that the driver touches.

The driver sees the machine through four port accesses and a wait, and
reports to its journal. A machine is any type of states with these calls;
each call gives the state that follows, so two runs of a machine can be
compared. `Traced` is a machine that also writes down every access.
-/
import AtaVolume.Journal

namespace AtaVolume

/-- A machine with byte and word ports, a timer and a journal. -/
class PortSpace (σ : Type) where
  readByte : UInt16 → σ → UInt8 × σ
  writeByte : UInt16 → UInt8 → σ → σ
  readWord : UInt16 → σ → UInt16 × σ
  writeWord : UInt16 → UInt16 → σ → σ
  /-- Waits for a number of milliseconds. -/
  wait : UInt32 → σ → σ
  note : Report → σ → σ

/-! ## §1 Traces -/

/-- An access with the value that went over the port. -/
inductive Access
  | readByte (port : UInt16) (value : UInt8)
  | writeByte (port : UInt16) (value : UInt8)
  | readWord (port : UInt16) (value : UInt16)
  | writeWord (port : UInt16) (value : UInt16)
  | wait (ms : UInt32)
  deriving DecidableEq, Repr

/-- A machine and the accesses made to it, oldest first. -/
structure Traced (σ : Type) where
  machine : σ
  accesses : Array Access := #[]

namespace Traced

variable {σ : Type}

instance [PortSpace σ] : PortSpace (Traced σ) where
  readByte port t :=
    match t with
    | ⟨machine, accesses⟩ =>
      let (value, machine) := PortSpace.readByte port machine
      (value, ⟨machine, accesses.push (.readByte port value)⟩)
  writeByte port value t :=
    match t with
    | ⟨machine, accesses⟩ =>
      ⟨PortSpace.writeByte port value machine, accesses.push (.writeByte port value)⟩
  readWord port t :=
    match t with
    | ⟨machine, accesses⟩ =>
      let (value, machine) := PortSpace.readWord port machine
      (value, ⟨machine, accesses.push (.readWord port value)⟩)
  writeWord port value t :=
    match t with
    | ⟨machine, accesses⟩ =>
      ⟨PortSpace.writeWord port value machine, accesses.push (.writeWord port value)⟩
  wait ms t :=
    match t with
    | ⟨machine, accesses⟩ => ⟨PortSpace.wait ms machine, accesses.push (.wait ms)⟩
  note report t :=
    match t with
    | ⟨machine, accesses⟩ => ⟨PortSpace.note report machine, accesses⟩

end Traced

/-! ## §2 Scripted answers -/

/-- The bytes that a port answers with, in order. -/
structure Script where
  port : UInt16
  answers : List UInt8

/-- A machine whose answers are laid down beforehand. A byte port answers with
its next byte, and with its last one for ever; a word port takes two bytes an
answer. A port without answers left reads as all ones, and writes do nothing. -/
structure Scripted where
  byteScripts : List Script
  wordScripts : List Script
  journal : Journal

namespace Scripted

/-- The next answer of a byte port, and what follows it. -/
def nextByte : List UInt8 → UInt8 × List UInt8
  | [] => (0xFF, [])
  | [b] => (b, [b])
  | b :: rest => (b, rest)

/-- The next answer of a word port, and what follows it. -/
def nextWord : List UInt8 → UInt16 × List UInt8
  | low :: high :: rest => (low.toUInt16 ||| (high.toUInt16 <<< 8), rest)
  | rest => (0xFFFF, rest)

/-- Takes an answer from the script of a port. -/
def take {α : Type} (next : List UInt8 → α × List UInt8) (port : UInt16) :
    List Script → α × List Script
  | [] => ((next []).1, [])
  | s :: rest =>
    if s.port = port then
      let (answer, answers) := next s.answers
      (answer, { s with answers } :: rest)
    else
      let (answer, rest) := take next port rest
      (answer, s :: rest)

instance : PortSpace Scripted where
  readByte port m :=
    let (value, byteScripts) := take nextByte port m.byteScripts
    (value, { m with byteScripts })
  writeByte _ _ m := m
  readWord port m :=
    let (value, wordScripts) := take nextWord port m.wordScripts
    (value, { m with wordScripts })
  writeWord _ _ m := m
  wait _ m := m
  note report m := { m with journal := m.journal.note report }

end Scripted

end AtaVolume
