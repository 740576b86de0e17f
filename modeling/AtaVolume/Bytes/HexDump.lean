/-
AtaVolume.Bytes.HexDump — bytes laid out for reading.

Sixteen bytes a line: the offset in base 16, two groups of eight bytes, and
the same bytes as text between bars. A last line with fewer bytes keeps its
columns.
-/
import AtaVolume.Sector
import AtaVolume.Text.Numeral

namespace AtaVolume.HexDump

open Text (hexDigits)

/-- Bytes on a line. -/
abbrev lineBytes : Nat := 16

/-- The character that shows a byte: itself where it is visible ASCII or a
space, a full stop elsewhere. -/
def shown (b : UInt8) : Char :=
  if 0x20 ≤ b && b ≤ 0x7E then Char.ofNat b.toNat else '.'

/-- A column: two digits and a space, or three spaces. -/
def cell : Option UInt8 → List Char
  | some b => hexDigits 2 b.toNat ++ [' ']
  | none => [' ', ' ', ' ']

/-- The sixteen columns, a second space behind the eighth. -/
def cells (bytes : List UInt8) : List Char :=
  (List.range lineBytes).flatMap fun k =>
    cell bytes[k]? ++ (if k = 7 then [' '] else [])

/-- One line without its end: the offset, the columns, and the text. -/
def line (offset : Nat) (bytes : List UInt8) : List Char :=
  hexDigits 8 offset ++ [' ', ' '] ++ cells bytes ++ [' ', '|'] ++ bytes.map shown ++ ['|']

/-- The bytes in lines of sixteen. -/
def rows (bytes : Bytes) : List (List UInt8) :=
  (List.range ((bytes.size + 15) / lineBytes)).map fun k =>
    (bytes.extract (k * lineBytes) ((k + 1) * lineBytes)).toList

/-- The lines of a dump whose first byte has offset `base`. -/
def lines (base : Nat) (bytes : Bytes) : List (List Char) :=
  (rows bytes).zipIdx.map fun (row, k) => line (base + k * lineBytes) row

end HexDump

/-- The dump of `bytes`, with the offset `base` on its first line. -/
def hexDump (bytes : Bytes) (base : Nat) : String :=
  String.ofList ((HexDump.lines base bytes).flatMap (· ++ ['\n']))

end AtaVolume
