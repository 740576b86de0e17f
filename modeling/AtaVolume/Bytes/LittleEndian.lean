/-
AtaVolume.Bytes.LittleEndian — numbers as bytes, least significant byte first.

`le16` and `le32` write a number, `word16` and `word32` read it back from any
offset of a run of bytes, where a byte past the end counts as zero.
-/
import AtaVolume.Sector

namespace AtaVolume.LittleEndian

/-- The two bytes of a 16-bit number. -/
def le16 (w : UInt16) : List UInt8 := [w.toUInt8, (w >>> 8).toUInt8]

/-- The four bytes of a 32-bit number. -/
def le32 (w : UInt32) : List UInt8 :=
  [w.toUInt8, (w >>> 8).toUInt8, (w >>> 16).toUInt8, (w >>> 24).toUInt8]

/-- The 16-bit number with these two bytes, the low one first. -/
@[inline] def join16 (b₀ b₁ : UInt8) : UInt16 := b₀.toUInt16 ||| (b₁.toUInt16 <<< 8)

/-- The 32-bit number with these four bytes, the low one first. -/
@[inline] def join32 (b₀ b₁ b₂ b₃ : UInt8) : UInt32 :=
  b₀.toUInt32 ||| (b₁.toUInt32 <<< 8) ||| (b₂.toUInt32 <<< 16) ||| (b₃.toUInt32 <<< 24)

/-- The 16-bit number at offset `i`. -/
def word16 (bytes : Bytes) (i : Nat) : UInt16 :=
  join16 (bytes.getD i 0) (bytes.getD (i + 1) 0)

/-- The 32-bit number at offset `i`. -/
def word32 (bytes : Bytes) (i : Nat) : UInt32 :=
  join32 (bytes.getD i 0) (bytes.getD (i + 1) 0) (bytes.getD (i + 2) 0) (bytes.getD (i + 3) 0)

end AtaVolume.LittleEndian
