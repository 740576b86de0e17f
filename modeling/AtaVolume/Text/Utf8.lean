/-
AtaVolume.Text.Utf8 — bytes read as UTF-8 text, whatever they are.

`decodeLossy` reads well-formed sequences as their characters. Where a
sequence is ill-formed, the longest start of a well-formed sequence that
stands there (at least one byte) is replaced by one U+FFFD, and reading goes
on behind it.
-/

namespace AtaVolume.Text

/-- The mark that stands for an ill-formed sequence. -/
def replacement : Char := '\uFFFD'

/-- The byte continues a sequence, within the given bounds. -/
def continues (low high b : UInt8) : Bool := low ≤ b && b ≤ high

/-- The payload of a continuation byte. -/
def payload (b : UInt8) : Nat := (b &&& 0x3F).toNat

/-- The bounds of the second byte of a sequence that starts with `b`; they
are narrower than 80..BF where a longer form or a surrogate would follow. -/
def secondBounds (b : UInt8) : UInt8 × UInt8 :=
  if b == 0xE0 then (0xA0, 0xBF)
  else if b == 0xED then (0x80, 0x9F)
  else if b == 0xF0 then (0x90, 0xBF)
  else if b == 0xF4 then (0x80, 0x8F)
  else (0x80, 0xBF)

/-- The number of bytes that follow the first byte of a sequence. -/
def followers (b : UInt8) : Option Nat :=
  if b < 0x80 then some 0
  else if 0xC2 ≤ b && b ≤ 0xDF then some 1
  else if 0xE0 ≤ b && b ≤ 0xEF then some 2
  else if 0xF0 ≤ b && b ≤ 0xF4 then some 3
  else none

/-- Reads `n` further continuation bytes: the character's number, or nothing,
and how many bytes were taken. -/
def readContinuation : Nat → UInt8 × UInt8 → Nat → List UInt8 → Option Nat × Nat
  | 0, _, acc, _ => (some acc, 0)
  | _ + 1, _, _, [] => (none, 0)
  | n + 1, (low, high), acc, b :: bs =>
    if continues low high b then
      let (value, taken) := readContinuation n (0x80, 0xBF) (acc * 64 + payload b) bs
      (value, taken + 1)
    else (none, 0)

/-- The bits of the first byte that belong to the character. -/
def leadBits (b : UInt8) : Nat → Nat
  | 0 => b.toNat
  | 1 => (b &&& 0x1F).toNat
  | 2 => (b &&& 0x0F).toNat
  | _ => (b &&& 0x07).toNat

/-- The character that a first byte and what follows it stand for, and how
many of the following bytes belong to it. -/
def decodeStep (b : UInt8) (rest : List UInt8) : Char × Nat :=
  match followers b with
  | none => (replacement, 0)
  | some n =>
    match readContinuation n (secondBounds b) (leadBits b n) rest with
    | (some value, taken) => (Char.ofNat value, taken)
    | (none, taken) => (replacement, taken)

/-- The text of any bytes. -/
def decodeLossy : List UInt8 → List Char
  | [] => []
  | b :: rest => (decodeStep b rest).1 :: decodeLossy (rest.drop (decodeStep b rest).2)
termination_by bs => bs.length
decreasing_by simp only [List.length_drop, List.length_cons]; omega

end AtaVolume.Text
