/-
AtaVolume.Text.Numeral — numbers in text.

Reading: `readNatural` reads one or more digits of a base, `readUnsigned` also
allows one leading `+` and refuses a value outside its range. Writing:
`hex` writes base 16 in lower case with at least a given number of digits.
-/

namespace AtaVolume.Text

/-- The value of a digit of base 10 or 16, in either case. -/
def digitValue? (base : Nat) (c : Char) : Option Nat :=
  let v :=
    if '0' ≤ c ∧ c ≤ '9' then c.toNat - '0'.toNat
    else if 'a' ≤ c ∧ c ≤ 'f' then c.toNat - 'a'.toNat + 10
    else if 'A' ≤ c ∧ c ≤ 'F' then c.toNat - 'A'.toNat + 10
    else base
  if v < base then some v else none

/-- The number that the digits write, continuing from `acc`. -/
def readDigits (base : Nat) : Nat → List Char → Option Nat
  | acc, [] => some acc
  | acc, c :: cs =>
    match digitValue? base c with
    | some d => readDigits base (acc * base + d) cs
    | none => none

/-- One or more digits. -/
def readNatural (base : Nat) : List Char → Option Nat
  | [] => none
  | cs => readDigits base 0 cs

/-- One or more digits after at most one `+`, with a value below `bound`. -/
def readUnsigned (base bound : Nat) (cs : List Char) : Option Nat :=
  let digits := match cs with
    | '+' :: rest => rest
    | _ => cs
  (readNatural base digits).filter (· < bound)

/-- A number from 0 to 255 in decimal. -/
def readByte (cs : List Char) : Option UInt8 :=
  (readUnsigned 10 UInt8.size cs).map UInt8.ofNat

/-- A number from 0 to 2³² − 1 in decimal. -/
def readWord (cs : List Char) : Option UInt32 :=
  (readUnsigned 10 UInt32.size cs).map UInt32.ofNat

/-- Every character is an ASCII digit. -/
def allDigits (cs : List Char) : Bool := cs.all Char.isDigit

/-- `cs` behind as many copies of `pad` as bring it to length `width`. -/
def padLeft (pad : Char) (width : Nat) (cs : List Char) : List Char :=
  List.replicate (width - cs.length) pad ++ cs

/-- `cs` before as many copies of `pad` as bring it to length `width`. -/
def padRight (pad : Char) (width : Nat) (cs : List Char) : List Char :=
  cs ++ List.replicate (width - cs.length) pad

/-- The digits of `n` in base 16, at least `width` of them. -/
def hexDigits (width n : Nat) : List Char := padLeft '0' width (Nat.toDigits 16 n)

/-- `n` in base 16 with at least `width` digits. -/
def hex (width n : Nat) : String := String.ofList (hexDigits width n)

/-- `n` in base 16 behind `0x`, with at least `width` digits. -/
def hexMarked (width n : Nat) : String := "0x" ++ hex width n

/-- `n` in decimal, right aligned in `width` columns. -/
def decimalRight (width n : Nat) : String :=
  String.ofList (padLeft ' ' width (toString n).toList)

end AtaVolume.Text
