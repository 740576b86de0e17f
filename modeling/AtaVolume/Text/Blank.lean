/-
AtaVolume.Text.Blank — blank characters, and what is cut at them.

Two classes are in use. A text is trimmed of all Unicode white space
(`isBlank`), and is cut into words at ASCII blanks only (`isAsciiBlank`), so
that a no-break space inside a word stays part of it. The vertical tab is in
the first class and not in the second.
-/

namespace AtaVolume.Text

/-- The Unicode property White_Space. -/
def isBlank (c : Char) : Bool :=
  let n := c.toNat
  (0x09 ≤ n && n ≤ 0x0D) || n == 0x20 || n == 0x85 || n == 0xA0 || n == 0x1680
    || (0x2000 ≤ n && n ≤ 0x200A) || n == 0x2028 || n == 0x2029 || n == 0x202F
    || n == 0x205F || n == 0x3000

/-- Space, tab, line feed, form feed or carriage return. -/
def isAsciiBlank (c : Char) : Bool :=
  c == ' ' || c == '\t' || c == '\n' || c == '\x0c' || c == '\r'

/-- The text without blanks at either end. -/
def trim (cs : List Char) : List Char :=
  ((cs.dropWhile isBlank).reverse.dropWhile isBlank).reverse

/-- The maximal runs of characters that are no ASCII blanks, in order. -/
def words : List Char → List (List Char)
  | [] => []
  | c :: cs =>
    if isAsciiBlank c then words cs
    else match cs with
      | [] => [[c]]
      | d :: _ =>
        if isAsciiBlank d then [c] :: words cs
        else match words cs with
          | w :: ws => (c :: w) :: ws
          | [] => [[c]]

end AtaVolume.Text
