/-
AtaVolume.Text.Quoted — a text between double quotes.

A quote, a backslash and the usual control characters are written with a
backslash, every other invisible character by its number; all else stands
for itself.
-/
import AtaVolume.Text.Invisible
import AtaVolume.Text.Numeral

namespace AtaVolume.Text

/-- How a character is written between quotes. -/
def escape (c : Char) : List Char :=
  if c = '\x00' then ['\\', '0']
  else if c = '\t' then ['\\', 't']
  else if c = '\n' then ['\\', 'n']
  else if c = '\r' then ['\\', 'r']
  else if c = '\\' then ['\\', '\\']
  else if c = '"' then ['\\', '"']
  else if isInvisible c then ['\\', 'u', '{'] ++ hexDigits 1 c.toNat ++ ['}']
  else [c]

/-- The text between quotes. -/
def quoted (s : String) : String :=
  String.ofList ('"' :: s.toList.flatMap escape ++ ['"'])

end AtaVolume.Text
