import ObjectLocks.Text.Case
import ObjectLocks.Text.UnprintableTable

/-!
# Quoted text

A text in double quotes as it is shown to a programmer. The quote and the backslash are written
after a backslash, as are the usual control characters under a letter. Every other unprintable
character is written by its number.
-/

namespace ObjectLocks.Text

/-- Whether a character shows itself. -/
def isPrintable (c : Char) : Bool :=
  if c.toNat < 0x80 then 0x20 ≤ c.toNat && c.toNat < 0x7f
  else !inRanges unprintableRanges c.toNat

def escape (c : Char) : List Char :=
  if c = '"' then ['\\', '"']
  else if c = '\\' then ['\\', '\\']
  else if c = '\n' then ['\\', 'n']
  else if c = '\r' then ['\\', 'r']
  else if c = '\t' then ['\\', 't']
  else if c = '\x00' then ['\\', '0']
  else if isPrintable c then [c]
  else ['\\', 'u', '\x7b'] ++ Nat.toDigits 16 c.toNat ++ ['\x7d']

def quoted (s : String) : String :=
  String.ofList (['"'] ++ s.toList.flatMap escape ++ ['"'])

end ObjectLocks.Text
