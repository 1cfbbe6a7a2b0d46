import TapeLang.Text.PrintableTables

/-!
# Quoted text

A text between double quotes, with a backslash before quotes and backslashes, short escapes for a few controls, and
braced hexadecimal escapes for the other characters that do not print as themselves.
-/

namespace TapeLang.Text

/-- The lower-case hexadecimal digits of `n`. -/
def hexDigits (n : Nat) : List Char :=
  Nat.toDigits 16 n

/-- A character inside quotes. -/
def quotedChar (c : Char) : List Char :=
  if c = '"' then ['\\', '"']
  else if c = '\\' then ['\\', '\\']
  else if c = '\n' then ['\\', 'n']
  else if c = '\r' then ['\\', 'r']
  else if c = '\t' then ['\\', 't']
  else if c = Char.ofNat 0 then ['\\', '0']
  else if (if c.toNat < 128 then 32 ≤ c.toNat && c.toNat < 127 else printable.contains c && !joining.contains c) then
    [c]
  else ['\\', 'u', '\x7b'] ++ hexDigits c.toNat ++ ['\x7d']

/-- A text between double quotes. -/
def quoted (s : String) : String :=
  String.ofList ('"' :: (s.toList.flatMap quotedChar ++ ['"']))

end TapeLang.Text
