import DocQuery.Text.Unprintable

/-!
# Quoted display of a string

Plans and store queries show a string between double quotes. The quote, the backslash and the
common controls have short escapes, every other character without a shape is shown as a braced
hexadecimal number, and all else stands for itself.
-/

namespace DocQuery.Text

def escapeChar (c : Char) : List Char :=
  if c = '"' then ['\\', '"']
  else if c = '\\' then ['\\', '\\']
  else if c = '\n' then ['\\', 'n']
  else if c = '\r' then ['\\', 'r']
  else if c = '\t' then ['\\', 't']
  else if c.toNat = 0 then ['\\', '0']
  else if isUnprintable c then
    ['\\', 'u', '\x7b'] ++ Nat.toDigits 16 c.toNat ++ ['\x7d']
  else [c]

def quoted (s : String) : String :=
  String.ofList ('"' :: s.toList.flatMap escapeChar ++ ['"'])

end DocQuery.Text
