import WebAccess.Text.Hidden

/-!
# Quoted text

A text shown inside a message stands between double quotes, with a backslash before what would be
misread: the quote and the backslash themselves, the short escapes for tab, return, newline and
NUL, and `\u{…}` with the hexadecimal code point for every character that prints no glyph of its
own.
-/

set_option autoImplicit false

namespace WebAccess.Text

/-- The digits of a code point in hexadecimal, lower case and without leading zeros. -/
def hexDigits (n : Nat) : List Char :=
  Nat.toDigits 16 n

/-- One character as it stands inside quotes. -/
def quotedChar (c : Char) : List Char :=
  if c = '\t' then ['\\', 't']
  else if c = '\r' then ['\\', 'r']
  else if c = '\n' then ['\\', 'n']
  else if c = '\\' then ['\\', '\\']
  else if c = '"' then ['\\', '"']
  else if c.toNat = 0 then ['\\', '0']
  else if isHidden c then ['\\', 'u', '\x7b'] ++ hexDigits c.toNat ++ ['\x7d']
  else [c]

/-- The text between double quotes. -/
def quoted (s : String) : String :=
  String.ofList ('"' :: s.toList.flatMap quotedChar ++ ['"'])

end WebAccess.Text
