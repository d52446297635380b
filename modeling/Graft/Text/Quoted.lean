import Graft.Text.Printable

/-!
# Quoted text

How a message quotes a text: between double quotes, with a backslash before quotes and backslashes,
short escapes for the usual controls, and the code point in hexadecimal for everything else that is
not printable. A quoted text therefore fits on one line.
-/

namespace Graft.Text

/-- A code point in hexadecimal, between braces and after a backslash and `u`. -/
def escapeCodePoint (c : Char) : Text :=
  ['\\', 'u', '\x7b'] ++ Nat.toDigits 16 c.toNat ++ ['\x7d']

/-- What stands for a character inside quotes. -/
def escapeChar (c : Char) : Text :=
  if c = '\x00' then ['\\', '0']
  else if c = '\t' then ['\\', 't']
  else if c = '\r' then ['\\', 'r']
  else if c = '\n' then ['\\', 'n']
  else if c = '"' then ['\\', '"']
  else if c = '\\' then ['\\', '\\']
  else if isPrintable c then [c]
  else escapeCodePoint c

/-- What stands between the quotes. -/
def escape (t : Text) : Text :=
  t.flatMap escapeChar

/-- A text between double quotes, on one line. -/
def quoted (t : Text) : String :=
  String.ofList ('"' :: escape t ++ ['"'])

end Graft.Text
