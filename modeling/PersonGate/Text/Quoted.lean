import PersonGate.Text.Glyph
import PersonGate.Text.Extender
/-!
# Quoted text

A value that a message quotes stands between double quotes. Quote, backslash, line feed, carriage
return, tab and NUL have two-character escapes. Every other character without a glyph, and every
one that would attach to the character before it, is written as its code point in hexadecimal
between braces; the rest, the single quote included, stands for itself.
-/
namespace PersonGate.Text

/-- The lower-case hexadecimal digits of a number, without leading zeros. -/
def hexNumber (n : Nat) : Text := Nat.toDigits 16 n

/-- One character as it stands in a quoted text. -/
def quoteChar (c : Char) : Text :=
  if c = '\x00' then ['\\', '0']
  else if c = '\t' then ['\\', 't']
  else if c = '\n' then ['\\', 'n']
  else if c = '\r' then ['\\', 'r']
  else if c = '"' then ['\\', '"']
  else if c = '\\' then ['\\', '\\']
  else if isExtender c || !hasGlyph c then
    ['\\', 'u', '\x7b'] ++ hexNumber c.toNat ++ ['\x7d']
  else [c]

/-- The text between double quotes, with its escapes. -/
def quote (t : Text) : Text := '"' :: t.flatMap quoteChar ++ ['"']

end PersonGate.Text
