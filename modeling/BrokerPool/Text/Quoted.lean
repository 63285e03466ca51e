import BrokerPool.Text.Classes

/-!
# Quoted text

Diagnostic output puts a text between double quotes and escapes what could not be read off the
page: the quote, the backslash, the controls with a letter of their own, and by its code point every
other character that is not printable or is drawn on the one before it.
-/

namespace BrokerPool.Text.Quoted

/-- The lower-case hexadecimal digits of a number. -/
def hexDigits (n : Nat) : List Char := Nat.toDigits 16 n

/-- How a character stands inside quotes. -/
def escape (c : Char) : List Char :=
  if c = '\x00' then ['\\', '0']
  else if c = '\t' then ['\\', 't']
  else if c = '\r' then ['\\', 'r']
  else if c = '\n' then ['\\', 'n']
  else if c = '"' then ['\\', '"']
  else if c = '\\' then ['\\', '\\']
  else if isExtender c || !isPrintable c then '\\' :: 'u' :: '{' :: hexDigits c.toNat ++ ['}']
  else [c]

/-- A text between double quotes. -/
def quote (s : String) : String :=
  String.ofList ('"' :: s.toList.flatMap escape ++ ['"'])

end BrokerPool.Text.Quoted
