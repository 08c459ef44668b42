import AccessControl.Text.Invisible

/-!
# Quoted texts

A text in a diagnostic stands in double quotes.  Quotes and backslashes are escaped, the common
controls have escapes of their own, and every other character without a shape is written as its
code point in hexadecimal digits.
-/

namespace AccessControl.Text

/-- The hexadecimal digits of a number in lower case, without leading zeros. -/
def hexDigits (n : Nat) : List Char :=
  Nat.toDigits 16 n

/-- How a character stands in a quoted text. -/
def escapeChar (c : Char) : List Char :=
  if c = '"' then ['\\', '"']
  else if c = '\\' then ['\\', '\\']
  else if c = '\n' then ['\\', 'n']
  else if c = '\r' then ['\\', 'r']
  else if c = '\t' then ['\\', 't']
  else if c = '\x00' then ['\\', '0']
  else if isInvisible c then ['\\', 'u', '\x7b'] ++ hexDigits c.toNat ++ ['\x7d']
  else [c]

/-- The text in double quotes. -/
def quoted (text : String) : String :=
  String.ofList ('"' :: (text.toList.flatMap escapeChar ++ ['"']))

example : quoted "a\"b\u0301\u200b'" = "\"a\\\"b\\u\x7b301\x7d\\u\x7b200b\x7d'\"" := by decide +kernel

end AccessControl.Text
