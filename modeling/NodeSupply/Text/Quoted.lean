import NodeSupply.Text.Graphic

/-!
# Quoted text

Text between double quotes in which every character is visible: the quote, the backslash and the
usual controls have a two-character escape, and a character that does not show as itself is
written `\u{…}` with its code point in lowercase hexadecimal.

## Main definitions

* `Text.quote` : text in quoted form.
-/

namespace NodeSupply.Text

/-- The quoted form of one character. -/
def quoteChar (c : Char) : List Char :=
  if c = '\x00' then ['\\', '0']
  else if c = '\t' then ['\\', 't']
  else if c = '\r' then ['\\', 'r']
  else if c = '\n' then ['\\', 'n']
  else if c = '"' then ['\\', '"']
  else if c = '\\' then ['\\', '\\']
  else if isGraphic c then [c]
  else ['\\', 'u', '\x7b'] ++ Nat.toDigits 16 c.toNat ++ ['\x7d']

/-- Text in quoted form. -/
def quote (s : String) : String :=
  String.ofList (['"'] ++ s.toList.flatMap quoteChar ++ ['"'])

end NodeSupply.Text
