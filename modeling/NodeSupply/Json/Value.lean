/-!
# JSON values

A value as it stands in a document.  Members keep their order and repetitions.  What a reader can
skip but not use is kept apart: a number that is not a plain whole number is kept as written, and
a string or key whose bytes or escapes form no text makes its value garbled.

## Main definitions

* `Json` : a value.
* `Json.compact` : its text without white space.
-/

namespace NodeSupply

/-- A JSON value. -/
inductive Json where
  /-- The literal `null`. -/
  | null
  /-- One of the two truth values. -/
  | bool (b : Bool)
  /-- A number written as digits, perhaps after a minus sign. -/
  | integer (n : Int)
  /-- Any other number, as written. -/
  | decimal (literal : String)
  /-- A string. -/
  | text (s : String)
  /-- A list of values. -/
  | array (items : List Json)
  /-- Values under keys, in the order of the document. -/
  | object (members : List (String × Json))
  /-- A string, or an object with a key, that forms no text. -/
  | garbled
deriving Repr, Inhabited

namespace Json

/-- The escape of a character in a string, or the character itself. -/
def escapeChar (c : Char) : List Char :=
  if c = '"' then ['\\', '"']
  else if c = '\\' then ['\\', '\\']
  else if c = '\x08' then ['\\', 'b']
  else if c = '\x0c' then ['\\', 'f']
  else if c = '\n' then ['\\', 'n']
  else if c = '\r' then ['\\', 'r']
  else if c = '\t' then ['\\', 't']
  else if c.toNat < 0x20 then
    ['\\', 'u', '0', '0', Nat.digitChar (c.toNat / 16), Nat.digitChar (c.toNat % 16)]
  else [c]

/-- A string between quotes, controls, quotes and backslashes escaped. -/
def quoted (s : String) : List Char := ['"'] ++ s.toList.flatMap escapeChar ++ ['"']

/-- Lists of characters with commas between them. -/
def commas (parts : List (List Char)) : List Char := [','].intercalate parts

mutual

/-- The text of a value without white space. -/
def compactChars : Json → List Char
  | null => ['n', 'u', 'l', 'l']
  | bool true => ['t', 'r', 'u', 'e']
  | bool false => ['f', 'a', 'l', 's', 'e']
  | integer n => n.repr.toList
  | decimal literal => literal.toList
  | text s => quoted s
  | array items => ['['] ++ commas (itemsChars items) ++ [']']
  | object members => ['\x7b'] ++ commas (membersChars members) ++ ['\x7d']
  | garbled => ['n', 'u', 'l', 'l']

/-- The texts of the items of a list. -/
def itemsChars : List Json → List (List Char)
  | [] => []
  | item :: items => compactChars item :: itemsChars items

/-- The texts of the members of an object. -/
def membersChars : List (String × Json) → List (List Char)
  | [] => []
  | (key, value) :: members => (quoted key ++ [':'] ++ compactChars value) :: membersChars members

end

/-- The text of a value without white space. -/
def compact (v : Json) : String := String.ofList v.compactChars

end Json

end NodeSupply
