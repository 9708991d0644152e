import NodeSupply.Text.Fields

/-!
# Tables of characters

A table gives a text to each of some characters.  It is made of runs of consecutive characters, and
the texts of a run stand in one string with a space between two.

## Main definitions

* `Table` : the texts of some characters.
* `Table.text?` : the text of a character.
* `Table.char?` : the first character with a text.
-/

namespace NodeSupply.Text

/-- Consecutive characters, by the code points of the first and the last, and their texts. -/
structure Run where
  /-- The code point of the first character. -/
  first : Nat
  /-- The code point of the last character. -/
  last : Nat
  /-- The texts, with a space between two. -/
  joined : String
deriving Repr, DecidableEq

/-- The texts of a run, one by one. -/
def Run.texts (r : Run) : List (List Char) := fields ' ' r.joined.toList

/-- The texts of some characters. -/
abbrev Table := List Run

namespace Table

/-- The text of a character. -/
def text? (t : Table) (c : Char) : Option (List Char) := do
  let run ← List.find? (fun run => run.first ≤ c.toNat && c.toNat ≤ run.last) t
  run.texts[c.toNat - run.first]?

/-- The first character with a text. -/
def char? (t : Table) (text : List Char) : Option Char :=
  t.findSome? fun run => (run.texts.idxOf? text).map fun place => Char.ofNat (run.first + place)

end Table

end NodeSupply.Text
