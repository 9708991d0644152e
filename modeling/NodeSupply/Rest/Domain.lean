import NodeSupply.Text.Direction
import NodeSupply.Text.Fold
import NodeSupply.Text.Joining
import NodeSupply.Text.Punycode

/-!
# Domain names

Names of hosts, made of labels with full stops between them.  A name counts as its folded text.  A
label that is not in ASCII is written in ASCII behind a mark, and a label behind the mark stands for
such a one.

## Main definitions

* `Domain.whole?` : the label that a label stands for.
* `Domain.areLabels` : whether labels make up a name.
* `Domain.labels?` : the labels of a name, in ASCII.
-/

namespace NodeSupply.Domain

/-- What stands in front of a label that is written in ASCII. -/
def asciiMark : List Char := ['x', 'n', '-', '-']

/-- How long a label may be that is to be written in ASCII. -/
def longestEncoded : Nat := 1000

/-- How long a label may be that was written in ASCII, without the mark. -/
def longestDecoded : Nat := 2000

/-- Whether all characters of a label are in ASCII. -/
def isAscii (label : List Char) : Bool := label.all (·.toNat < 0x80)

/-- Whether an ASCII character may not stand in a name. -/
def isForbidden (c : Char) : Bool :=
  c.toNat ≤ 0x20 || c.toNat == 0x7f
    || ['%', '#', '/', ':', '<', '>', '?', '@', '[', '\\', ']', '^', '|'].contains c

/-- The label that a label behind the mark stands for: one that is not in ASCII, and that folding
does not change. -/
def unmarked? (digits : List Char) : Option (List Char) := do
  if digits.isEmpty || digits.getLast? == some '-' || longestDecoded < digits.length
      || !isAscii digits then none
  let whole ← Punycode.decode? digits
  if isAscii whole || Text.fold? whole != some whole then none
  else some whole

/-- The label that a folded label stands for. -/
def whole? (label : List Char) : Option (List Char) :=
  if asciiMark.isPrefixOf label then unmarked? (label.drop asciiMark.length) else some label

/-- Whether a label may stand in a name: no character of it is forbidden, it does not begin with a
mark, and letters are asked to be joined, or not, only where they may be. -/
def isLabel (label : List Char) : Bool :=
  !label.any isForbidden && !label.head?.any Text.isMark && Text.isJoined label

/-- Whether labels make up a name: each may stand in one, and keeps its order if anything is written
from right to left. -/
def areLabels (labels : List (List Char)) : Bool :=
  labels.all isLabel && (labels.all Text.isDirected || !labels.any (·.any Text.isRightToLeft))

/-- A label in ASCII. -/
def encode? (label : List Char) : Option (List Char) :=
  if isAscii label then some label
  else if longestEncoded < label.length then none
  else some (asciiMark ++ Punycode.encode label)

/-- The labels of a name, in ASCII. -/
def labels? (name : List Char) : Option (List (List Char)) := do
  let labels := Text.fields '.' (← Text.fold? name)
  let whole ← labels.mapM whole?
  if areLabels whole then labels.mapM encode? else none

end NodeSupply.Domain
