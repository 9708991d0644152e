import NodeSupply.Text.Canonical
import NodeSupply.Text.Fold.Forms
import NodeSupply.Text.Lowercase

/-!
# Folded text

Text in which what counts as the same is written the same: in lower case, with the plain forms of
letters, digits and signs, without the characters that count for nothing, and in canonical form.
Some characters cannot be folded.

## Main definitions

* `Text.foldChar?` : what a character counts as.
* `Text.fold?` : folded text.
-/

namespace NodeSupply.Text

/-- The code points that count for nothing. -/
def ignoredRanges : List (Nat × Nat) :=
  [(0xad, 0xad), (0x34f, 0x34f), (0x115f, 0x1160), (0x17b4, 0x17b5), (0x180b, 0x180f),
   (0x200b, 0x200b), (0x2060, 0x2064), (0x206a, 0x206f), (0x3164, 0x3164), (0xfe00, 0xfe0f),
   (0xfeff, 0xfeff), (0xffa0, 0xffa0), (0x1bca0, 0x1bca3), (0x1d173, 0x1d17a), (0xe0100, 0xe01ef)]

/-- The code points that cannot be folded, besides those that show as nothing: those that count as
text with a space or a full stop in it, the signs that describe how an ideograph is composed, and
the signs that stand for something else. -/
def refusedRanges : List (Nat × Nat) :=
  [(0xa8, 0xa8), (0xaf, 0xaf), (0xb4, 0xb4), (0xb8, 0xb8), (0x2d8, 0x2dd), (0x37a, 0x37a),
   (0x384, 0x384), (0x1fbd, 0x1fbd), (0x1fbf, 0x1fc0), (0x1ffe, 0x1ffe), (0x2017, 0x2017),
   (0x2024, 0x2026), (0x203e, 0x203e), (0x2488, 0x249b), (0x2ff0, 0x2fff), (0x309b, 0x309c),
   (0x31ef, 0x31ef), (0x33c2, 0x33c2), (0x33c7, 0x33c7), (0x33d8, 0x33d8), (0xfc5e, 0xfc63),
   (0xfdfa, 0xfdfb), (0xfe12, 0xfe12), (0xfe19, 0xfe19), (0xfe30, 0xfe30), (0xfe49, 0xfe4c),
   (0xfe52, 0xfe52), (0xfe70, 0xfe70), (0xfe72, 0xfe72), (0xfe74, 0xfe74), (0xfe76, 0xfe76),
   (0xfe78, 0xfe78), (0xfe7a, 0xfe7a), (0xfe7c, 0xfe7c), (0xfe7e, 0xfe7e), (0xffe3, 0xffe3),
   (0xfffc, 0xfffd), (0x1f100, 0x1f100)]

/-- Whether a character asks its neighbours to be joined or not to be. -/
def isJoiner (c : Char) : Bool := c == '\u200c' || c == '\u200d'

/-- Whether a character cannot be folded. -/
def isRefused (c : Char) : Bool :=
  !isJoiner c && (inRanges hiddenRanges c.toNat || inRanges refusedRanges c.toNat)

/-- What a character that cannot be taken apart counts as. -/
def foldPart? (c : Char) : Option (List Char) :=
  if isRefused c then none else some ((forms.text? c).getD (lowerChar c))

/-- What a character counts as.  In ASCII that is its lower case. -/
def foldChar? (c : Char) : Option (List Char) :=
  if c.toNat < 0x80 then some [c.toLower]
  else if inRanges ignoredRanges c.toNat then some []
  else ((parts c).mapM foldPart?).map List.flatten

/-- Folded text, if all of it can be folded. -/
def fold? (cs : List Char) : Option (List Char) := (cs.mapM foldChar?).map (canonical ·.flatten)

end NodeSupply.Text
