import NodeSupply.Text.Canonical.Parts
import NodeSupply.Text.Mark

/-!
# Canonical form

Text is equivalent to the text in which each character is taken apart into letters and marks, and
the marks of a letter are ordered by their combining classes.  Its canonical form is that text, put
together again as far as can be.  Main statement: ordering marks loses and adds none
(`order_perm`).

## Main definitions

* `Text.parts` : a character taken apart.
* `Text.order` : text with its marks in order.
* `Text.join?` : two characters put together.
* `Text.canonical` : the canonical form of text.
-/

namespace NodeSupply.Text

/-! ### Hangul -/

/-- The letters of a syllable of Hangul: a leading consonant, a vowel and perhaps a final
consonant.  The syllables are ordered by these, with 21 vowels and 28 finals, none being the
first. -/
def syllableParts? (c : Char) : Option (List Char) :=
  if c.toNat < 0xac00 || 0xd7a3 < c.toNat then none
  else
    let place := c.toNat - 0xac00
    let open_ := [Char.ofNat (0x1100 + place / 588), Char.ofNat (0x1161 + place % 588 / 28)]
    some (if place % 28 = 0 then open_ else open_ ++ [Char.ofNat (0x11a7 + place % 28)])

/-- The syllable of Hangul that a consonant and a vowel are, or a syllable without a final consonant
and one. -/
def syllable? (a b : Char) : Option Char :=
  if 0x1100 ≤ a.toNat && a.toNat < 0x1113 && 0x1161 ≤ b.toNat && b.toNat < 0x1176 then
    some (Char.ofNat (0xac00 + (a.toNat - 0x1100) * 588 + (b.toNat - 0x1161) * 28))
  else if 0xac00 ≤ a.toNat && a.toNat ≤ 0xd7a3 && (a.toNat - 0xac00) % 28 == 0
      && 0x11a7 < b.toNat && b.toNat < 0x11c3 then
    some (Char.ofNat (a.toNat + (b.toNat - 0x11a7)))
  else none

/-! ### Taking apart and putting together -/

/-- A character taken apart as far as can be. -/
def parts (c : Char) : List Char :=
  if c.toNat < 0xc0 then [c]
  else (((syllableParts? c).or (composites.text? c)).or (unjoined.text? c)).getD [c]

/-- A character in front of ordered text, moved behind the marks of lower classes. -/
def place (c : Char) : List Char → List Char
  | [] => [c]
  | d :: rest =>
    if 0 < combiningClass d ∧ combiningClass d < combiningClass c then d :: place c rest
    else c :: d :: rest

/-- Text with the marks of each letter ordered by their combining classes; those of one class keep
their order. -/
def order (cs : List Char) : List Char := cs.foldr place []

/-- Two characters put together.  No character ends in a part below U+0300. -/
def join? (a b : Char) : Option Char :=
  if b.toNat < 0x300 then none
  else (syllable? a b).or (composites.char? (parts a ++ [b]))

/-- A letter put together with what follows it; `marks` are those already passed over, the last one
first.  A character is put together with the letter unless a mark of its own or a higher class, or
any mark if it is of none, stands between them. -/
def joinFrom (letter : Char) (marks : List Char) : List Char → List Char
  | [] => letter :: marks.reverse
  | c :: rest =>
    let isBlocked := marks.head?.any fun mark => combiningClass c ≤ combiningClass mark
    match if isBlocked then none else join? letter c with
    | some whole => joinFrom whole marks rest
    | none =>
      if combiningClass c = 0 then letter :: marks.reverse ++ joinFrom c [] rest
      else joinFrom letter (c :: marks) rest

/-- The canonical form of text. -/
def canonical (cs : List Char) : List Char :=
  match order (cs.flatMap parts) with
  | [] => []
  | c :: rest => joinFrom c [] rest

/-! ### Order -/

theorem place_perm (c : Char) (cs : List Char) : (place c cs).Perm (c :: cs) := by
  induction cs with
  | nil => exact .refl _
  | cons d rest ih =>
    rw [place]
    split
    · exact (ih.cons d).trans (.swap c d rest)
    · exact .refl _

/-- Ordering marks loses and adds none. -/
theorem order_perm (cs : List Char) : (order cs).Perm cs := by
  induction cs with
  | nil => exact .refl _
  | cons c cs ih => exact (place_perm c (order cs)).trans (ih.cons c)

/-- Marks are written in the order of their classes. -/
example : order ['q', '\u0307', '\u0323'] = ['q', '\u0323', '\u0307'] := by decide +kernel

end NodeSupply.Text
