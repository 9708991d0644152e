/-!
# Punycode

Text in ASCII letters, digits and hyphens.  The ASCII characters come first, as they are; the others
follow behind a last hyphen, from the least code point up, each as the number of code points and
places passed over since the one before.  Such a number is written in base 36, least digit first, and
ends with the first digit below a threshold that moves with the size of the numbers so far.

## Main definitions

* `Punycode.encode` : text in ASCII.
* `Punycode.decode?` : the text that was written so.

## Main statements

* `Punycode.digitValue?_digitChar` : a written digit is read back.
-/

namespace NodeSupply.Punycode

/-! ### Digits -/

/-- The character of a digit: the letters, and then the decimal digits. -/
def digitChar (d : Nat) : Char :=
  if d < 26 then Char.ofNat (d + 'a'.toNat) else Char.ofNat (d - 26 + '0'.toNat)

/-- The digit that a character stands for. -/
def digitValue? (c : Char) : Option Nat :=
  if c.isDigit then some (c.toNat - '0'.toNat + 26)
  else if c.isLower then some (c.toNat - 'a'.toNat)
  else if c.isUpper then some (c.toNat - 'A'.toNat)
  else none

theorem digitValue?_digitChar : ∀ d < 36, digitValue? (digitChar d) = some d := by decide

/-- The threshold for a digit, `place` being 36 times its place counted from one: a digit below it is
the last of its number. -/
def threshold (bias place : Nat) : Nat := max 1 (min 26 (place - bias))

theorem threshold_pos (bias place : Nat) : 0 < threshold bias place := by
  unfold threshold; omega

theorem threshold_le (bias place : Nat) : threshold bias place ≤ 26 := by
  unfold threshold; omega

/-- Divides by 35 while the number is above 455, and counts 36 for each time. -/
def shrink (n count : Nat) : Nat × Nat :=
  if 455 < n then shrink (n / 35) (count + 36) else (n, count)
termination_by n
decreasing_by exact Nat.div_lt_self (by omega) (by omega)

/-- The bias after a number, with so many characters written by then. -/
def adapt (n written : Nat) (first : Bool) : Nat :=
  let n := n / if first then 700 else 2
  let (n, count) := shrink (n + n / written) 0
  count + 36 * n / (n + 38)

/-- The digits of a number from a place on. -/
def numberDigits (bias place n : Nat) : List Char :=
  let t := threshold bias place
  if n < t then [digitChar n]
  else digitChar (t + (n - t) % (36 - t)) :: numberDigits bias (place + 36) ((n - t) / (36 - t))
termination_by n
decreasing_by
  have := threshold_pos bias place
  exact Nat.lt_of_le_of_lt (Nat.div_le_self _ _) (by omega)

/-- What numbers and the weights of digits stay below. -/
def bound : Nat := 0x100000000

/-- The number that digits stand for from a place on, each worth `weight` times more, with what is
counted already; and the digits after it. -/
def readNumber? (bias : Nat) : (place weight n : Nat) → List Char → Option (Nat × List Char)
  | _, _, _, [] => none
  | place, weight, n, c :: cs =>
    match digitValue? c with
    | none => none
    | some d =>
      let t := threshold bias place
      let n := n + d * weight
      if bound ≤ n || bound ≤ weight then none
      else if d < t then some (n, cs)
      else readNumber? bias (place + 36) (weight * (36 - t)) n cs

theorem length_of_readNumber? {bias place weight n : Nat} {cs : List Char} {r : Nat × List Char}
    (h : readNumber? bias place weight n cs = some r) : r.2.length < cs.length := by
  induction cs generalizing place weight n with
  | nil => simp [readNumber?] at h
  | cons c cs ih =>
    rw [readNumber?] at h
    split at h
    · cases h
    · dsimp only at h
      split at h
      · cases h
      · split at h
        · cases h; simp
        · exact Nat.lt_trans (ih h) (by simp)

/-! ### Encoding -/

/-- How far an encoding is. -/
structure Progress where
  /-- The digits so far. -/
  digits : List Char
  /-- What was passed over since the last number. -/
  skipped : Nat
  /-- The bias. -/
  bias : Nat
  /-- The number of characters written. -/
  written : Nat

/-- On over a character of the text, where characters of code point `code` are written now. -/
def Progress.pass (basic code : Nat) (p : Progress) (c : Char) : Progress :=
  if c.toNat < code then { p with skipped := p.skipped + 1 }
  else if c.toNat = code then
    { digits := p.digits ++ numberDigits p.bias 36 p.skipped
      skipped := 0
      bias := adapt p.skipped (p.written + 1) (p.written == basic)
      written := p.written + 1 }
  else p

/-- On over the text once for each of some code points, the first of which come after `low`. -/
def Progress.passAll (text : List Char) (basic : Nat) : (low : Nat) → List Nat → Progress → Progress
  | _, [], p => p
  | low, code :: codes, p =>
    let p := { p with skipped := p.skipped + (code - low) * (p.written + 1) }
    let p := text.foldl (Progress.pass basic code) p
    passAll text basic (code + 1) codes { p with skipped := p.skipped + 1 }

/-- A number in its place among increasing ones, unless it is there. -/
def insertOrdered (n : Nat) : List Nat → List Nat
  | [] => [n]
  | m :: ms => if n < m then n :: m :: ms else if n = m then m :: ms else m :: insertOrdered n ms

/-- Text in ASCII. -/
def encode (text : List Char) : List Char :=
  let basic := text.filter (·.toNat < 0x80)
  let codes := ((text.filter (0x80 ≤ ·.toNat)).map (·.toNat)).foldr insertOrdered []
  let hyphen := if basic.isEmpty then [] else ['-']
  basic ++ hyphen ++ (Progress.passAll text basic.length 0x80 codes ⟨[], 0, 72, basic.length⟩).digits

/-! ### Decoding -/

/-- The text with the characters that the rest of the digits stand for put in. -/
def decodeFrom? (bias code place : Nat) (text : List Char) (digits : List Char) :
    Option (List Char) :=
  match digits with
  | [] => some text
  | c :: cs =>
    match _h : readNumber? bias 36 1 place (c :: cs) with
    | none => none
    | some (n, rest) =>
      let written := text.length + 1
      let code := code + n / written
      if code.isValidChar then
        decodeFrom? (adapt (n - place) written (place == 0)) code (n % written + 1)
          (text.insertIdx (n % written) (Char.ofNat code)) rest
      else none
termination_by digits.length
decreasing_by exact length_of_readNumber? _h

/-- The text that was written in ASCII.  A hyphen that nothing stands in front of is no digit. -/
def decode? (cs : List Char) : Option (List Char) :=
  let digits := (cs.reverse.takeWhile (· != '-')).reverse
  match cs.take (cs.length - digits.length - 1) with
  | [] => decodeFrom? 72 0x80 0 [] cs
  | basic => decodeFrom? 72 0x80 0 basic digits

end NodeSupply.Punycode
