/-!
# Saturating arithmetic

Sums, products and differences of 64-bit words that stop at the greatest word and at zero instead
of wrapping.

## Main statements

* `Saturating.toNat_add`, `Saturating.toNat_mul`, `Saturating.toNat_sub` : the same operations on
  natural numbers, cut off at the greatest word.
-/

namespace NodeSupply.Saturating

/-- The greatest word. -/
def greatest : Nat := 0xffffffffffffffff

/-- A natural number as a word, the greatest word where it does not fit. -/
def clamp (n : Nat) : UInt64 := UInt64.ofNat (min n greatest)

@[simp] theorem toNat_clamp (n : Nat) : (clamp n).toNat = min n greatest := by
  simp only [clamp, UInt64.toNat_ofNat', greatest]
  omega

@[simp] theorem clamp_toNat (a : UInt64) : clamp a.toNat = a := by
  apply UInt64.toNat_inj.1
  have := a.toNat_lt
  simp only [toNat_clamp, greatest]
  omega

/-- The sum of two words, at most the greatest word. -/
def add (a b : UInt64) : UInt64 := clamp (a.toNat + b.toNat)

/-- The product of two words, at most the greatest word. -/
def mul (a b : UInt64) : UInt64 := clamp (a.toNat * b.toNat)

/-- The difference of two words, at least zero. -/
def sub (a b : UInt64) : UInt64 := clamp (a.toNat - b.toNat)

@[simp] theorem toNat_add (a b : UInt64) : (add a b).toNat = min (a.toNat + b.toNat) greatest :=
  toNat_clamp _

@[simp] theorem toNat_mul (a b : UInt64) : (mul a b).toNat = min (a.toNat * b.toNat) greatest :=
  toNat_clamp _

@[simp] theorem toNat_sub (a b : UInt64) : (sub a b).toNat = a.toNat - b.toNat := by
  have := a.toNat_lt
  simp only [sub, toNat_clamp, greatest]
  omega

end NodeSupply.Saturating
