/-!
# Binary floating-point numbers of 64 bits

A number is its bit pattern: a sign, eleven bits of exponent and fifty-two of fraction.  Sums and
products are computed exactly on `m * 2 ^ e` and rounded once, to the nearest representable number
and to an even significand when two are equally near.  The total order ranks every pattern: the
negative ones below the positive ones, `-0` below `0`, and not-a-number beyond the infinities.

## Main definitions

* `Binary64.rank`, `Binary64.compare` : the total order.
* `Binary64.ofNat`, `Binary64.ofScaled`, `Binary64.ofDecimal` : the nearest number to a value.
* `Binary64.add`, `Binary64.mul` : rounded sum and product.

## Main statements

* `Binary64.rank_injective` : the total order tells any two patterns apart.
-/

namespace NodeSupply

/-- A floating-point number, as its bit pattern. -/
structure Binary64 where
  /-- Sign, exponent and fraction, from the highest bit down. -/
  bits : UInt64
deriving Repr, DecidableEq

namespace Binary64

instance : Inhabited Binary64 := ⟨⟨0⟩⟩

/-- The value of the sign bit in a pattern. -/
def signPlace : Nat := 0x8000000000000000

/-- The value of the lowest bit of the exponent in a pattern, which is the leading bit of a normal
significand. -/
def exponentPlace : Nat := 0x10000000000000

/-- The bits below the sign. -/
def magnitude (x : Binary64) : Nat := x.bits.toNat % signPlace

/-- Whether the sign bit is set. -/
def negative (x : Binary64) : Bool := signPlace ≤ x.bits.toNat

/-! ### The total order -/

/-- The place of a number in the total order. -/
def rank (x : Binary64) : Int :=
  if x.negative then -1 - (x.magnitude : Int) else x.magnitude

/-- Compares two numbers by the total order. -/
def compare (x y : Binary64) : Ordering := Ord.compare x.rank y.rank

theorem rank_injective {x y : Binary64} (h : x.rank = y.rank) : x = y := by
  have hx := x.bits.toNat_lt
  have hy := y.bits.toNat_lt
  have bits : x.bits.toNat = y.bits.toNat := by
    by_cases sx : 0x8000000000000000 ≤ x.bits.toNat <;>
      by_cases sy : 0x8000000000000000 ≤ y.bits.toNat <;>
      simp only [rank, negative, magnitude, signPlace, sx, sy, decide_true, decide_false,
        Bool.false_eq_true, if_true, if_false] at h <;>
      omega
  cases x; cases y
  exact congrArg Binary64.mk (UInt64.toNat_inj.1 bits)

/-! ### The numbers that a pattern stands for -/

/-- What a pattern stands for. -/
inductive Kind where
  /-- No number. -/
  | notANumber
  /-- An infinity with its sign. -/
  | infinite (negative : Bool)
  /-- The number `significand * 2 ^ exponent` with its sign. -/
  | finite (negative : Bool) (significand : Nat) (exponent : Int)
deriving Repr, DecidableEq

/-- What a pattern stands for. -/
def kind (x : Binary64) : Kind :=
  let fraction : Nat := x.magnitude % exponentPlace
  let exponent : Nat := x.magnitude / exponentPlace
  if exponent = 2047 then
    if fraction = 0 then .infinite x.negative else .notANumber
  else if exponent = 0 then .finite x.negative fraction (-1074)
  else .finite x.negative (exponentPlace + fraction) ((exponent : Int) - 1075)

/-- The pattern with a sign and the bits below it. -/
def ofMagnitude (negative : Bool) (magnitude : Nat) : Binary64 :=
  ⟨UInt64.ofNat (magnitude + if negative then signPlace else 0)⟩

/-- The bits of infinity, below the sign. -/
def infinityMagnitude : Nat := 2047 * exponentPlace

/-- An infinity. -/
def infinity (negative : Bool) : Binary64 := ofMagnitude negative infinityMagnitude

/-- The answer of an operation that has no value. -/
def undefined : Binary64 := ⟨0xfff8000000000000⟩

/-- A pattern that stands for no number, with its quiet bit set. -/
def quieted (x : Binary64) : Binary64 := ⟨x.bits ||| 0x0008000000000000⟩

/-- The first of two operands that stands for no number, quieted. -/
def propagate (x y : Binary64) : Binary64 :=
  if x.kind = .notANumber then x.quieted else y.quieted

/-! ### Rounding -/

/-- The quotient `n / d` rounded to the nearest whole number, a half to the even one. -/
def roundDiv (n d : Nat) : Nat :=
  let q := n / d
  let r := n % d
  if 2 * r < d ∨ (2 * r = d ∧ q % 2 = 0) then q else q + 1

/-- The number with significand `r`, at most `2 ^ 53`, and exponent `q`, at least `-1074`; beyond
the greatest finite number it is infinity. -/
def pack (negative : Bool) (r : Nat) (q : Int) : Binary64 :=
  ofMagnitude negative (min infinityMagnitude ((q + 1074).toNat * exponentPlace + r))

/-- The nearest number to `m * 2 ^ e`. -/
def ofScaled (negative : Bool) (m : Nat) (e : Int) : Binary64 :=
  if m = 0 then ofMagnitude negative 0
  else
    let q := max (e + m.log2 - 52) (-1074)
    if q ≤ e then pack negative (m * Nat.pow 2 (e - q).toNat) q
    else pack negative (roundDiv m (Nat.pow 2 (q - e).toNat)) q

/-- The nearest number to a natural number. -/
def ofNat (n : Nat) : Binary64 := ofScaled false n 0

/-- The nearest number to `digits / 10 ^ places`. -/
def ofDecimal (digits places : Nat) : Binary64 :=
  if digits = 0 then ofMagnitude false 0
  else
    let ten := Nat.pow 10 places
    let guess : Int := (digits.log2 : Int) - ten.log2 - 53
    let shift (q : Int) : Nat := roundDiv (digits * Nat.pow 2 (-q).toNat) (ten * Nat.pow 2 q.toNat)
    let q := if shift guess ≤ 2 * exponentPlace then guess else guess + 1
    pack false (shift q) q

/-! ### Arithmetic -/

/-- The rounded product of two numbers. -/
def mul (x y : Binary64) : Binary64 :=
  match x.kind, y.kind with
  | .notANumber, _ | _, .notANumber => propagate x y
  | .infinite s, .infinite t => infinity (s != t)
  | .infinite s, .finite t m _ => if m = 0 then undefined else infinity (s != t)
  | .finite s m _, .infinite t => if m = 0 then undefined else infinity (s != t)
  | .finite s m e, .finite t n f => ofScaled (s != t) (m * n) (e + f)

/-- A natural number with a sign. -/
def signed (negative : Bool) (n : Nat) : Int := if negative then -(n : Int) else n

/-- The rounded sum of two numbers.  A sum of zero is negative only if both operands are. -/
def add (x y : Binary64) : Binary64 :=
  match x.kind, y.kind with
  | .notANumber, _ | _, .notANumber => propagate x y
  | .infinite s, .infinite t => if s = t then infinity s else undefined
  | .infinite s, .finite .. => infinity s
  | .finite .., .infinite t => infinity t
  | .finite s m e, .finite t n f =>
    let low := min e f
    let sum := signed s (m * Nat.pow 2 (e - low).toNat) + signed t (n * Nat.pow 2 (f - low).toNat)
    if sum = 0 then ofMagnitude (s && t) 0 else ofScaled (sum < 0) sum.natAbs low

instance : Add Binary64 := ⟨add⟩
instance : Mul Binary64 := ⟨mul⟩

/-! ### Fixed-point text -/

/-- Text of a number with four decimal places, rounded to the nearest such decimal and to an even
last digit when two are equally near. -/
def fourPlaces (x : Binary64) : String :=
  match x.kind with
  | .notANumber => "NaN"
  | .infinite s => if s then "-inf" else "inf"
  | .finite s m e =>
    let units := roundDiv (m * 10000 * Nat.pow 2 e.toNat) (Nat.pow 2 (-e).toNat)
    let places := String.ofList ((Nat.toDigits 10 (units % 10000 + 10000)).drop 1)
    (if s then "-" else "") ++ (units / 10000).repr ++ "." ++ places

end Binary64

end NodeSupply
