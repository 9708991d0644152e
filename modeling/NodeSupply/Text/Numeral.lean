/-!
# Decimal numerals

Numbers are written without leading zeros and read from a nonempty run of ASCII digits, where
leading zeros are allowed.  Main statements: reading a written number gives it back
(`read?_write`), so different numbers are written differently (`write_injective`).

## Main definitions

* `Numeral.write`, `Numeral.text` : the decimal digits of a number.
* `Numeral.read?`, `Numeral.readBelow?` : the number that a run of digits stands for.
* `Numeral.readRadix?`, `Numeral.writeHex` : numbers in other bases.
-/

namespace NodeSupply.Numeral

/-- The decimal digits of a number, without leading zeros. -/
def write (n : Nat) : List Char := Nat.toDigits 10 n

/-- A number in decimal, as a string. -/
def text (n : Nat) : String := String.ofList (write n)

/-- The value of a nonempty run of ASCII digits. -/
def read? (cs : List Char) : Option Nat :=
  if cs.isEmpty || !cs.all Char.isDigit then none else some (Nat.ofDigitChars 10 cs 0)

/-- The value of a nonempty run of ASCII digits, if it is below `bound`. -/
def readBelow? (bound : Nat) (cs : List Char) : Option Nat :=
  (read? cs).filter (· < bound)

/-- As `readBelow?`, and one plus sign may stand before the digits. -/
def readSignedBelow? (bound : Nat) : List Char → Option Nat
  | '+' :: cs => readBelow? bound cs
  | cs => readBelow? bound cs

/-! ### Other bases -/

/-- The value of a hexadecimal digit. -/
def hexDigit? (c : Char) : Option Nat :=
  if c.isDigit then some (c.toNat - 0x30)
  else if 'a' ≤ c ∧ c ≤ 'f' then some (c.toNat - 0x57)
  else if 'A' ≤ c ∧ c ≤ 'F' then some (c.toNat - 0x37)
  else none

/-- The value of a nonempty run of digits in some base, at most sixteen. -/
def readRadix? (radix : Nat) (cs : List Char) : Option Nat := do
  let digits ← cs.mapM hexDigit?
  if digits.isEmpty || digits.any (radix ≤ ·) then none
  else some (digits.foldl (fun n d => n * radix + d) 0)

/-- The hexadecimal digits of a number, without leading zeros. -/
def writeHex (n : Nat) : List Char := Nat.toDigits 16 n

/-! ### Laws -/

theorem write_ne_nil (n : Nat) : write n ≠ [] := Nat.toDigits_ne_nil

theorem isDigit_of_mem_write {n : Nat} {c : Char} (h : c ∈ write n) : c.isDigit :=
  Nat.isDigit_of_mem_toDigits (by decide) (by decide) h

/-- Reading a written number gives it back. -/
@[simp] theorem read?_write (n : Nat) : read? (write n) = some n := by
  have digits : (write n).all Char.isDigit = true :=
    List.all_eq_true.2 fun _ h => isDigit_of_mem_write h
  have nonempty : (write n).isEmpty = false := List.isEmpty_eq_false_iff.2 (write_ne_nil n)
  have value : Nat.ofDigitChars 10 (write n) 0 = n := Nat.ofDigitChars_ten_toDigits
  rw [read?, nonempty, digits, value]
  rfl

/-- Numbers with the same digits are the same. -/
theorem write_injective : Function.Injective write := fun n k h =>
  Option.some.inj (by rw [← read?_write n, h, read?_write])

@[simp] theorem readBelow?_write {bound n : Nat} (h : n < bound) :
    readBelow? bound (write n) = some n := by
  simp [readBelow?, h]

/-- No sign stands before a written number. -/
@[simp] theorem readSignedBelow?_write {bound n : Nat} (h : n < bound) :
    readSignedBelow? bound (write n) = some n := by
  rw [readSignedBelow?, readBelow?_write h]
  intro cs hcs
  have hdigit : '+'.isDigit = true := isDigit_of_mem_write (hcs ▸ List.mem_cons_self)
  exact absurd hdigit (by decide)

end NodeSupply.Numeral
