import NodeSupply.Binary64

/-!
# Instance shapes

What a node is made of: a hardware platform, the guaranteed share of each core, a number of
virtual cores and an amount of memory.

## Main definitions

* `CoreFraction` : a share of a core from 1 to 100 percent.
* `Shape` : a purchasable shape, ordered by platform, core fraction, cores and memory.
-/

namespace NodeSupply

/-- The guaranteed share of a core, in percent. -/
structure CoreFraction where
  /-- The share in percent. -/
  percent : Nat
  /-- The share is neither nothing nor more than the whole core. -/
  valid : 1 ≤ percent ∧ percent ≤ 100
deriving Repr, DecidableEq

namespace CoreFraction

/-- The share of so many percent, if it is from 1 to 100. -/
def ofPercent? (n : Nat) : Option CoreFraction :=
  if h : 1 ≤ n ∧ n ≤ 100 then some ⟨n, h⟩ else none

/-- The whole core. -/
def full : CoreFraction := ⟨100, by decide⟩

/-- Whether the share is the whole core. -/
def isFull (f : CoreFraction) : Bool := f.percent == 100

theorem ext {f g : CoreFraction} (h : f.percent = g.percent) : f = g := by
  cases f; cases g; cases h; rfl

instance : Ord CoreFraction := ⟨compareOn percent⟩

instance : Std.TransOrd CoreFraction :=
  inferInstanceAs (Std.TransCmp (compareOn percent))

instance : Std.LawfulEqOrd CoreFraction where
  eq_of_compare h := ext (Std.LawfulEqOrd.eq_of_compare h)

end CoreFraction

/-- A purchasable shape. -/
structure Shape where
  /-- The hardware platform. -/
  platform : String
  /-- The guaranteed share of each core. -/
  fraction : CoreFraction
  /-- The number of virtual cores. -/
  cpu : UInt32
  /-- The memory in MiB. -/
  memoryMib : UInt64
deriving Repr, DecidableEq

namespace Shape

/-- Compares shapes by platform, then core fraction, cores and memory. -/
@[reducible] def order : Shape → Shape → Ordering :=
  compareLex (compareOn platform) <| compareLex (compareOn fraction) <|
    compareLex (compareOn cpu) (compareOn memoryMib)

instance : Ord Shape := ⟨order⟩

instance : Std.TransOrd Shape := inferInstanceAs (Std.TransCmp order)

instance : Std.LawfulEqOrd Shape where
  eq_of_compare {a b} h := by
    obtain ⟨hp, h⟩ := Ordering.then_eq_eq.1 h
    obtain ⟨hf, h⟩ := Ordering.then_eq_eq.1 h
    obtain ⟨hc, hm⟩ := Ordering.then_eq_eq.1 h
    have hp : a.platform = b.platform := Std.LawfulEqOrd.eq_of_compare hp
    have hf : a.fraction = b.fraction := Std.LawfulEqOrd.eq_of_compare hf
    have hc : a.cpu = b.cpu := Std.LawfulEqOrd.eq_of_compare hc
    have hm : a.memoryMib = b.memoryMib := Std.LawfulEqOrd.eq_of_compare hm
    cases a; cases b; simp_all

/-- The memory in GiB. -/
def memoryGib (s : Shape) : Binary64 := Binary64.ofScaled false s.memoryMib.toNat (-10)

end Shape

end NodeSupply
