import NodeSupply.Offer.Offering
import NodeSupply.Proofs.Sorted

/-!
# Least prices

Prices are compared bit by bit, by the total order of IEEE 754.  The least price of an instance type
is taken over those of its offerings that are available and satisfy a test.

## Main definitions

* `Binary64.Below` : the total order.
* `LeastPrice`, `Unpriced` : the least price of some offerings, and that there is none.

## Main statements

* `Binary64.compare_eq_lt_iff` : numbers are compared by the total order.
* `InstanceType.cheapest?_eq_some_iff`, `InstanceType.cheapest?_eq_none_iff` : what the least price
  of an instance type is, and when there is none.
-/

namespace NodeSupply

/-! ### The total order -/

namespace Binary64

instance : Std.TransCmp compare :=
  inferInstanceAs (Std.TransCmp (compareOn rank))

instance : Std.LawfulEqCmp compare where
  eq_of_compare h := rank_injective (Std.LawfulEqOrd.eq_of_compare h)

/-- A number is below another in the total order of IEEE 754.  The highest bit is the sign, and the
bits below it grow with the magnitude. -/
@[mk_iff]
inductive Below (x y : Binary64) : Prop where
  /-- A negative number is below a positive one. -/
  | signs (negative : 0x8000000000000000 ≤ x.bits.toNat)
      (positive : y.bits.toNat < 0x8000000000000000)
  /-- A positive number is below one of greater magnitude. -/
  | positive (positive : y.bits.toNat < 0x8000000000000000)
      (greater : x.bits.toNat < y.bits.toNat)
  /-- A negative number is below one of lesser magnitude. -/
  | negative (negative : 0x8000000000000000 ≤ y.bits.toNat)
      (lesser : y.bits.toNat < x.bits.toNat)

instance (x y : Binary64) : Decidable (x.Below y) := decidable_of_iff _ (below_iff x y).symm

variable {x y : Binary64}

theorem below_iff_rank_lt : x.Below y ↔ x.rank < y.rank := by
  have hx := x.bits.toNat_lt
  have hy := y.bits.toNat_lt
  rw [below_iff]
  by_cases sx : 0x8000000000000000 ≤ x.bits.toNat <;>
    by_cases sy : 0x8000000000000000 ≤ y.bits.toNat <;>
    simp only [rank, Binary64.negative, magnitude, signPlace, sx, sy, decide_true, decide_false,
      Bool.false_eq_true, if_true, if_false, true_and, false_and, false_or, or_false] <;>
    omega

theorem not_below_self (x : Binary64) : ¬ x.Below x := fun h =>
  Int.lt_irrefl _ (below_iff_rank_lt.1 h)

theorem Below.not_below (h : x.Below y) : ¬ y.Below x := fun h' =>
  Int.lt_asymm (below_iff_rank_lt.1 h) (below_iff_rank_lt.1 h')

theorem compare_eq_lt_iff : x.compare y = .lt ↔ x.Below y := by
  rw [below_iff_rank_lt]
  exact Std.compare_eq_lt

theorem isLE_compare_iff_not_below : (x.compare y).isLE = true ↔ ¬ y.Below x := by
  rw [← compare_eq_lt_iff, ← Std.OrientedCmp.gt_iff_lt]
  exact Ordering.isLE_iff_ne_gt

end Binary64

/-! ### Least prices -/

/-- A price is the least at which some offerings are available. -/
structure LeastPrice (offerings : List Offering) (p : Binary64) : Prop where
  /-- An available offering has the price. -/
  offered : ∃ o ∈ offerings, o.available = true ∧ o.price = some p
  /-- No available offering has one below it. -/
  least : ∀ o ∈ offerings, o.available = true → ∀ q, o.price = some q → ¬ q.Below p

/-- No available offering has a price. -/
def Unpriced (offerings : List Offering) : Prop :=
  ∀ o ∈ offerings, o.available = true → o.price = none

/-- Some of the prices is the least. -/
theorem exists_leastPrice? {prices : List Binary64} (ne : prices ≠ []) :
    ∃ p, leastPrice? prices = some p ∧ p ∈ prices ∧ ∀ q ∈ prices, (p.compare q).isLE = true := by
  refine exists_least Binary64.compare leastPrice? (fun _ => rfl) (fun p q ps hq => ?_) ne
  rw [leastPrice?, hq]
  by_cases hpq : (p.compare q).isLE = true
  · simp [hpq]
  · exact .inr ⟨by simp [hpq], isLE_of_not_isLE _ hpq⟩

section

variable {offerings : List Offering} {p q : Binary64}

theorem LeastPrice.eq (hp : LeastPrice offerings p) (hq : LeastPrice offerings q) : p = q := by
  obtain ⟨o, ho, havailable, hprice⟩ := hp.offered
  obtain ⟨o', ho', havailable', hprice'⟩ := hq.offered
  exact Std.LawfulEqCmp.eq_of_compare (Std.OrientedCmp.isLE_antisymm
    (Binary64.isLE_compare_iff_not_below.2 (hp.least o' ho' havailable' q hprice'))
    (Binary64.isLE_compare_iff_not_below.2 (hq.least o ho havailable p hprice)))

theorem mem_availablePrices_iff :
    p ∈ (offerings.filter (·.available)).filterMap (·.price) ↔
      ∃ o ∈ offerings, o.available = true ∧ o.price = some p := by
  simp [and_assoc]

theorem leastPrice_of_leastPrice?
    (h : leastPrice? ((offerings.filter (·.available)).filterMap (·.price)) = some p) :
    LeastPrice offerings p := by
  have hne : (offerings.filter (·.available)).filterMap (·.price) ≠ [] := fun hnil => by
    rw [hnil] at h
    cases h
  obtain ⟨least, hleast, hmem, hle⟩ := exists_leastPrice? hne
  obtain rfl : least = p := Option.some.inj (hleast.symm.trans h)
  refine ⟨mem_availablePrices_iff.1 hmem, fun o ho havailable q hq => ?_⟩
  exact Binary64.isLE_compare_iff_not_below.1
    (hle q (mem_availablePrices_iff.2 ⟨o, ho, havailable, hq⟩))

theorem leastPrice?_eq_none_iff :
    leastPrice? ((offerings.filter (·.available)).filterMap (·.price)) = none ↔
      Unpriced offerings := by
  have hnil : leastPrice? ((offerings.filter (·.available)).filterMap (·.price)) = none ↔
      (offerings.filter (·.available)).filterMap (·.price) = [] := by
    constructor
    · intro h
      by_contra hne
      obtain ⟨least, hleast, -⟩ := exists_leastPrice? hne
      cases h.symm.trans hleast
    · intro h
      rw [h, leastPrice?]
  rw [hnil, List.filterMap_eq_nil_iff]
  simp only [List.mem_filter, and_imp, Unpriced]

end

namespace InstanceType

variable {t : InstanceType} {accept : Offering → Bool} {p : Binary64}

theorem cheapest?_eq (t : InstanceType) (accept : Offering → Bool) :
    t.cheapest? accept =
      leastPrice? (((t.offerings.filter accept).filter (·.available)).filterMap (·.price)) := by
  rw [cheapest?, List.filter_filter]

/-- The least price of an instance type is that of its offerings that satisfy the test. -/
theorem cheapest?_eq_some_iff :
    t.cheapest? accept = some p ↔ LeastPrice (t.offerings.filter accept) p := by
  rw [cheapest?_eq]
  refine ⟨leastPrice_of_leastPrice?, fun h => ?_⟩
  cases hleast : leastPrice? _ with
  | some q => rw [(leastPrice_of_leastPrice? hleast).eq h]
  | none =>
    obtain ⟨o, ho, havailable, hprice⟩ := h.offered
    cases hprice.symm.trans (leastPrice?_eq_none_iff.1 hleast o ho havailable)

theorem cheapest?_eq_none_iff :
    t.cheapest? accept = none ↔ Unpriced (t.offerings.filter accept) := by
  rw [cheapest?_eq, leastPrice?_eq_none_iff]

/-- There is a least price if some available offering that satisfies the test has a price. -/
theorem exists_cheapest?_iff (t : InstanceType) (accept : Offering → Bool) :
    (∃ p, t.cheapest? accept = some p) ↔
      ∃ o ∈ t.offerings, o.available = true ∧ accept o = true ∧ ∃ p, o.price = some p := by
  rw [← Option.isSome_iff_exists, ← Option.ne_none_iff_isSome, ne_eq, cheapest?_eq_none_iff]
  simp only [Unpriced, List.mem_filter, not_forall, exists_prop, and_assoc]
  refine exists_congr fun o => and_congr_right fun _ => ?_
  rw [← ne_eq, Option.ne_none_iff_exists', and_left_comm]

end InstanceType

end NodeSupply
