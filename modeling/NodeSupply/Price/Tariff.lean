import NodeSupply.Disk
import NodeSupply.Shape.Basic
import NodeSupply.Sorted.Map

/-!
# Hourly prices

A platform has a price for each core, by core fraction, and one for each GiB of memory, at the
full rate and at the discounted one.  What no table prices has no price, which is not a price of
zero.

## Main definitions

* `PriceList.onDemand?`, `PriceList.discounted?` : the price of a shape.
* `PriceList.disk?` : the price of a disk.
* `comparePrices` : the order of prices, missing ones last.
-/

namespace NodeSupply

/-- The prices of one platform for an hour. -/
structure Tariff where
  /-- The price of a core, by core fraction. -/
  onDemand : SortedMap CoreFraction Binary64
  /-- The discounted price of a core, by core fraction. -/
  discounted : SortedMap CoreFraction Binary64
  /-- The price of a GiB of memory. -/
  memoryGib : Binary64
  /-- The discounted price of a GiB of memory. -/
  discountedMemoryGib : Binary64
deriving DecidableEq

/-- The prices of platforms and disks for an hour. -/
structure PriceList where
  /-- The prices of each platform. -/
  platforms : SortedMap String Tariff
  /-- The price of a GiB of each kind of disk. -/
  disks : DiskKind → Option Binary64

/-- The price of a shape from the prices of a core and of a GiB of memory. -/
def Shape.priceAt (s : Shape) (perCpu perGib : Binary64) : Binary64 :=
  perCpu * Binary64.ofNat s.cpu.toNat + perGib * s.memoryGib

namespace PriceList

/-- The list without prices. -/
def empty : PriceList := ⟨.empty, fun _ => none⟩

/-- The price of a shape for an hour. -/
def onDemand? (prices : PriceList) (s : Shape) : Option Binary64 := do
  let tariff ← prices.platforms.get? s.platform
  let perCpu ← tariff.onDemand.get? s.fraction
  return s.priceAt perCpu tariff.memoryGib

/-- The discounted price of a shape for an hour. -/
def discounted? (prices : PriceList) (s : Shape) : Option Binary64 := do
  let tariff ← prices.platforms.get? s.platform
  let perCpu ← tariff.discounted.get? s.fraction
  return s.priceAt perCpu tariff.discountedMemoryGib

/-- The price of a disk of so many GiB for an hour. -/
def disk? (prices : PriceList) (kind : DiskKind) (gib : UInt64) : Option Binary64 :=
  (prices.disks kind).map (· * Binary64.ofNat gib.toNat)

end PriceList

/-! ### The order of prices -/

/-- Compares prices by the total order of numbers, missing ones last. -/
def comparePrices : Option Binary64 → Option Binary64 → Ordering
  | some a, some b => a.compare b
  | some _, none => .lt
  | none, some _ => .gt
  | none, none => .eq

/-- The least of some prices. -/
def leastPrice? : List Binary64 → Option Binary64
  | [] => none
  | p :: ps =>
    match leastPrice? ps with
    | none => some p
    | some q => some (if (p.compare q).isLE then p else q)

end NodeSupply
