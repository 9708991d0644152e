import NodeSupply.Offer.Reserve
import NodeSupply.Offer.ZoneInventory
import NodeSupply.Price.Tariff
import NodeSupply.Requirements
import NodeSupply.Shape.Catalog

/-!
# Instance types and offerings

An instance type is a shape as a node class may use it: with the labels its nodes will have, its
capacity and what the node keeps of it.  An offering is one way to buy it: in one zone, at the
full rate or at the discounted one.

## Main definitions

* `InstanceType.ofShape` : a shape for a class, without offerings.
* `InstanceType.resolve` : the offerings of an instance type.
* `Market.list`, `Market.get` : what a node class can choose from.
-/

namespace NodeSupply

/-- How capacity is bought. -/
inductive CapacityType where
  /-- At the full price, never taken back. -/
  | onDemand
  /-- At a discount, and may be taken back. -/
  | spot
deriving Repr, DecidableEq

/-- The label of a capacity type. -/
def CapacityType.label : CapacityType → String
  | onDemand => "on-demand"
  | spot => "spot"

/-- Why offerings cannot be given. -/
inductive OfferingError where
  /-- A requirement names a capacity type that is not sold. -/
  | unknownCapacityType (value : String)
  /-- A name leads to no shape on sale. -/
  | catalog (cause : CatalogError)
deriving Repr, DecidableEq

/-- What is said where offerings cannot be given. -/
def OfferingError.message : OfferingError → String
  | unknownCapacityType value => "unknown capacity type " ++ Text.quote value
  | catalog cause => cause.message

/-- The capacity type of a label. -/
def CapacityType.ofLabel (value : String) : Except OfferingError CapacityType :=
  if value = "on-demand" then .ok .onDemand
  else if value = "spot" then .ok .spot
  else .error (.unknownCapacityType value)

/-- One way to buy an instance type. -/
structure Offering where
  /-- The canonical name of the instance type. -/
  instanceType : String
  /-- The zone. -/
  zone : Zone
  /-- The capacity type. -/
  capacityType : CapacityType
  /-- The price for an hour, if there is one. -/
  price : Option Binary64
  /-- The free addresses in the zone, if known. -/
  availableIps : Option UInt64
  /-- Whether it can be bought now. -/
  available : Bool
deriving Repr, DecidableEq

/-- The labels that an offering settles. -/
def Offering.requirements (o : Offering) : Requirements :=
  .of [(Label.zone, [o.zone]), (Label.capacityType, [o.capacityType.label])]

/-- A shape as a node class may use it. -/
structure InstanceType where
  /-- The shape. -/
  shape : Shape
  /-- The canonical name of the shape. -/
  name : String
  /-- The values that the labels of its nodes can have. -/
  requirements : Requirements
  /-- What its nodes have. -/
  capacity : Resources
  /-- What its nodes keep for themselves. -/
  reserve : Reserve
  /-- Whether its platform is sold at a discount. -/
  platformDiscountable : Bool
  /-- The ways to buy it. -/
  offerings : List Offering
deriving DecidableEq

namespace InstanceType

/-- The capacity types that a class may buy from a platform. -/
def capacityTypes (p : Platform) (c : NodeClass) : List CapacityType :=
  if c.discountable && p.discountable then [.onDemand, .spot] else [.onDemand]

/-- A shape of a platform for a node class, without offerings. -/
def ofShape (s : Shape) (p : Platform) (c : NodeClass) : InstanceType :=
  let capacity : Resources := ⟨s.cpu, s.memoryMib, c.diskSizeBytes >>> 30⟩
  { shape := s
    name := s.name
    requirements := .of
      [(Label.instanceType, [s.name]),
       (Label.platform, [s.platform]),
       (Label.coreFraction, [Numeral.text s.fraction.percent]),
       (Label.arch, ["amd64"]),
       (Label.os, ["linux"]),
       (Label.zone, c.subnets.map (·.zone)),
       (Label.capacityType, (capacityTypes p c).map CapacityType.label)]
    capacity
    reserve := .ofCapacity capacity
    platformDiscountable := p.discountable
    offerings := [] }

/-- What is left of an instance type for workloads. -/
def allocatable (t : InstanceType) : Quantities :=
  (Quantities.ofResources t.capacity).sub t.reserve.total

/-- The least price of the available offerings that satisfy a test. -/
def cheapest? (t : InstanceType) (accept : Offering → Bool) : Option Binary64 :=
  leastPrice? ((t.offerings.filter fun o => o.available && accept o).filterMap (·.price))

/-- The capacity types that an instance type asks for. -/
def wantedCapacityTypes (t : InstanceType) : Except OfferingError (List CapacityType) :=
  ((t.requirements.get? Label.capacityType).elim [] (·.toList)).mapM CapacityType.ofLabel

/-- Whether an instance type is sold under a capacity type. -/
def sells (t : InstanceType) : CapacityType → Bool
  | .onDemand => true
  | .spot => t.platformDiscountable

/-- The price of an instance type under a capacity type. -/
def priceAs (t : InstanceType) (prices : PriceList) : CapacityType → Option Binary64
  | .onDemand => prices.onDemand? t.shape
  | .spot => prices.discounted? t.shape

/-- The offerings of an instance type: one in each zone for each capacity type that is sold.  An
offering is available if it has a price, the zone is allowed and has addresses left. -/
def resolve (t : InstanceType) (prices : PriceList) (zones : SortedSet Zone)
    (inventory : ZoneInventory) : Except OfferingError (List Offering) := do
  let wanted ← t.wantedCapacityTypes
  let priced := (wanted.filter t.sells).map fun kind => (kind, t.priceAs prices kind)
  return zones.toList.flatMap fun zone =>
    let allowed := t.requirements.allows Label.zone zone
    let ips := inventory.headroom? zone
    priced.map fun (kind, price) =>
      { instanceType := t.name
        zone
        capacityType := kind
        price
        availableIps := ips
        available := price.isSome && allowed && ips != some 0 }

end InstanceType

/-- What can be bought in a region. -/
structure Market where
  /-- The shapes on sale. -/
  catalog : Catalog
  /-- Their prices. -/
  prices : PriceList
  /-- The zones of the region. -/
  zones : SortedSet Zone

namespace Market

/-- A shape of a platform for a node class, with its offerings. -/
def build (m : Market) (s : Shape) (p : Platform) (c : NodeClass) (inventory : ZoneInventory) :
    Except OfferingError InstanceType := do
  let t := InstanceType.ofShape s p c
  return { t with offerings := ← t.resolve m.prices m.zones inventory }

/-- The order of instance types with their least prices: by price, then by name. -/
def before (a b : Option Binary64 × InstanceType) : Bool :=
  ((comparePrices a.1 b.1).then (compare a.2.name b.2.name)).isLE

/-- Instance types by least price, those without a price last, and then by name. -/
def sortTypes (types : List InstanceType) : List InstanceType :=
  ((types.map fun t => (t.cheapest? fun _ => true, t)).mergeSort before).map (·.2)

/-- The instance types that a node class allows. -/
def list (m : Market) (c : NodeClass) : Except OfferingError (List InstanceType) := do
  let inventory := ZoneInventory.ofSubnets c.subnets
  let types ← m.catalog.platforms.mapM fun p =>
    (p.shapes.toList.filter (c.allowsFraction ·.fraction)).mapM fun s => m.build s p c inventory
  return sortTypes types.flatten

/-- The instance type of a canonical name. -/
def get (m : Market) (c : NodeClass) (name : String) : Except OfferingError InstanceType :=
  match m.catalog.byName name with
  | .error cause => .error (.catalog cause)
  | .ok s =>
    match m.catalog.platform? s.platform with
    | none => .error (.catalog (.notOffered name))
    | some p => m.build s p c (ZoneInventory.ofSubnets c.subnets)

end Market

end NodeSupply
