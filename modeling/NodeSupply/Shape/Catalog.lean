import NodeSupply.Shape.Name
import NodeSupply.Sorted.Set

/-!
# The catalog of shapes

A platform sells tiers.  A tier fixes a core fraction and sells every combination of its core
counts and of its amounts of memory for each core; combinations never mix tiers.

## Main definitions

* `Platform.shapes`, `Catalog.shapes` : the shapes on sale.
* `Catalog.byName` : the shape on sale under a canonical name.
-/

namespace NodeSupply

/-- The combinations on sale at one core fraction. -/
structure Tier where
  /-- The guaranteed share of each core. -/
  fraction : CoreFraction
  /-- The core counts on sale. -/
  vcpus : List UInt32
  /-- The amounts of memory for each core on sale, in MiB. -/
  memoryPerCoreMib : List UInt32
deriving Repr, DecidableEq

/-- A hardware platform and what it sells. -/
structure Platform where
  /-- The name of the platform. -/
  name : String
  /-- The tiers on sale. -/
  tiers : List Tier
  /-- Whether preemptible capacity is sold at a discount. -/
  discountable : Bool
deriving Repr, DecidableEq

/-- The memory of a shape with so many cores and so much memory for each. -/
def Tier.memoryMib (cpu ratio : UInt32) : UInt64 := cpu.toUInt64 * ratio.toUInt64

/-- The shapes that a tier sells. -/
def Tier.shapes (platform : String) (tier : Tier) : List Shape :=
  tier.vcpus.flatMap fun cpu => tier.memoryPerCoreMib.map fun ratio =>
    ⟨platform, tier.fraction, cpu, Tier.memoryMib cpu ratio⟩

/-- Whether a tier sells a shape of its platform. -/
def Tier.offers (tier : Tier) (s : Shape) : Bool :=
  tier.fraction == s.fraction && tier.vcpus.contains s.cpu &&
    tier.memoryPerCoreMib.any fun ratio => Tier.memoryMib s.cpu ratio == s.memoryMib

/-- The shapes that a platform sells. -/
def Platform.shapes (p : Platform) : SortedSet Shape :=
  .ofList (p.tiers.flatMap (Tier.shapes p.name))

/-- Platforms in the order of their listing. -/
structure Catalog where
  /-- The platforms on sale. -/
  platforms : List Platform
deriving Repr, DecidableEq

/-- Why a name leads to no shape on sale. -/
inductive CatalogError where
  /-- The text is not the name of a shape. -/
  | malformed (cause : NameError)
  /-- No platform sells the shape. -/
  | notOffered (name : String)
deriving Repr, DecidableEq

/-- What is said about a name that leads to no shape on sale. -/
def CatalogError.message : CatalogError → String
  | malformed cause => cause.message
  | notOffered name => "instance type " ++ name ++ " is not offered by any platform profile"

namespace Catalog

/-- The first platform of a name. -/
def platform? (c : Catalog) (name : String) : Option Platform :=
  c.platforms.find? (·.name == name)

/-- The shapes that some platform sells. -/
def shapes (c : Catalog) : SortedSet Shape := .ofList (c.platforms.flatMap (·.shapes.toList))

/-- The shape on sale under a canonical name; only the first platform of its name counts. -/
def byName (c : Catalog) (name : String) : Except CatalogError Shape :=
  match Shape.parse name with
  | .error cause => .error (.malformed cause)
  | .ok s =>
    match c.platform? s.platform with
    | some p => if p.tiers.any (·.offers s) then .ok s else .error (.notOffered name)
    | none => .error (.notOffered name)

end Catalog

end NodeSupply
