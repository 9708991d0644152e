import NodeSupply.NodeClass
import NodeSupply.Saturating

/-!
# Free addresses by zone

The free addresses of a zone are the sum over its subnets.  They stay unknown unless one of its
subnets reports a count.

## Main definitions

* `ZoneInventory.ofSubnets` : the inventory of some subnets.
* `ZoneInventory.headroom?` : the free addresses of a zone, if known.
-/

namespace NodeSupply

/-- The zones of some subnets with their free addresses, where known. -/
abbrev ZoneInventory := SortedMap Zone (Option UInt64)

namespace ZoneInventory

/-- The free addresses in a zone, if known. -/
def headroom? (inventory : ZoneInventory) (zone : Zone) : Option UInt64 :=
  (inventory.get? zone).join

/-- The inventory with one more subnet counted. -/
def count (inventory : ZoneInventory) (subnet : ResolvedSubnet) : ZoneInventory :=
  let known := inventory.headroom? subnet.zone
  inventory.insert subnet.zone <|
    match subnet.availableIps with
    | none => known
    | some ips => some (Saturating.add (known.getD 0) ips)

/-- The inventory of some subnets. -/
def ofSubnets (subnets : List ResolvedSubnet) : ZoneInventory := subnets.foldl count .empty

end ZoneInventory

end NodeSupply
