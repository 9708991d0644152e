import NodeSupply.Json.Decode
import NodeSupply.NodeClass

/-!
# Node classes as documents

The JSON form of a node class.  Every member must be present except the free addresses of a
subnet, which may also be `null`; unknown members are skipped.

## Main definitions

* `NodeClass.ofJson?` : the class that a JSON value describes.
-/

namespace NodeSupply

/-- The readiness that a value is: one of three names, or an object with that name as its only
key and `null` under it. -/
def Readiness.ofJson? : Json → Option Readiness
  | .text name => ofName? name
  | .object [(name, .null)] => ofName? name
  | _ => none
where
  /-- The readiness of a name. -/
  ofName? : String → Option Readiness
    | "True" => some .true
    | "False" => some .false
    | "Unknown" => some .unknown
    | _ => none

/-- The core fraction that a value is. -/
def CoreFraction.ofJson? (v : Json) : Option CoreFraction :=
  (v.naturalBelow? 256).bind CoreFraction.ofPercent?

/-- The subnet that a value describes.  Written as a list it must give the free addresses. -/
def ResolvedSubnet.ofJson? (v : Json) : Option ResolvedSubnet := do
  let m ← v.record? ["id", "zone", "available_ips"]
  if m.positional && (m.at? 2).isNone then none
  return {
    id := ← m.required 0 Json.string?
    zone := ← m.required 1 Json.string?
    availableIps := ← m.optional 2 none (Json.nullable Json.word?) }

/-- The class that a JSON value describes. -/
def NodeClass.ofJson? (v : Json) : Option NodeClass := do
  let m ← v.record? ["name", "spec", "status"]
  let spec ← m.required 1 (Json.record? ["disk_type", "disk_size_bytes", "labels",
    "security_groups", "core_fractions", "accelerated_network", "can_be_discounted"])
  let status ← m.required 2 (Json.record? ["subnets", "subnets_ready"])
  return {
    name := ← m.required 0 Json.string?
    diskType := ← spec.required 0 Json.string?
    diskSizeBytes := ← spec.required 1 Json.word?
    labels := .ofList (← spec.required 2 Json.stringMembers?)
    securityGroups := ← spec.required 3 (Json.list? Json.string?)
    coreFractions := ← spec.required 4 (Json.list? CoreFraction.ofJson?)
    acceleratedNetwork := ← spec.required 5 Json.bool?
    discountable := ← spec.required 6 Json.bool?
    subnets := ← status.required 0 (Json.list? ResolvedSubnet.ofJson?)
    subnetsReady := ← status.required 1 Readiness.ofJson? }

end NodeSupply
