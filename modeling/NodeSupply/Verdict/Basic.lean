import NodeSupply.Disk
import NodeSupply.Identifier
import NodeSupply.Shape.Basic

/-!
# Verdicts

Whether nodes of a class may be launched: a reason code with a message, where no code means that
they may.

## Main definitions

* `Violation` : a rule that a node class breaks.
* `Verdict` : what is kept of it.
-/

namespace NodeSupply

/-- A verdict as it is kept. -/
structure Verdict where
  /-- The code of the broken rule; empty if none is broken. -/
  reason : String
  /-- What is said about it. -/
  message : String
deriving Repr, DecidableEq, Inhabited

namespace Verdict

/-- No rule is broken. -/
def success : Verdict := ⟨"", ""⟩

/-- Whether no rule is broken. -/
def passed (v : Verdict) : Bool := v.reason == ""

end Verdict

/-- A rule that a node class breaks. -/
inductive Violation where
  /-- The subnets were not resolved. -/
  | dependenciesNotReady
  /-- The boot disk has no size. -/
  | emptyDisk
  /-- There is no such kind of disk. -/
  | unknownDiskType (configured : String)
  /-- The boot disk is smaller than its kind allows. -/
  | diskTooSmall (kind : DiskKind)
  /-- The boot disk is no multiple of the step of its kind. -/
  | diskOffStep (kind : DiskKind)
  /-- The boot disk is larger than its kind allows. -/
  | diskTooLarge (kind : DiskKind)
  /-- No subnet was resolved. -/
  | noSubnets
  /-- A subnet has an empty id. -/
  | emptySubnetId
  /-- There is no such subnet. -/
  | subnetMissing (id : SubnetId)
  /-- A subnet belongs to another network than the cluster. -/
  | subnetOutside (id : SubnetId) (network : NetworkId)
  /-- A subnet lies in another zone than the one it was resolved to. -/
  | subnetZone (id : SubnetId) (resolved reported : Zone)
  /-- There is no such security group in the network of the cluster. -/
  | securityGroupMissing (id : SecurityGroupId)
  /-- Accelerated networking is asked for with shared cores. -/
  | acceleratedNetwork (fractions : List CoreFraction)
deriving Repr, DecidableEq

namespace Violation

/-- The code of a broken rule. -/
def reason : Violation → String
  | dependenciesNotReady => "DependenciesNotReady"
  | emptyDisk | diskTooSmall _ | diskOffStep _ | diskTooLarge _ => "InvalidDiskSize"
  | unknownDiskType _ => "InvalidDiskType"
  | noSubnets => "NoSubnetsResolved"
  | emptySubnetId => "InvalidSubnet"
  | subnetMissing _ | subnetOutside .. => "SubnetNotFound"
  | subnetZone .. => "SubnetZoneMismatch"
  | securityGroupMissing _ => "SecurityGroupNotFound"
  | acceleratedNetwork _ => "InvalidAcceleratedNetworkCoreFractions"

/-- A message about the size of a boot disk of some kind. -/
def sizeMessage (rule : String) (size : UInt64) (kind : DiskKind) : String :=
  "spec.diskSize must be " ++ rule ++ " " ++ byteText size ++ " for diskType=" ++ kind.name

/-- What is said about a broken rule. -/
def message : Violation → String
  | dependenciesNotReady => "awaiting subnet resolution"
  | emptyDisk => "spec.diskSize must be > 0"
  | unknownDiskType configured => "unsupported spec.diskType=" ++ Text.quote configured
  | diskTooSmall kind => sizeMessage ">=" (DiskSizes.ofKind kind).least kind
  | diskOffStep kind => sizeMessage "a multiple of" (DiskSizes.ofKind kind).step kind
  | diskTooLarge kind => sizeMessage "<=" (DiskSizes.ofKind kind).greatest kind
  | noSubnets => "no subnets resolved in status"
  | emptySubnetId => "status.subnets contains an empty id"
  | subnetMissing id => "subnet not found: " ++ id
  | subnetOutside id network => "subnet " ++ id ++ " is not in cluster network " ++ network
  | subnetZone id resolved reported =>
    "subnet zone mismatch for " ++ id ++ ": status=" ++ resolved ++ ", cloud=" ++ reported
  | securityGroupMissing id => "security group not found (or not in cluster network): " ++ id
  | acceleratedNetwork fractions =>
    "spec.acceleratedNetwork=true requires every spec.coreFractions entry to be 100, got ["
      ++ ", ".intercalate (fractions.map fun f => Numeral.text f.percent) ++ "]"

/-- The verdict on a class that breaks a rule. -/
def verdict (v : Violation) : Verdict := ⟨v.reason, v.message⟩

@[simp] theorem passed_verdict (v : Violation) : v.verdict.passed = false := by
  cases v <;> simp [verdict, reason, Verdict.passed]

end Violation

end NodeSupply
