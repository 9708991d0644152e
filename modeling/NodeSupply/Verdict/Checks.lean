import NodeSupply.NodeClass
import NodeSupply.Provider.Basic
import NodeSupply.Verdict.Basic

/-!
# Checks

The rules that a node class is held to, in a fixed order: its boot disk, its subnets, its security
groups, accelerated networking.  The first broken rule ends the checks.  Subnets and security groups
are looked up at the provider, one after the other.

## Main definitions

* `Checks.disk`, `Checks.acceleratedNetwork` : the rules that need no call.
* `Checks.Stage` : a call that the checks wait for.
* `Checks.begin`, `Checks.resume` : the checks up to the first call, and on from its answer.
-/

namespace NodeSupply.Checks

/-- The rule about the boot disk. -/
def disk (configured : String) (size : UInt64) : Option Violation :=
  if size = 0 then some .emptyDisk
  else
    match DiskKind.ofConfigured? configured with
    | none => some (.unknownDiskType configured)
    | some kind =>
      let sizes := DiskSizes.ofKind kind
      if size < sizes.least then some (.diskTooSmall kind)
      else if size % sizes.step != 0 then some (.diskOffStep kind)
      else if sizes.greatest < size then some (.diskTooLarge kind)
      else none

/-- The rule about accelerated networking: every core must be a full one. -/
def acceleratedNetwork (c : NodeClass) : Option Violation :=
  if !c.acceleratedNetwork || c.coreFractions.all CoreFraction.isFull then none
  else some (.acceleratedNetwork c.coreFractions)

/-- A call that the checks wait for. -/
inductive Stage where
  /-- The network of the cluster, ahead of the subnets. -/
  | subnetNetwork
  /-- A subnet, with the ids that were looked up and the subnets that follow. -/
  | subnet (network : NetworkId) (seen : List SubnetId) (current : ResolvedSubnet)
      (rest : List ResolvedSubnet)
  /-- The network of the cluster, ahead of the security groups. -/
  | groupNetwork
  /-- A security group, with those that follow. -/
  | group (network : NetworkId) (current : SecurityGroupId) (rest : List SecurityGroupId)
deriving Repr, DecidableEq

/-- The call of a stage. -/
abbrev Stage.request : Stage → Request
  | subnetNetwork => .clusterNetwork
  | subnet _ _ current _ => .subnet current.id
  | groupNetwork => .clusterNetwork
  | group _ current _ => .securityGroup current

/-- How the checks go on. -/
inductive Next where
  /-- With a call. -/
  | ask (stage : Stage)
  /-- They are over. -/
  | verdict (v : Verdict)
deriving Repr, DecidableEq

/-- The checks are over: a rule is broken, or none is. -/
def Next.conclude (broken : Option Violation) : Next :=
  .verdict (broken.elim .success Violation.verdict)

/-- A rule is broken. -/
def Next.broken (v : Violation) : Next := .verdict v.verdict

/-- The security groups that are left, in a network. -/
def walkGroups (c : NodeClass) (network : NetworkId) : List SecurityGroupId → Next
  | [] => .conclude (acceleratedNetwork c)
  | id :: rest => .ask (.group network id rest)

/-- The checks after the subnets. -/
def afterSubnets (c : NodeClass) : Next :=
  if c.securityGroups.isEmpty then .conclude (acceleratedNetwork c) else .ask .groupNetwork

/-- The subnets that are left, in a network; an id that was looked up is passed over. -/
def walkSubnets (c : NodeClass) (network : NetworkId) (seen : List SubnetId) :
    List ResolvedSubnet → Next
  | [] => afterSubnets c
  | s :: rest =>
    if s.id = "" then .broken .emptySubnetId
    else if seen.contains s.id then walkSubnets c network seen rest
    else .ask (.subnet network (s.id :: seen) s rest)

/-- The rule about a subnet that the provider reports. -/
def subnetRule (network : NetworkId) (s : ResolvedSubnet) (reported : Subnet) : Option Violation :=
  if reported.network ≠ "" ∧ reported.network ≠ network then some (.subnetOutside s.id network)
  else if s.zone ≠ "" ∧ reported.zone ≠ "" ∧ s.zone ≠ reported.zone then
    some (.subnetZone s.id s.zone reported.zone)
  else none

/-- The checks up to the first call. -/
def begin (c : NodeClass) : Next :=
  match disk c.diskType c.diskSizeBytes with
  | some v => .broken v
  | none => if c.subnets.isEmpty then .broken .noSubnets else .ask .subnetNetwork

/-- The checks on from the answer to a call.  What is not there breaks a rule; any other failure
ends the checks without a verdict. -/
def resume (c : NodeClass) : (s : Stage) → s.request.Outcome → Except ProviderError Next
  | .subnetNetwork, .ok network => .ok (walkSubnets c network [] c.subnets)
  | .subnet network seen current rest, .ok reported =>
    match subnetRule network current reported with
    | some v => .ok (.broken v)
    | none => .ok (walkSubnets c network seen rest)
  | .groupNetwork, .ok network => .ok (walkGroups c network c.securityGroups)
  | .group network current rest, .ok reported =>
    if reported.network = "" ∨ reported.network = network then .ok (walkGroups c network rest)
    else .ok (.broken (.securityGroupMissing current))
  | .subnet _ _ current _, .error e =>
    if e.isNotFound then .ok (.broken (.subnetMissing current.id)) else .error e
  | .group _ current _, .error e =>
    if e.isNotFound then .ok (.broken (.securityGroupMissing current)) else .error e
  | .subnetNetwork, .error e => .error e
  | .groupNetwork, .error e => .error e

end NodeSupply.Checks
