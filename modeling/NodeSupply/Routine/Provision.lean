import NodeSupply.Routine.Reconcile
import NodeSupply.Routine.Resolve

/-!
# Launching a node

A node for a class and a demand: the class must have a passing verdict, the cheapest fitting
offering is chosen, a node group is made for it in the roomiest subnet of its zone, and the external
id of the new node is waited for.

## Main definitions

* `NodeRequest`, `LaunchedNode` : a node to be launched, and a launched one.
* `LaunchPlan.of` : what is to be made.
* `Provision.start`, `Provision.resume` : the routine.
-/

namespace NodeSupply

/-- A node to be launched. -/
structure NodeRequest where
  /-- The name of its node group. -/
  name : String
  /-- What is asked for. -/
  demand : Demand
deriving DecidableEq

/-- A launched node. -/
structure LaunchedNode where
  /-- The node group. -/
  group : NodeGroupId
  /-- The external id. -/
  externalId : ProviderId
  /-- The canonical name of the instance type. -/
  instanceType : String
  /-- The zone. -/
  zone : Zone
  /-- How the capacity was bought. -/
  capacityType : CapacityType
  /-- The price for an hour. -/
  price : Option Binary64
deriving Repr, DecidableEq

/-- Why a node was not launched. -/
inductive ProvisionError where
  /-- The class has no passing verdict. -/
  | notValidated (name : String) (state : ClassState) (verdict : Verdict)
  /-- There is no verdict. -/
  | validation (cause : ValidationError)
  /-- Offerings cannot be given. -/
  | offering (cause : OfferingError)
  /-- Nothing fits. -/
  | selection (cause : SelectionError)
  /-- The chosen zone has no subnet. -/
  | noSubnetInZone (zone : Zone)
  /-- The class names an unknown kind of disk. -/
  | diskType (configured : String)
  /-- A node group was not made, or its node not found. -/
  | lifecycle (cause : LifecycleError)
deriving Repr, DecidableEq

namespace ProvisionError

/-- What is said where a node was not launched. -/
def message : ProvisionError → String
  | notValidated name state verdict =>
    "node class " ++ name ++ " is not ready (" ++ state.text ++ "): " ++ verdict.reason ++ ": "
      ++ verdict.message
  | validation cause => cause.message
  | offering cause => cause.message
  | selection cause => cause.message
  | noSubnetInZone zone => "no resolved subnet in zone " ++ zone
  | diskType configured => DiskKind.refusal configured
  | lifecycle cause => cause.message

/-- Whether trying again may help. -/
def isRetryable : ProvisionError → Bool
  | notValidated .. => true
  | validation _ => true
  | lifecycle cause => cause.isRetryable
  | offering _ => false
  | selection _ => false
  | noSubnetInZone _ => false
  | diskType _ => false

end ProvisionError

/-- Compares subnets by free addresses, unknown ones least, and then against the order of their
ids. -/
def ResolvedSubnet.roominess (s t : ResolvedSubnet) : Ordering :=
  (compare s.availableIps t.availableIps).then (compare t.id s.id)

/-- The last of the roomiest of some subnets. -/
def roomiest? : List ResolvedSubnet → Option ResolvedSubnet
  | [] => none
  | s :: rest =>
    match roomiest? rest with
    | none => some s
    | some best => some (if s.roominess best = .gt then s else best)

/-- The subnet of a zone with the most free addresses. -/
def roomiestIn? (zone : Zone) (subnets : List ResolvedSubnet) : Option SubnetId :=
  (roomiest? (subnets.filter fun s => s.zone == zone && s.id != "")).map (·.id)

/-- What is to be made for a demand. -/
structure LaunchPlan where
  /-- The chosen instance type and offering. -/
  selection : Selection
  /-- The node group. -/
  request : NodeGroupRequest
deriving DecidableEq

/-- What is to be made for a node of a class. -/
def LaunchPlan.of (brief : Brief) (c : NodeClass) (r : NodeRequest) :
    Except ProvisionError LaunchPlan := do
  let candidates ← (brief.market.list c).mapError .offering
  let selection ← (Selection.select brief.tieBreak candidates r.demand).mapError .selection
  let zone := selection.offering.zone
  let subnet ← (roomiestIn? zone c.subnets).elim (.error (.noSubnetInZone zone)) .ok
  let disk ← (DiskKind.ofConfigured? c.diskType).elim (.error (.diskType c.diskType)) .ok
  return {
    selection
    request := {
      name := r.name
      shape := selection.instanceType.shape
      zone
      subnet
      discounted := selection.offering.capacityType == .spot
      disk
      diskSizeBytes := c.diskSizeBytes
      labels := c.labels
      securityGroups := c.securityGroups
      acceleratedNetwork := c.acceleratedNetwork } }

/-- The node that came of a plan. -/
def LaunchPlan.node (p : LaunchPlan) (group : NodeGroupId) (externalId : ProviderId) :
    LaunchedNode where
  group
  externalId
  instanceType := p.selection.instanceType.name
  zone := p.selection.offering.zone
  capacityType := p.selection.offering.capacityType
  price := p.selection.offering.price

namespace Provision

/-- A point of the routine. -/
inductive Point where
  /-- The class is being reconciled. -/
  | reconciling (r : NodeRequest) (p : Reconcile.Point)
  /-- The node group is being made. -/
  | creating (plan : LaunchPlan) (p : CreateGroup.Point)
  /-- The external id is being waited for. -/
  | resolving (plan : LaunchPlan) (group : NodeGroupId) (p : ResolveId.Point)
deriving DecidableEq

/-- What comes of the routine. -/
abbrev Result := Except ProvisionError LaunchedNode

/-- What the routine waits for. -/
abbrev Point.awaits : Point → Await
  | reconciling _ p => p.awaits
  | creating _ p => p.awaits
  | resolving _ _ p => p.awaits

/-- What the routine holds. -/
def Point.guards : Point → Option Gate
  | reconciling _ p => p.guards
  | creating _ p => p.guards
  | resolving .. => none

/-- On with what came of the search for the external id. -/
def afterResolve (plan : LaunchPlan) (group : NodeGroupId) : ResolveId.Result → Next Point Result
  | .ok externalId => .done (.ok (plan.node group externalId))
  | .error e => .done (.error (.lifecycle e))

/-- On with what came of making the node group. -/
def afterCreate (brief : Brief) (now : Instant) (plan : LaunchPlan) :
    CreateGroup.Result → Next Point Result
  | .ok group =>
    (ResolveId.start brief.settings now group).map (.resolving plan group) (afterResolve plan group)
  | .error e => .done (.error (.lifecycle e))

/-- On with what came of reconciling the class. -/
def afterReconcile (brief : Brief) (now : Instant) (c : NodeClass) (r : NodeRequest) :
    Reconcile.Result → Next Point Result
  | .error e => .done (.error (.validation e))
  | .ok o =>
    if o.state = .succeeded then
      match LaunchPlan.of brief c r with
      | .error e => .done (.error e)
      | .ok plan =>
        (CreateGroup.start plan.request).map (.creating plan) (afterCreate brief now plan)
    else .done (.error (.notValidated c.name o.state o.verdict))

/-- The start of the routine. -/
def start (brief : Brief) (now : Instant) (c : NodeClass) (r : NodeRequest) : Next Point Result :=
  (Reconcile.start brief.settings c).map (.reconciling r) (afterReconcile brief now c r)

/-- On from a point. -/
def resume (brief : Brief) (now : Instant) (cache : VerdictCache) :
    (p : Point) → p.awaits.Answer → Next Point Result × VerdictCache
  | .reconciling r p, answer =>
    let (next, cache) := Reconcile.resume brief.settings now cache p answer
    (next.map (.reconciling r) (afterReconcile brief now p.nodeClass r), cache)
  | .creating plan p, answer =>
    ((CreateGroup.resume brief.settings p answer).map (.creating plan)
      (afterCreate brief now plan), cache)
  | .resolving plan group p, answer =>
    ((ResolveId.resume brief.settings now p answer).map (.resolving plan group)
      (afterResolve plan group), cache)

end Provision

end NodeSupply
