import NodeSupply.Routine.Basic
import NodeSupply.Text.Lowercase

/-!
# The life of node groups

Making, listing, finding and deleting the node groups of a cluster that carry the mark of this
library.  A group is made only if none has its name, and deleted only if that is not under way; the
routines that could get in each other's way take turns.

## Main definitions

* `NodeGroupRequest`, `NodeGroupRequest.spec` : a group to be made, and what it is made from.
* `LifecycleError` : why a routine failed.
* `CreateGroup`, `DeleteGroup`, `ListGroups`, `FindGroup` : the routines.
-/

namespace NodeSupply

/-- A node group to be made. -/
structure NodeGroupRequest where
  /-- The name; there is one group of a name. -/
  name : String
  /-- The shape of the node. -/
  shape : Shape
  /-- The zone of the node. -/
  zone : Zone
  /-- The subnet of the node. -/
  subnet : SubnetId
  /-- Whether discounted capacity is bought. -/
  discounted : Bool
  /-- The kind of the boot disk. -/
  disk : DiskKind
  /-- The size of the boot disk. -/
  diskSizeBytes : UInt64
  /-- The labels of the group and of its node. -/
  labels : SortedMap String String
  /-- The security groups of the node. -/
  securityGroups : List SecurityGroupId
  /-- Whether accelerated networking is asked for. -/
  acceleratedNetwork : Bool
deriving DecidableEq

namespace NodeGroupRequest

/-- The labels that tell a node's shape. -/
def shapeLabels (s : Shape) : SortedMap String String :=
  .ofList
    [(Label.nodePlatform, s.platform),
     (Label.nodeCpu, Numeral.text s.cpu.toNat),
     (Label.nodeMemory, s.memoryQuantity),
     (Label.nodeCoreFraction, Numeral.text s.fraction.percent)]

/-- What a group is made from: with the mark of this library over its labels and the labels of its
shape over those of its node, and accelerated networking only on full cores. -/
def spec (cluster : String) (r : NodeGroupRequest) : NodeGroupSpec where
  name := r.name
  cluster
  labels := (r.labels.mapValues Text.lowercase).insert managedLabel managedValue
  nodeLabels := r.labels.extend (shapeLabels r.shape)
  shape := r.shape
  zone := r.zone
  subnet := r.subnet
  securityGroups := r.securityGroups
  discounted := r.discounted
  disk := r.disk
  diskSizeBytes := r.diskSizeBytes
  acceleratedNetwork := r.acceleratedNetwork && r.shape.fraction.isFull

end NodeGroupRequest

/-- Why a routine about node groups failed. -/
inductive LifecycleError where
  /-- A call failed. -/
  | call (title : String) (cause : ProviderError)
  /-- A node showed no instance in time. -/
  | externalIdTimeout (id : NodeGroupId) (waited : Duration) (lastError : Option String)
  /-- Text is no external id. -/
  | invalidProviderId (value : String)
deriving Repr, DecidableEq

namespace LifecycleError

/-- What is said about a failed routine. -/
def message : LifecycleError → String
  | call title cause => title ++ " failed: " ++ cause.message
  | externalIdTimeout id waited lastError =>
    "node group " ++ id ++ " exposed no instance id within " ++ Duration.text waited
      ++ lastError.elim "" fun e => " (last error: " ++ e ++ ")"
  | invalidProviderId value => ProviderId.refusal value

/-- Whether running the routine again may help. -/
def isRetryable : LifecycleError → Bool
  | call _ cause => cause.isRetryable
  | externalIdTimeout .. => false
  | invalidProviderId _ => false

/-- A failed call of the provider. -/
def ofCall (r : Request) (cause : ProviderError) : LifecycleError := .call r.title cause

end LifecycleError

/-! ### Making -/

namespace CreateGroup

/-- A point of the routine. -/
inductive Point where
  /-- It waits for its turn. -/
  | queued (r : NodeGroupRequest)
  /-- It looks whether there is a group of the name. -/
  | listing (r : NodeGroupRequest)
  /-- It makes the group. -/
  | creating (r : NodeGroupRequest) (spec : NodeGroupSpec)
deriving DecidableEq

/-- What comes of the routine. -/
abbrev Result := Except LifecycleError NodeGroupId

/-- What the routine waits for. -/
abbrev Point.awaits : Point → Await
  | queued r => .turn (.create r.name)
  | listing _ => .call .nodeGroups .standard
  | creating _ spec => .call (.createNodeGroup spec) .standard

/-- What the routine holds. -/
def Point.guards : Point → Option Gate
  | queued _ => none
  | listing r => some (.create r.name)
  | creating r _ => some (.create r.name)

/-- The start of the routine. -/
def start (r : NodeGroupRequest) : Next Point Result := .goOn (.queued r)

/-- On from a point. -/
def resume (s : Settings) : (p : Point) → p.awaits.Answer → Next Point Result
  | .queued r, () => .goOn (.listing r)
  | .listing r, .ok groups =>
    match (groups.filter (·.isManagedIn s.cluster)).find? (·.name == r.name) with
    | some g => .done (.ok g.id)
    | none => .goOn (.creating r (r.spec s.cluster))
  | .listing _, .error e => .done (.error (.ofCall .nodeGroups e))
  | .creating _ _, .ok id => .done (.ok id)
  | .creating _ spec, .error e => .done (.error (.ofCall (.createNodeGroup spec) e))

end CreateGroup

/-! ### Deleting -/

/-- What came of a deletion. -/
inductive Deletion where
  /-- It was asked for. -/
  | requested
  /-- It is under way already. -/
  | inFlight
  /-- There is no such group. -/
  | alreadyGone
deriving Repr, DecidableEq

/-- The name of what came of a deletion. -/
def Deletion.text : Deletion → String
  | requested => "Requested"
  | inFlight => "InFlight"
  | alreadyGone => "AlreadyGone"

namespace DeleteGroup

/-- A point of the routine. -/
inductive Point where
  /-- It waits for its turn. -/
  | queued (id : NodeGroupId)
  /-- It looks whether a deletion is under way. -/
  | checking (id : NodeGroupId)
  /-- It deletes the group. -/
  | deleting (id : NodeGroupId)
deriving Repr, DecidableEq

/-- What comes of the routine. -/
abbrev Result := Except LifecycleError Deletion

/-- What the routine waits for. -/
abbrev Point.awaits : Point → Await
  | queued id => .turn (.delete id)
  | checking id => .call (.operations id) .standard
  | deleting id => .call (.deleteNodeGroup id) .standard

/-- What the routine holds. -/
def Point.guards : Point → Option Gate
  | queued _ => none
  | checking id => some (.delete id)
  | deleting id => some (.delete id)

/-- The start of the routine. -/
def start (id : NodeGroupId) : Next Point Result := .goOn (.queued id)

/-- A failed call ends the routine; if it says that there is no such group, that is fine. -/
def failed (r : Request) (e : ProviderError) : Next Point Result :=
  .done (if e.isNotFound then .ok .alreadyGone else .error (.ofCall r e))

/-- On from a point. -/
def resume : (p : Point) → p.awaits.Answer → Next Point Result
  | .queued id, () => .goOn (.checking id)
  | .checking id, .ok operations =>
    if operations.any GroupOperation.isPendingDelete then .done (.ok .inFlight)
    else .goOn (.deleting id)
  | .checking id, .error e => failed (.operations id) e
  | .deleting _, .ok () => .done (.ok .requested)
  | .deleting id, .error e => failed (.deleteNodeGroup id) e

end DeleteGroup

/-! ### Listing and finding -/

namespace ListGroups

/-- What comes of the routine. -/
abbrev Result := Except LifecycleError (List NodeGroup)

/-- The groups of the cluster that were made here, of all that the provider lists. -/
def resume (s : Settings) : Request.nodeGroups.Outcome → Result
  | .ok groups => .ok (groups.filter (·.isManagedIn s.cluster))
  | .error e => .error (.ofCall .nodeGroups e)

end ListGroups

namespace FindGroup

/-- A point of the routine. -/
inductive Point where
  /-- It asks for the group of an instance. -/
  | owner (instanceId : String)
  /-- It asks for a group. -/
  | group (id : NodeGroupId)
deriving Repr, DecidableEq

/-- What comes of the routine. -/
abbrev Result := Except LifecycleError (Option NodeGroup)

/-- What the routine waits for. -/
abbrev Point.awaits : Point → Await
  | owner instanceId => .call (.ownerOf instanceId) .standard
  | group id => .call (.nodeGroup id) .standard

/-- The start for a group of some id. -/
def byId (id : NodeGroupId) : Next Point Result := .goOn (.group id)

/-- The start for the group behind a node of some external id. -/
def byExternalId (value : String) : Next Point Result :=
  match ProviderId.parse? value with
  | none => .done (.error (.invalidProviderId value))
  | some id => .goOn (.owner id.instance_)

/-- A failed call ends the routine; if it says that nothing is there, nothing was found. -/
def failed (r : Request) (e : ProviderError) : Next Point Result :=
  .done (if e.isNotFound then .ok none else .error (.ofCall r e))

/-- On from a point. -/
def resume : (p : Point) → p.awaits.Answer → Next Point Result
  | .owner _, .ok (some id) => .goOn (.group id)
  | .owner _, .ok none => .done (.ok none)
  | .owner instanceId, .error e => failed (.ownerOf instanceId) e
  | .group _, .ok g => .done (.ok (some g))
  | .group id, .error e => failed (.nodeGroup id) e

end FindGroup

end NodeSupply
