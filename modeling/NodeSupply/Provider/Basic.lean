import NodeSupply.Provider.Error
import NodeSupply.Provider.NodeGroup
import NodeSupply.Time

/-!
# The provider

What can be asked of the provider, and what any provider must be able to do.  A call is started and
then looked at until its answer is there; it may also be given up.

## Main definitions

* `Request`, `Request.Reply` : the calls and their answers.
* `Provider` : a state that answers calls.
-/

namespace NodeSupply

/-- A subnet as the provider reports it. -/
structure Subnet where
  /-- The id of the subnet. -/
  id : SubnetId
  /-- The network that it belongs to; empty if not reported. -/
  network : NetworkId
  /-- The zone that it lies in; empty if not reported. -/
  zone : Zone
deriving Repr, DecidableEq

/-- A security group as the provider reports it. -/
structure SecurityGroup where
  /-- The id of the security group. -/
  id : SecurityGroupId
  /-- The network that it belongs to; empty if not reported. -/
  network : NetworkId
deriving Repr, DecidableEq

/-- A call of the provider. -/
inductive Request where
  /-- The network of the cluster. -/
  | clusterNetwork
  /-- A subnet. -/
  | subnet (id : SubnetId)
  /-- A security group. -/
  | securityGroup (id : SecurityGroupId)
  /-- All node groups. -/
  | nodeGroups
  /-- A node group. -/
  | nodeGroup (id : NodeGroupId)
  /-- A new node group. -/
  | createNodeGroup (spec : NodeGroupSpec)
  /-- The end of a node group. -/
  | deleteNodeGroup (id : NodeGroupId)
  /-- The operations recorded for a node group. -/
  | operations (id : NodeGroupId)
  /-- The compute instance of the node of a group. -/
  | instanceOf (id : NodeGroupId)
  /-- The node group that a compute instance belongs to. -/
  | ownerOf (instanceId : String)
deriving DecidableEq

namespace Request

/-- What a call answers. -/
abbrev Reply : Request → Type
  | clusterNetwork => NetworkId
  | subnet _ => Subnet
  | securityGroup _ => SecurityGroup
  | nodeGroups => List NodeGroup
  | nodeGroup _ => NodeGroup
  | createNodeGroup _ => NodeGroupId
  | deleteNodeGroup _ => Unit
  | operations _ => List GroupOperation
  | instanceOf _ => Option String
  | ownerOf _ => Option NodeGroupId

/-- The name of a kind of call. -/
def operation : Request → String
  | clusterNetwork => "network_id"
  | subnet _ => "get_subnet"
  | securityGroup _ => "get_security_group"
  | nodeGroups => "list_node_groups"
  | nodeGroup _ => "get_node_group"
  | createNodeGroup _ => "create_node_group"
  | deleteNodeGroup _ => "delete_node_group"
  | operations _ => "node_group_operations"
  | instanceOf _ => "node_group_instance_id"
  | ownerOf _ => "instance_node_group_id"

/-- A kind of call as it is named in messages. -/
def title : Request → String
  | clusterNetwork => "get cluster network"
  | subnet _ => "get subnet"
  | securityGroup _ => "get security group"
  | nodeGroups => "list node groups"
  | nodeGroup _ => "get node group"
  | createNodeGroup _ => "create node group"
  | deleteNodeGroup _ => "delete node group"
  | operations _ => "list node group operations"
  | instanceOf _ => "get node group instance"
  | ownerOf _ => "get instance"

/-- What comes of a call in the end. -/
abbrev Outcome (r : Request) : Type := Except ProviderError r.Reply

end Request

/-- What a look at something under way shows, and the state that it leaves. -/
inductive Progress (σ ω α : Type) where
  /-- It waits, and nothing has changed. -/
  | waiting
  /-- It went on, and may be looked at again. -/
  | moved (underway : ω) (state : σ)
  /-- It is finished. -/
  | finished (result : α) (state : σ)

/-- A state that answers calls. -/
class Provider (σ : Type) where
  /-- A call under way. -/
  Pending : Request → Type
  /-- Starts a call. -/
  start : σ → Instant → (r : Request) → Pending r × σ
  /-- Looks at a call. -/
  look : σ → Instant → (r : Request) → Pending r → Progress σ (Pending r) r.Outcome
  /-- When another look at a call that waits may show more, if only time is needed. -/
  due? : {r : Request} → Pending r → Option Instant
  /-- Gives a call up. -/
  abandon : {r : Request} → σ → Pending r → σ

end NodeSupply
