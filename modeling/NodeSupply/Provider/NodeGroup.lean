import NodeSupply.Disk
import NodeSupply.Identifier
import NodeSupply.Shape.Basic
import NodeSupply.Sorted.Map
import NodeSupply.Text.Occurs

/-!
# Node groups

The groups of cluster nodes that the provider runs, what a new one is made from, and the operations
that the provider records for them.

## Main definitions

* `NodeGroup`, `NodeGroup.State` : a group as the provider reports it.
* `NodeGroupSpec` : what a new group is made from.
* `GroupOperation` : a recorded operation.
-/

namespace NodeSupply

/-- How a group is doing. -/
inductive NodeGroup.State where
  /-- It is being made. -/
  | provisioning
  /-- It serves. -/
  | running
  /-- A change is being made to it. -/
  | reconciling
  /-- It is being stopped. -/
  | stopping
  /-- It is stopped. -/
  | stopped
  /-- It is being started again. -/
  | starting
  /-- It is being deleted. -/
  | deleting
  /-- It failed for good. -/
  | failed
  /-- The provider reports a status that is not known here. -/
  | unknown (status : String)
deriving Repr, DecidableEq

namespace NodeGroup.State

/-- The state of a reported status. -/
def ofStatus : String → State
  | "PROVISIONING" => provisioning
  | "RUNNING" => running
  | "RECONCILING" => reconciling
  | "STOPPING" => stopping
  | "STOPPED" => stopped
  | "STARTING" => starting
  | "DELETING" => deleting
  | "FAILED" => failed
  | status => unknown status

/-- The name of a state. -/
def text : State → String
  | provisioning => "Provisioning"
  | running => "Running"
  | reconciling => "Reconciling"
  | stopping => "Stopping"
  | stopped => "Stopped"
  | starting => "Starting"
  | deleting => "Deleting"
  | failed => "Failed"
  | unknown status => "Unknown(" ++ Text.quote status ++ ")"

end NodeGroup.State

/-- A group of nodes as the provider reports it. -/
structure NodeGroup where
  /-- The id that the provider gave. -/
  id : NodeGroupId
  /-- The name that its maker chose. -/
  name : String
  /-- The cluster that it belongs to. -/
  cluster : String
  /-- Its labels. -/
  labels : SortedMap String String
  /-- The shape of its nodes. -/
  shape : Shape
  /-- The zone of its nodes, if reported. -/
  zone : Option Zone
  /-- The subnet of its nodes, if reported. -/
  subnet : Option SubnetId
  /-- The name of the disk kind. -/
  diskType : String
  /-- The size of the boot disk. -/
  diskSizeBytes : UInt64
  /-- Whether its capacity is discounted. -/
  discounted : Bool
  /-- The compute instance of its node, once there is one. -/
  instanceId : Option String
  /-- How it is doing. -/
  state : NodeGroup.State
deriving DecidableEq

/-- What a new group is made from. -/
structure NodeGroupSpec where
  /-- The name of the group. -/
  name : String
  /-- The cluster that it will belong to. -/
  cluster : String
  /-- The labels of the group. -/
  labels : SortedMap String String
  /-- The labels that its nodes have in the cluster. -/
  nodeLabels : SortedMap String String
  /-- The shape of its nodes. -/
  shape : Shape
  /-- The zone of its nodes. -/
  zone : Zone
  /-- The subnet of its nodes. -/
  subnet : SubnetId
  /-- The security groups of its nodes. -/
  securityGroups : List SecurityGroupId
  /-- Whether discounted capacity is bought. -/
  discounted : Bool
  /-- The kind of the boot disk. -/
  disk : DiskKind
  /-- The size of the boot disk. -/
  diskSizeBytes : UInt64
  /-- Whether networking is accelerated. -/
  acceleratedNetwork : Bool
deriving DecidableEq

/-- An operation that the provider records for a group. -/
structure GroupOperation where
  /-- The id of the operation. -/
  id : String
  /-- What kind of operation it is. -/
  kind : String
  /-- Whether it is finished. -/
  done : Bool
deriving Repr, DecidableEq

/-- Whether an operation is a deletion that goes on. -/
def GroupOperation.isPendingDelete (o : GroupOperation) : Bool :=
  !o.done && Text.occurs "DeleteNodeGroup".toList o.kind.toList

/-- The label that marks the groups made here. -/
def managedLabel : String := "managed-by"

/-- The value of the label that marks the groups made here. -/
def managedValue : String := "nodeplan"

/-- Whether a group with some labels in some cluster was made here for a cluster. -/
def isManaged (home cluster : String) (labels : SortedMap String String) : Bool :=
  cluster == home && labels.get? managedLabel == some managedValue

/-- Whether a group was made here for a cluster. -/
def NodeGroup.isManagedIn (g : NodeGroup) (home : String) : Bool := isManaged home g.cluster g.labels

end NodeSupply
