import NodeSupply.Provider.Basic
import NodeSupply.Rest.GroupDocument

/-!
# Other documents

How the provider's web service writes down clusters, subnets, security groups, operations, nodes and
compute instances.

## Main definitions

* `ClusterInfo.ofJson?`, `Subnet.ofJson?`, `SecurityGroup.ofJson?` : resources.
* `OperationDocument` : an operation, and what it says about the group it makes.
* `firstInstance?`, `owner?` : the instance of a group, and the group of an instance.
-/

namespace NodeSupply

/-- What is known about the cluster. -/
structure ClusterInfo where
  /-- The folder that its node groups lie in. -/
  folder : String
  /-- Its network. -/
  network : NetworkId
deriving Repr, DecidableEq

/-- A cluster as it is written down. -/
def ClusterInfo.ofJson? (value : Json) : Option ClusterInfo := do
  let members ← value.record? ["folderId", "networkId"]
  return ⟨← members.optional 0 "" Json.string?, ← members.optional 1 "" Json.string?⟩

/-- A subnet as it is written down. -/
def Subnet.ofJson? (value : Json) : Option Subnet := do
  let members ← value.record? ["id", "networkId", "zoneId"]
  return ⟨← members.required 0 Json.string?, ← members.optional 1 "" Json.string?,
    ← members.optional 2 "" Json.string?⟩

/-- A security group as it is written down. -/
def SecurityGroup.ofJson? (value : Json) : Option SecurityGroup := do
  let members ← value.record? ["id", "networkId"]
  return ⟨← members.required 0 Json.string?, ← members.optional 1 "" Json.string?⟩

/-! ### Operations -/

/-- Why an operation was refused. -/
structure OperationDocument.Status where
  /-- The code; zero if it was not refused. -/
  code : Int
  /-- What is said about it. -/
  message : String
deriving Repr, DecidableEq

/-- An operation as it is written down. -/
structure OperationDocument where
  /-- The id. -/
  id : String
  /-- Whether it is finished. -/
  done : Bool
  /-- What kind of operation it is. -/
  kind : String
  /-- The node group it is about. -/
  group : String
  /-- Why it was refused, if that is written down. -/
  status : Option OperationDocument.Status
deriving Repr, DecidableEq

namespace OperationDocument

/-- A signed word. -/
def code? : Json → Option Int
  | .integer n => if -0x8000000000000000 ≤ n ∧ n < 0x8000000000000000 then some n else none
  | _ => none

/-- What kind of operation it is, and the node group it is about. -/
def metadata? (value : Json) : Option (String × String) := do
  let members ← value.record? ["@type", "nodeGroupId"]
  return (← members.optional 0 "" Json.string?, ← members.optional 1 "" Json.string?)

/-- Why an operation was refused. -/
def status? (value : Json) : Option Status := do
  let members ← value.record? ["code", "message"]
  return ⟨← members.optional 0 0 code?, ← members.optional 1 "" Json.string?⟩

/-- An operation as it is written down. -/
def ofJson? (value : Json) : Option OperationDocument := do
  let members ← value.record? ["id", "done", "metadata", "error"]
  let (kind, group) ← members.optional 2 ("", "") metadata?
  return {
    id := ← members.optional 0 "" Json.string?
    done := ← members.optional 1 false Json.bool?
    kind
    group
    status := ← members.optional 3 none (Json.nullable status?) }

/-- The operation that is recorded. -/
def operation (d : OperationDocument) : GroupOperation := ⟨d.id, d.kind, d.done⟩

/-- The status of a refusal, the greatest one where the code is none. -/
def refusalStatus (code : Int) : UInt16 :=
  if 0 ≤ code ∧ code < UInt16.size then UInt16.ofNat code.toNat else 65535

/-- Fails if the operation was refused. -/
def accepted (d : OperationDocument) : Except ProviderError OperationDocument :=
  match d.status with
  | some status =>
    if status.code = 0 then .ok d else .error (.refused (refusalStatus status.code) status.message)
  | none => .ok d

/-- The group that the operation makes. -/
def newGroup (d : OperationDocument) : Except ProviderError NodeGroupId :=
  if d.group = "" then
    .error (.undecodable "create operation"
      ("operation " ++ d.id ++ " carries no node group id"))
  else .ok d.group

/-- The operations of a page, and the token of the next page. -/
def page? (value : Json) : Option (List OperationDocument × String) := do
  let members ← value.record? ["operations", "nextPageToken"]
  return (← members.optional 0 [] (Json.list? ofJson?), ← members.optional 1 "" Json.string?)

end OperationDocument

/-! ### Nodes and instances -/

/-- The compute instance of a node. -/
def nodeInstance? (value : Json) : Option String := do
  let members ← value.record? ["cloudStatus"]
  members.optional 0 "" fun status => do
    (← status.record? ["id"]).optional 0 "" Json.string?

/-- The compute instance of the first of some nodes, if it has one. -/
def firstInstance? (value : Json) : Option (Option String) := do
  let members ← value.record? ["nodes"]
  let nodes ← members.optional 0 [] (Json.list? nodeInstance?)
  return nodes.head?.filter (· ≠ "")

/-- The label of a compute instance that names its node group. -/
def ownerLabel : String := "managed-kubernetes-node-group-id"

/-- The node group that a compute instance is labelled with, if it is. -/
def owner? (value : Json) : Option (Option NodeGroupId) := do
  let members ← value.record? ["labels"]
  let labels ← members.optional 0 .empty Json.stringMap?
  return (labels.get? ownerLabel).filter (· ≠ "")

end NodeSupply
