import NodeSupply.Provider.Basic

/-!
# A provider in memory

A provider that keeps its resources in maps.  It can be told to fail the next calls of a kind, to
take its time for them, and to show the instance of a new group only after some calls.

## Main definitions

* `Memory` : the resources and what the provider was told.
* `Memory.answer` : what a call that gets through answers.
* The instance of `Provider` : a call is noted and its failure taken when it starts, and it acts on
  the resources when it ends.
-/

namespace NodeSupply

/-- A provider in memory. -/
structure Memory where
  /-- The network of the cluster. -/
  network : NetworkId
  /-- The subnets. -/
  subnets : SortedMap SubnetId Subnet
  /-- The security groups. -/
  securityGroups : SortedMap SecurityGroupId SecurityGroup
  /-- The node groups. -/
  nodeGroups : SortedMap NodeGroupId NodeGroup
  /-- The operations recorded for each group, oldest first. -/
  operations : SortedMap NodeGroupId (List GroupOperation)
  /-- The group that each compute instance belongs to. -/
  owners : SortedMap String NodeGroupId
  /-- The instance of each group that has not shown it, and how many calls will miss it. -/
  hidden : SortedMap NodeGroupId (Nat × String)
  /-- How many calls will miss the instance of a new group. -/
  instanceDelay : Nat
  /-- The failures that the next calls of each kind will have. -/
  failures : SortedMap String (List ProviderError)
  /-- How long the calls of each kind take. -/
  delays : SortedMap String Duration
  /-- The calls so far, latest first. -/
  calls : List String
  /-- What groups were made from, latest first. -/
  created : List NodeGroupSpec
  /-- How many groups were made. -/
  count : Nat
deriving DecidableEq

namespace Memory

/-- A provider that has nothing but the network of the cluster. -/
def ofNetwork (network : NetworkId) : Memory where
  network
  subnets := .empty
  securityGroups := .empty
  nodeGroups := .empty
  operations := .empty
  owners := .empty
  hidden := .empty
  instanceDelay := 0
  failures := .empty
  delays := .empty
  calls := []
  created := []
  count := 0

/-- A running group of one small node without an instance. -/
def plainGroup (id : NodeGroupId) (name cluster : String) (labels : SortedMap String String) :
    NodeGroup where
  id
  name
  cluster
  labels
  shape := ⟨"standard-v3", .full, 2, 4096⟩
  zone := some "ru-central1-a"
  subnet := some "subnet-a"
  diskType := DiskKind.ssd.name
  diskSizeBytes := UInt64.ofNat (64 * gibibyte)
  discounted := false
  instanceId := none
  state := .running

/-! ### Telling the provider -/

/-- Adds a subnet. -/
def addSubnet (m : Memory) (s : Subnet) : Memory := { m with subnets := m.subnets.insert s.id s }

/-- Adds a security group. -/
def addSecurityGroup (m : Memory) (g : SecurityGroup) : Memory :=
  { m with securityGroups := m.securityGroups.insert g.id g }

/-- Adds a node group that was made elsewhere. -/
def addNodeGroup (m : Memory) (g : NodeGroup) : Memory :=
  { m with
    nodeGroups := m.nodeGroups.insert g.id g
    owners := g.instanceId.elim m.owners fun i => m.owners.insert i g.id }

/-- The operations recorded for a group. -/
def operationsOf (m : Memory) (id : NodeGroupId) : List GroupOperation :=
  (m.operations.get? id).getD []

/-- Records an operation for a group. -/
def record (m : Memory) (id : NodeGroupId) (o : GroupOperation) : Memory :=
  { m with operations := m.operations.insert id (m.operationsOf id ++ [o]) }

/-- Records an operation for a group, numbered after all that were recorded before. -/
def addOperation (m : Memory) (id : NodeGroupId) (kind : String) (done : Bool) : Memory :=
  let count := m.operations.values.flatten.length
  m.record id ⟨"op-" ++ Numeral.text count, kind, done⟩

/-- Hides the instances of new groups from so many calls. -/
def delayInstances (m : Memory) (calls : Nat) : Memory := { m with instanceDelay := calls }

/-- Fails one more of the next calls of a kind. -/
def failNext (m : Memory) (operation : String) (e : ProviderError) : Memory :=
  { m with
    failures := m.failures.insert operation ((m.failures.get? operation).getD [] ++ [e]) }

/-- Makes the calls of a kind take some time. -/
def delay (m : Memory) (operation : String) (d : Duration) : Memory :=
  { m with delays := m.delays.insert operation d }

/-! ### Answers -/

/-- Makes a group, whose instance stays hidden for now. -/
def create (m : Memory) (spec : NodeGroupSpec) : NodeGroupId × Memory :=
  let number := Numeral.text (m.count + 1)
  let id := "ng-" ++ number
  let instance_ := "inst-" ++ number
  let group : NodeGroup :=
    { id
      name := spec.name
      cluster := spec.cluster
      labels := spec.labels
      shape := spec.shape
      zone := some spec.zone
      subnet := some spec.subnet
      diskType := spec.disk.name
      diskSizeBytes := spec.diskSizeBytes
      discounted := spec.discounted
      instanceId := none
      state := .provisioning }
  (id,
    { m with
      count := m.count + 1
      created := spec :: m.created
      nodeGroups := m.nodeGroups.insert id group
      owners := m.owners.insert instance_ id
      hidden := m.hidden.insert id (m.instanceDelay, instance_) })

/-- The kind of operation that a deletion is recorded as. -/
def deleteKind : String := "yandex.cloud.k8s.v1.DeleteNodeGroupMetadata"

/-- Begins to delete a group. -/
def delete (m : Memory) (g : NodeGroup) : Memory :=
  let m := { m with nodeGroups := m.nodeGroups.insert g.id { g with state := .deleting } }
  m.record g.id
    ⟨"op-delete-" ++ Numeral.text (m.operationsOf g.id).length, deleteKind, false⟩

/-- Shows the instance of a group, which serves from now on. -/
def reveal (m : Memory) (id : NodeGroupId) (instance_ : String) : Memory :=
  { m with
    hidden := m.hidden.erase id
    nodeGroups := (m.nodeGroups.get? id).elim m.nodeGroups fun g =>
      m.nodeGroups.insert id { g with instanceId := some instance_, state := .running } }

/-- What is said where a node group is not there. -/
def missingGroup (id : NodeGroupId) : ProviderError := .notFound "node group" id

/-- What a call that gets through answers, and the provider after it. -/
def answer (m : Memory) : (r : Request) → r.Outcome × Memory
  | .clusterNetwork => (.ok m.network, m)
  | .subnet id => ((m.subnets.get? id).elim (.error (.notFound "subnet" id)) .ok, m)
  | .securityGroup id =>
    ((m.securityGroups.get? id).elim (.error (.notFound "security group" id)) .ok, m)
  | .nodeGroups => (.ok m.nodeGroups.values, m)
  | .nodeGroup id => ((m.nodeGroups.get? id).elim (.error (missingGroup id)) .ok, m)
  | .createNodeGroup spec =>
    let (id, m) := m.create spec
    (.ok id, m)
  | .deleteNodeGroup id =>
    match m.nodeGroups.get? id with
    | none => (.error (missingGroup id), m)
    | some g => (.ok (), m.delete g)
  | .operations id =>
    if m.nodeGroups.contains id then (.ok (m.operationsOf id), m)
    else (.error (missingGroup id), m)
  | .instanceOf id =>
    match m.hidden.get? id with
    | some (0, instance_) => (.ok (some instance_), m.reveal id instance_)
    | some (n + 1, instance_) =>
      (.ok none, { m with hidden := m.hidden.insert id (n, instance_) })
    | none =>
      match m.nodeGroups.get? id with
      | none => (.error (missingGroup id), m)
      | some g => (.ok g.instanceId, m)
  | .ownerOf instance_ =>
    ((m.owners.get? instance_).elim (.error (.notFound "instance" instance_)) (.ok ∘ some), m)

/-! ### Calls -/

/-- A call under way. -/
structure Call where
  /-- When it ends. -/
  due : Instant
  /-- The failure that it will have. -/
  failure : Option ProviderError
deriving Repr, DecidableEq

/-- Starts a call: it is noted, and takes the next failure of its kind. -/
def start (m : Memory) (now : Instant) (r : Request) : Call × Memory :=
  let failures := (m.failures.get? r.operation).getD []
  (⟨now + (m.delays.get? r.operation).getD 0, failures.head?⟩,
    { m with
      calls := r.operation :: m.calls
      failures := m.failures.insert r.operation failures.tail })

/-- Looks at a call: once it is due it fails or acts. -/
def look (m : Memory) (now : Instant) (r : Request) (c : Call) :
    Progress Memory Call r.Outcome :=
  if now < c.due then .waiting
  else
    match c.failure with
    | some e => .finished (.error e) m
    | none =>
      let (outcome, m) := m.answer r
      .finished outcome m

instance : Provider Memory where
  Pending _ := Call
  start := start
  look := look
  due? c := some c.due
  abandon m _ := m

end Memory

end NodeSupply
