import NodeSupply.Json.Decode
import NodeSupply.Provider.Error
import NodeSupply.Provider.NodeGroup
import NodeSupply.Requirements

/-!
# Documents about node groups

How the provider's web service writes a node group down, and how it wants a new one asked for.  A
document is read strictly, and only then turned into a group, which may still fail.

## Main definitions

* `GroupDocument`, `GroupDocument.ofJson?` : a group as it is written down.
* `GroupDocument.group` : the group that a document is about.
* `NodeGroupSpec.document` : the document that asks for a new group.
-/

namespace NodeSupply

/-- A number that is written as a number or as text; no text and `null` stand for nothing. -/
def Json.wordOrText? : Json → Option UInt64
  | .null => some 0
  | .text "" => some 0
  | .text s => (Numeral.readSignedBelow? UInt64.size s.toList).map UInt64.ofNat
  | value => (value.naturalBelow? UInt64.size).map UInt64.ofNat

/-- A place that a group lies in. -/
structure GroupDocument.Location where
  /-- The zone. -/
  zone : String
  /-- The subnet. -/
  subnet : String
deriving Repr, DecidableEq, Inhabited

/-- How the nodes of a group are made. -/
structure GroupDocument.Template where
  /-- The hardware platform. -/
  platform : String
  /-- The memory in bytes. -/
  memory : UInt64
  /-- The number of cores. -/
  cores : UInt64
  /-- The core fraction in percent. -/
  coreFraction : UInt64
  /-- The name of the disk kind. -/
  diskType : String
  /-- The size of the boot disk. -/
  diskSize : UInt64
  /-- Whether the capacity is discounted. -/
  preemptible : Bool
  /-- The subnets of each network interface. -/
  interfaceSubnets : List (List String)
deriving Repr, DecidableEq, Inhabited

/-- A group as it is written down. -/
structure GroupDocument where
  /-- The id. -/
  id : String
  /-- The name. -/
  name : String
  /-- The cluster. -/
  cluster : String
  /-- The labels. -/
  labels : SortedMap String String
  /-- The status. -/
  status : String
  /-- How its nodes are made. -/
  template : GroupDocument.Template
  /-- Where it lies. -/
  locations : List GroupDocument.Location
deriving DecidableEq

namespace GroupDocument

/-! ### Reading -/

/-- The memory, cores and core fraction of nodes. -/
def resources? (value : Json) : Option (UInt64 × UInt64 × UInt64) := do
  let members ← value.record? ["memory", "cores", "coreFraction"]
  return (← members.optional 0 0 Json.wordOrText?, ← members.optional 1 0 Json.wordOrText?,
    ← members.optional 2 0 Json.wordOrText?)

/-- The kind and the size of a boot disk. -/
def disk? (value : Json) : Option (String × UInt64) := do
  let members ← value.record? ["diskTypeId", "diskSize"]
  return (← members.optional 0 "" Json.string?, ← members.optional 1 0 Json.wordOrText?)

/-- Whether capacity is discounted. -/
def preemptible? (value : Json) : Option Bool := do
  (← value.record? ["preemptible"]).optional 0 false Json.bool?

/-- The subnets of a network interface. -/
def interface? (value : Json) : Option (List String) := do
  (← value.record? ["subnetIds"]).optional 0 [] (Json.list? Json.string?)

/-- How the nodes of a group are made. -/
def template? (value : Json) : Option Template := do
  let members ← value.record?
    ["platformId", "resourcesSpec", "bootDiskSpec", "schedulingPolicy", "networkInterfaceSpecs"]
  let platform ← members.optional 0 "" Json.string?
  let (memory, cores, coreFraction) ← members.optional 1 (0, 0, 0) resources?
  let (diskType, diskSize) ← members.optional 2 ("", 0) disk?
  let preemptible ← members.optional 3 false preemptible?
  let interfaceSubnets ← members.optional 4 [] (Json.list? interface?)
  return ⟨platform, memory, cores, coreFraction, diskType, diskSize, preemptible, interfaceSubnets⟩

/-- A place that a group lies in. -/
def location? (value : Json) : Option Location := do
  let members ← value.record? ["zoneId", "subnetId"]
  return ⟨← members.optional 0 "" Json.string?, ← members.optional 1 "" Json.string?⟩

/-- The places that a group lies in. -/
def locations? (value : Json) : Option (List Location) := do
  (← value.record? ["locations"]).optional 0 [] (Json.list? location?)

/-- A group as it is written down. -/
def ofJson? (value : Json) : Option GroupDocument := do
  let members ← value.record?
    ["id", "name", "clusterId", "labels", "status", "nodeTemplate", "allocationPolicy"]
  return {
    id := ← members.required 0 Json.string?
    name := ← members.optional 1 "" Json.string?
    cluster := ← members.optional 2 "" Json.string?
    labels := ← members.optional 3 .empty Json.stringMap?
    status := ← members.optional 4 "" Json.string?
    template := ← members.optional 5 default template?
    locations := ← members.optional 6 [] locations? }

/-! ### Groups -/

/-- Whether a group was made here for a cluster. -/
def isManagedIn (d : GroupDocument) (home : String) : Bool := isManaged home d.cluster d.labels

/-- A document that is about no group. -/
def undecodable (message : String) : ProviderError := .undecodable "node group" message

/-- The subnet of a group: that of its first place, or else the first one of an interface. -/
def subnet? (d : GroupDocument) : Option SubnetId :=
  match (d.locations.head?.map (·.subnet)).filter (· ≠ "") with
  | some subnet => some subnet
  | none => d.template.interfaceSubnets.flatten.head?

/-- The group that a document is about. -/
def group (d : GroupDocument) : Except ProviderError NodeGroup := do
  let t := d.template
  let fraction ← (CoreFraction.ofPercent? t.coreFraction.toNat).elim
    (.error (undecodable ("invalid core fraction " ++ Numeral.text t.coreFraction.toNat))) .ok
  if UInt32.size ≤ t.cores.toNat then
    throw (undecodable "number too large to fit in target type")
  return {
    id := d.id
    name := d.name
    cluster := d.cluster
    labels := d.labels
    shape := ⟨t.platform, fraction, UInt32.ofNat t.cores.toNat, t.memory >>> 20⟩
    zone := (d.locations.head?.map (·.zone)).filter (· ≠ "")
    subnet := d.subnet?
    diskType := t.diskType
    diskSizeBytes := t.diskSize
    discounted := t.preemptible
    instanceId := none
    state := .ofStatus d.status }

/-- The groups of documents that were made here for a cluster; one that is about no group is
passed over. -/
def managedGroups (home : String) (documents : List GroupDocument) : List NodeGroup :=
  (documents.filter (·.isManagedIn home)).filterMap fun d => d.group.toOption

/-- The groups of a page, and the token of the next page. -/
def page? (value : Json) : Option (List GroupDocument × String) := do
  let members ← value.record? ["nodeGroups", "nextPageToken"]
  return (← members.optional 0 [] (Json.list? ofJson?), ← members.optional 1 "" Json.string?)

end GroupDocument

/-! ### Asking for a group -/

namespace NodeGroupSpec

/-- A number as text. -/
def numberText (n : Nat) : Json := .text (Numeral.text n)

/-- Keys with strings. -/
def labelsJson (labels : SortedMap String String) : Json :=
  .object (labels.entries.map fun (key, value) => (key, .text value))

/-- The memory of a node in bytes, as far as a word holds it. -/
def memoryBytes (s : NodeGroupSpec) : UInt64 := s.shape.memoryMib <<< 20

/-- How the node of a new group is made. -/
def templateJson (s : NodeGroupSpec) : Json :=
  .object
    [("name", .text (s.name ++ "-" ++ s.zone ++ "-\x7binstance.index\x7d")),
     ("labels", labelsJson s.labels),
     ("platformId", .text s.shape.platform),
     ("resourcesSpec", .object
       [("memory", numberText s.memoryBytes.toNat),
        ("cores", numberText s.shape.cpu.toNat),
        ("coreFraction", numberText s.shape.fraction.percent)]),
     ("bootDiskSpec", .object
       [("diskTypeId", .text s.disk.name), ("diskSize", numberText s.diskSizeBytes.toNat)]),
     ("metadata", .object [("enable-oslogin", .text "true")]),
     ("schedulingPolicy", .object [("preemptible", .bool s.discounted)]),
     ("networkInterfaceSpecs", .array [.object
       [("subnetIds", .array [.text s.subnet]),
        ("primaryV4AddressSpec", .object []),
        ("securityGroupIds", .array (s.securityGroups.map .text))]]),
     ("networkSettings", .object
       [("type", .text (if s.acceleratedNetwork then "SOFTWARE_ACCELERATED" else "STANDARD"))]),
     ("containerRuntimeSettings", .object [("type", .text "CONTAINERD")])]

/-- The taint that keeps workloads off a node until it has joined the cluster. -/
def unregisteredTaint : Json :=
  .object [("key", .text "karpenter.sh/unregistered"), ("value", .text ""),
    ("effect", .text "NO_EXECUTE")]

/-- The document that asks for a new group of one node. -/
def document (s : NodeGroupSpec) : Json :=
  .object
    [("clusterId", .text s.cluster),
     ("name", .text s.name),
     ("description", .text "nodeplan node group"),
     ("labels", labelsJson s.labels),
     ("nodeTemplate", s.templateJson),
     ("scalePolicy", .object [("fixedScale", .object [("size", .text "1")])]),
     ("allocationPolicy", .object
       [("locations", .array [.object [("zoneId", .text s.zone)]])]),
     ("deployPolicy", .object [("maxUnavailable", .text "0"), ("maxExpansion", .text "1")]),
     ("maintenancePolicy", .object [("autoRepair", .bool true), ("autoUpgrade", .bool false)]),
     ("nodeTaints", .array [unregisteredTaint]),
     ("nodeLabels", labelsJson s.nodeLabels)]

end NodeGroupSpec

end NodeSupply
