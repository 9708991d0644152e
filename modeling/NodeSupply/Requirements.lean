import NodeSupply.Sorted.Map
import NodeSupply.Sorted.Set

/-!
# Scheduling requirements

The values that a set of labels may have.  A label that is not mentioned may have any value.

## Main definitions

* `Label` : the well-known labels.
* `Requirements.allows` : whether a label may have a value.
* `Requirements.compatible` : whether two sets of requirements can both be met, label by label.
-/

namespace NodeSupply

namespace Label

/-- The canonical name of an instance type. -/
def instanceType : String := "node.kubernetes.io/instance-type"

/-- The availability zone. -/
def zone : String := "topology.kubernetes.io/zone"

/-- The capacity type. -/
def capacityType : String := "karpenter.sh/capacity-type"

/-- The processor architecture. -/
def arch : String := "kubernetes.io/arch"

/-- The operating system. -/
def os : String := "kubernetes.io/os"

/-- The hardware platform. -/
def platform : String := "yandex.cloud/platform-id"

/-- The core fraction in percent. -/
def coreFraction : String := "yandex.cloud/core-fraction"

/-- The hardware platform, stamped on a node. -/
def nodePlatform : String := "yandex.cloud/instance-cpu-platform"

/-- The number of cores, stamped on a node. -/
def nodeCpu : String := "yandex.cloud/instance-cpu"

/-- The memory as a quantity, stamped on a node. -/
def nodeMemory : String := "yandex.cloud/instance-memory"

/-- The core fraction in percent, stamped on a node. -/
def nodeCoreFraction : String := "yandex.cloud/instance-cpu-fraction"

/-- The labels that an instance type has values for. -/
def wellKnown : List String :=
  [instanceType, zone, capacityType, arch, os, platform, coreFraction]

end Label

/-- The allowed values of each constrained label. -/
abbrev Requirements := SortedMap String (SortedSet String)

namespace Requirements

/-- The requirements of a list; the last entry for a label counts. -/
def of (entries : List (String × List String)) : Requirements :=
  .ofList (entries.map fun (key, values) => (key, .ofList values))

/-- Whether a label may have a value. -/
def allows (r : Requirements) (key value : String) : Bool :=
  (r.get? key).elim true (·.contains value)

/-- Whether every label that both constrain has a value that both allow. -/
def compatible (r s : Requirements) : Bool :=
  r.entries.all fun (key, values) => (s.get? key).elim true fun theirs => !values.disjoint theirs

end Requirements

end NodeSupply
