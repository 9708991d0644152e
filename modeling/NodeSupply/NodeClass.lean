import NodeSupply.Identifier
import NodeSupply.Shape.Basic
import NodeSupply.Sorted.Map

/-!
# Node classes

What a user declares about a kind of node, and what is known about the subnets it may live in.

## Main definitions

* `NodeClass` : the settings and the status of a class of nodes.
-/

namespace NodeSupply

/-- Whether a prerequisite holds. -/
inductive Readiness where
  /-- It holds. -/
  | true
  /-- It was looked at and does not hold. -/
  | false
  /-- It has not been looked at. -/
  | unknown
deriving Repr, DecidableEq

/-- A subnet that a node may live in. -/
structure ResolvedSubnet where
  /-- The subnet. -/
  id : SubnetId
  /-- The zone it was found in. -/
  zone : Zone
  /-- The number of free addresses, if known. -/
  availableIps : Option UInt64
deriving Repr, DecidableEq

/-- A class of nodes. -/
structure NodeClass where
  /-- The name of the class. -/
  name : String
  /-- The configured name of the disk kind. -/
  diskType : String
  /-- The size of the boot disk. -/
  diskSizeBytes : UInt64
  /-- The labels of node groups and nodes. -/
  labels : SortedMap String String
  /-- The security groups of the nodes' interfaces. -/
  securityGroups : List SecurityGroupId
  /-- The allowed core fractions; none allows all. -/
  coreFractions : List CoreFraction
  /-- Whether accelerated networking is asked for. -/
  acceleratedNetwork : Bool
  /-- Whether discounted capacity may be bought. -/
  discountable : Bool
  /-- The subnets that the nodes may live in. -/
  subnets : List ResolvedSubnet
  /-- Whether the subnets were resolved. -/
  subnetsReady : Readiness
deriving DecidableEq

namespace NodeClass

/-- A class with nothing declared. -/
def named (name : String) : NodeClass :=
  ⟨name, "", 0, .empty, [], [], false, false, [], .unknown⟩

/-- Whether nodes of a class may have a core fraction. -/
def allowsFraction (c : NodeClass) (f : CoreFraction) : Bool :=
  c.coreFractions.isEmpty || c.coreFractions.contains f

end NodeClass

end NodeSupply
