import NodeSupply.Text.Quoted

/-!
# Identifiers

Names that the provider gives to its resources, and the external id that a cluster knows a node
by: the scheme `yandex://` followed by the id of the node's compute instance.

## Main definitions

* `ProviderId.forInstance`, `ProviderId.parse?`, `ProviderId.instance_` : external ids.
-/

namespace NodeSupply

/-- An availability zone, such as `ru-central1-a`. -/
abbrev Zone := String

/-- A subnet of the provider's network service. -/
abbrev SubnetId := String

/-- A network of the provider's network service. -/
abbrev NetworkId := String

/-- A security group of the provider's network service. -/
abbrev SecurityGroupId := String

/-- A group of cluster nodes. -/
abbrev NodeGroupId := String

/-- The external id of a node. -/
structure ProviderId where
  /-- The id as the cluster writes it. -/
  text : String
deriving Repr, DecidableEq

namespace ProviderId

/-- What external ids start with. -/
def scheme : List Char := "yandex://".toList

/-- The external id of the node on a compute instance. -/
def forInstance (id : String) : ProviderId := ⟨String.ofList (scheme ++ id.toList)⟩

/-- Text after the scheme, if it starts with the scheme. -/
def afterScheme? (s : String) : Option String :=
  if scheme.isPrefixOf s.toList then some (String.ofList (s.toList.drop scheme.length)) else none

/-- The external id that text is: the scheme with something after it. -/
def parse? (s : String) : Option ProviderId :=
  match afterScheme? s with
  | some "" => none
  | some _ => some ⟨s⟩
  | none => none

/-- The compute instance that an external id names. -/
def instance_ (id : ProviderId) : String := (afterScheme? id.text).getD id.text

/-- What is said about text that is no external id. -/
def refusal (s : String) : String :=
  "provider id " ++ Text.quote s ++ " does not start with yandex://"

end ProviderId

end NodeSupply
