import NodeSupply.Json.Value
import NodeSupply.NodeClass
import NodeSupply.Sha256
import NodeSupply.Sorted.Set
import NodeSupply.Text.Utf8

/-!
# Fingerprints

What a verdict on a node class depends on, as one document, and the key under which the verdict is
kept: the name of the class and the start of the digest of that document.  Lists count as sets.

## Main definitions

* `Fingerprint.content` : what a verdict depends on.
* `Fingerprint.key` : the key of a class.
* `Fingerprint.owner?` : the name that a key belongs to.
-/

namespace NodeSupply.Fingerprint

/-- A subnet with the zone it was found in. -/
structure Placement where
  /-- The subnet. -/
  subnet : SubnetId
  /-- The zone. -/
  zone : Zone
deriving Repr, DecidableEq

namespace Placement

/-- Compares placements by subnet, then zone. -/
@[reducible] def order : Placement → Placement → Ordering :=
  compareLex (compareOn subnet) (compareOn zone)

instance : Ord Placement := ⟨order⟩

instance : Std.TransOrd Placement := inferInstanceAs (Std.TransCmp order)

instance : Std.LawfulEqOrd Placement where
  eq_of_compare {a b} h := by
    obtain ⟨hs, hz⟩ := Ordering.then_eq_eq.1 h
    have hs : a.subnet = b.subnet := Std.LawfulEqOrd.eq_of_compare hs
    have hz : a.zone = b.zone := Std.LawfulEqOrd.eq_of_compare hz
    cases a; cases b; simp_all

end Placement

/-- What a verdict on a class depends on. -/
structure Content where
  /-- The subnets with their zones. -/
  subnets : SortedSet Placement
  /-- The labels. -/
  labels : SortedMap String String
  /-- The configured disk kind. -/
  diskType : String
  /-- The size of the boot disk. -/
  diskSizeBytes : UInt64
  /-- The security groups. -/
  securityGroups : SortedSet SecurityGroupId
  /-- Whether accelerated networking is asked for. -/
  acceleratedNetwork : Bool
  /-- The core fractions. -/
  coreFractions : SortedSet CoreFraction
deriving DecidableEq

/-- What a verdict on a class depends on. -/
def content (c : NodeClass) : Content where
  subnets := .ofList (c.subnets.map fun s => ⟨s.id, s.zone⟩)
  labels := c.labels
  diskType := c.diskType
  diskSizeBytes := c.diskSizeBytes
  securityGroups := .ofList c.securityGroups
  acceleratedNetwork := c.acceleratedNetwork
  coreFractions := .ofList c.coreFractions

/-- The document of some content. -/
def Content.json (c : Content) : Json :=
  .object
    [("subnets", .array (c.subnets.toList.map fun s => .array [.text s.subnet, .text s.zone])),
     ("labels", .object (c.labels.entries.map fun e => (e.1, .text e.2))),
     ("disk_type", .text c.diskType),
     ("disk_size_bytes", .integer c.diskSizeBytes.toNat),
     ("security_groups", .array (c.securityGroups.toList.map .text)),
     ("accelerated_network", .bool c.acceleratedNetwork),
     ("core_fractions", .array (c.coreFractions.toList.map fun f => .integer f.percent))]

/-- The first eight bytes of the digest of some content, in hexadecimal. -/
def Content.digest (c : Content) : String :=
  Sha256.hex ((Sha256.digest (Utf8.encode c.json.compact)).take 8)

/-- The key under which the verdict on a class is kept. -/
def key (c : NodeClass) : String := c.name ++ ":" ++ (content c).digest

/-- What stands before the last colon, if there is a colon. -/
def beforeLastColon : List Char → Option (List Char)
  | [] => none
  | c :: cs =>
    match beforeLastColon cs with
    | some name => some (c :: name)
    | none => if c = ':' then some [] else none

/-- The name that a key belongs to, if it belongs to one. -/
def owner? (key : String) : Option String := (beforeLastColon key.toList).map String.ofList

end NodeSupply.Fingerprint
