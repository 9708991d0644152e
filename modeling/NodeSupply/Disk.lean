import NodeSupply.Saturating
import NodeSupply.Text.Blank
import NodeSupply.Text.Numeral
import NodeSupply.Text.Quoted

/-!
# Boot disks

The kinds of network disks a node can boot from, and the sizes each kind is sold in.

## Main definitions

* `DiskKind` : a kind of disk, with its name.
* `DiskKind.ofConfigured?` : the kind that a configured name selects.
* `DiskSizes.ofKind` : the sizes on sale.
* `byteText` : a number of bytes in the largest binary unit that divides it.
-/

namespace NodeSupply

/-- A kind of network disk. -/
inductive DiskKind where
  /-- Replicated spinning disk. -/
  | hdd
  /-- Replicated solid-state disk. -/
  | ssd
  /-- Solid-state disk without replicas. -/
  | ssdNonreplicated
  /-- Solid-state disk for many operations a second. -/
  | ssdIoM3
deriving Repr, DecidableEq

namespace DiskKind

/-- Every kind. -/
def all : List DiskKind := [hdd, ssd, ssdNonreplicated, ssdIoM3]

/-- The provider's name of a kind. -/
def name : DiskKind → String
  | hdd => "network-hdd"
  | ssd => "network-ssd"
  | ssdNonreplicated => "network-ssd-nonreplicated"
  | ssdIoM3 => "network-ssd-io-m3"

/-- The kind of a name. -/
def ofName? (name : String) : Option DiskKind := all.find? (·.name == name)

/-- The kind that a configured name selects; blank selects the replicated solid-state disk. -/
def ofConfigured? (name : String) : Option DiskKind :=
  if Text.isBlank name then some ssd else ofName? name

/-- What is said about the name of no kind. -/
def refusal (name : String) : String := "unsupported disk type " ++ Text.quote name

end DiskKind

/-- The number of bytes in a MiB. -/
def mebibyte : Nat := 0x100000

/-- The number of bytes in a GiB. -/
def gibibyte : Nat := 0x40000000

/-- The number of bytes in a TiB. -/
def tebibyte : Nat := 0x10000000000

/-- The sizes that disks are sold in, in bytes. -/
structure DiskSizes where
  /-- The least size. -/
  least : UInt64
  /-- What every size is a multiple of. -/
  step : UInt64
  /-- The greatest size. -/
  greatest : UInt64
deriving Repr, DecidableEq

/-- The sizes that a kind of disk is sold in. -/
def DiskSizes.ofKind : DiskKind → DiskSizes
  | .hdd | .ssd =>
    ⟨.ofNat (4 * mebibyte), .ofNat (4 * mebibyte), .ofNat (8 * tebibyte)⟩
  | .ssdNonreplicated | .ssdIoM3 =>
    ⟨.ofNat (93 * gibibyte), .ofNat (93 * gibibyte), .ofNat (256 * tebibyte)⟩

/-- A number of bytes in the first of some units that divides it, or plain where none does. -/
def byteTextIn : List (Nat × String) → Nat → String
  | [], bytes => Numeral.text bytes
  | (unit, suffix) :: units, bytes =>
    if bytes % unit = 0 ∧ 0 < bytes then Numeral.text (bytes / unit) ++ suffix
    else byteTextIn units bytes

/-- A number of bytes in the largest binary unit that divides it. -/
def byteText (bytes : UInt64) : String :=
  byteTextIn [(tebibyte, "Ti"), (gibibyte, "Gi"), (mebibyte, "Mi")] bytes.toNat

end NodeSupply
