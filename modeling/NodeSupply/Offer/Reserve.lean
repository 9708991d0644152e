import NodeSupply.Saturating

/-!
# What a node keeps for itself

A node reserves a falling share of its memory and of its cores for system daemons, a fixed amount
of storage, and room that must stay free before pods are evicted.

## Main definitions

* `Resources`, `Quantities` : what a node has, and amounts of it.
* `Reserve.ofCapacity` : what a node with some capacity keeps.
* `Resources.allocatable` : what is left for workloads.
-/

namespace NodeSupply

/-- The capacity of a node. -/
structure Resources where
  /-- The number of cores. -/
  cpu : UInt32
  /-- The memory in MiB. -/
  memoryMib : UInt64
  /-- The boot disk in GiB. -/
  diskGib : UInt64
deriving Repr, DecidableEq

/-- Amounts of what a node has. -/
structure Quantities where
  /-- Thousandths of a core. -/
  cpuMillis : UInt64
  /-- Memory in MiB. -/
  memoryMib : UInt64
  /-- Storage in MiB. -/
  storageMib : UInt64
deriving Repr, DecidableEq

namespace Quantities

/-- The sum in each component, at most the greatest word. -/
def add (a b : Quantities) : Quantities :=
  ⟨Saturating.add a.cpuMillis b.cpuMillis, Saturating.add a.memoryMib b.memoryMib,
   Saturating.add a.storageMib b.storageMib⟩

/-- The difference in each component, at least zero. -/
def sub (a b : Quantities) : Quantities :=
  ⟨Saturating.sub a.cpuMillis b.cpuMillis, Saturating.sub a.memoryMib b.memoryMib,
   Saturating.sub a.storageMib b.storageMib⟩

/-- All of a capacity. -/
def ofResources (r : Resources) : Quantities :=
  ⟨Saturating.clamp (r.cpu.toNat * 1000), r.memoryMib, Saturating.mul r.diskGib 1024⟩

end Quantities

/-! ### Falling shares -/

/-- The sum of saturating products of amounts and weights, added from the left. -/
def weightedSum (parts : List (Nat × Nat)) : UInt64 :=
  parts.foldl (fun sum (amount, weight) =>
    Saturating.add sum (Saturating.clamp (amount * weight))) 0

/-- The part of `value` from `start` on, at most `width` of it. -/
def band (value start width : Nat) : Nat := min (value - start) width

/-- The bands of memory, in MiB, with the share of each that is reserved, in percent. -/
def memoryBands (mib : Nat) : List (Nat × Nat) :=
  [(band mib 0 4096, 25), (band mib 4096 4096, 20), (band mib 8192 8192, 10),
   (band mib 16384 114688, 6), (mib - 131072, 2)]

/-- The memory reserved for system daemons, in MiB; small nodes reserve a fixed amount. -/
def reservedMemoryMib (mib : UInt64) : UInt64 :=
  if mib < 1024 then 255 else weightedSum (memoryBands mib.toNat) / 100

/-- The bands of cores with the share of each core that is reserved, in tenths of a thousandth. -/
def cpuBands (cores : Nat) : List (Nat × Nat) :=
  [(band cores 0 1, 600), (band cores 1 1, 100), (band cores 2 2, 50), (cores - 4, 25)]

/-- The cores reserved for system daemons, in thousandths, a half rounded up. -/
def reservedCpuMillis (cores : UInt32) : UInt64 :=
  Saturating.add (weightedSum (cpuBands cores.toNat)) 5 / 10

/-! ### The reserve of a node -/

/-- What a node keeps for itself. -/
structure Reserve where
  /-- What system daemons get. -/
  daemons : Quantities
  /-- What must stay free before pods are evicted. -/
  eviction : Quantities
deriving Repr, DecidableEq

namespace Reserve

/-- What a node with some capacity keeps for itself. -/
def ofCapacity (r : Resources) : Reserve where
  daemons := ⟨reservedCpuMillis r.cpu, reservedMemoryMib r.memoryMib, 15 * 1024⟩
  eviction := ⟨0, 100, Saturating.add (Saturating.mul r.diskGib 1024) 9 / 10⟩

/-- Both parts together. -/
def total (r : Reserve) : Quantities := r.daemons.add r.eviction

end Reserve

/-- What a capacity leaves for workloads. -/
def Resources.allocatable (r : Resources) : Quantities :=
  (Quantities.ofResources r).sub (Reserve.ofCapacity r).total

end NodeSupply
