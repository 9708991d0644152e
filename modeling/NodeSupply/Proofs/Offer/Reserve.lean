import Mathlib.Algebra.BigOperators.Intervals
import Mathlib.Algebra.Order.Round
import Mathlib.Data.Rat.Floor
import NodeSupply.Proofs.Offer.Resolution

/-!
# What a node keeps grows with the node

Every MiB of memory and every core adds a share of its own to what a node keeps for system daemons,
and the share depends on the place alone: the first ones give most.  What is kept is rounded and
stops at the greatest word, but one more unit of a resource never makes it less, and never makes it
more by more than that unit.  So with a larger node what is kept and what is left both grow.

## Main definitions

* `memoryShare`, `coreShare` : the share of a MiB and of a core, by its place.
* `totalWeight` : what weighted amounts come to where no word bounds them.
* `Gradual` : a kept amount that grows, but not by more than the whole.

## Main statements

* `toNat_weightedSum` : sums that stop at the greatest word after each part do so once.
* `totalWeight_memoryBands`, `totalWeight_cpuBands` : bands hold the shares of their places.
* `Gradual.monotone_sub` : what a gradual amount leaves grows.
* `Reserve.shares_and_growth` : the shares, the growth, and what is left, for every capacity.
-/

namespace NodeSupply

open Finset (range)

/-! ### Shares -/

/-- What is kept of the MiB of memory at a place, in percent. -/
def memoryShare (place : Nat) : Nat :=
  if place < 4 * 1024 then 25
  else if place < 8 * 1024 then 20
  else if place < 16 * 1024 then 10
  else if place < 128 * 1024 then 6
  else 2

theorem memoryShare_le (place : Nat) : memoryShare place ≤ 25 := by
  unfold memoryShare
  split_ifs <;> decide

/-- What is kept of the core at a place, in thousandths. -/
def coreShare (place : Nat) : ℚ :=
  if place < 1 then 60
  else if place < 2 then 10
  else if place < 4 then 5
  else 5 / 2

/-- What weighted amounts come to where no word bounds them. -/
def totalWeight (parts : List (Nat × Nat)) : Nat := (parts.map fun part => part.1 * part.2).sum

theorem totalWeight_nil : totalWeight [] = 0 := rfl

theorem totalWeight_cons (amount weight : Nat) (parts : List (Nat × Nat)) :
    totalWeight ((amount, weight) :: parts) = amount * weight + totalWeight parts := by
  rw [totalWeight, List.map_cons, List.sum_cons, totalWeight]

/-- A sum that stops at the greatest word after each part is the whole sum, stopped once. -/
theorem toNat_weightedSum (parts : List (Nat × Nat)) :
    (weightedSum parts).toNat = min (totalWeight parts) Saturating.greatest := by
  suffices ∀ sum : UInt64, (parts.foldl (fun sum part =>
      Saturating.add sum (Saturating.clamp (part.1 * part.2))) sum).toNat =
        min (sum.toNat + totalWeight parts) Saturating.greatest by
    refine (this 0).trans ?_
    simp
  induction parts with
  | nil =>
    intro sum
    have := sum.toNat_lt
    simp only [List.foldl_nil, totalWeight_nil, Saturating.greatest]
    omega
  | cons part parts ih =>
    intro sum
    rw [List.foldl_cons, ih, Saturating.toNat_add, Saturating.toNat_clamp, totalWeight_cons]
    omega

/-! ### Bands -/

/-- One more unit is in a band or not. -/
theorem band_succ (n start width : Nat) :
    band (n + 1) start width =
      band n start width + if start ≤ n ∧ n < start + width then 1 else 0 := by
  unfold band
  split_ifs <;> omega

/-- One more unit is above a bound or not. -/
theorem succ_sub_eq_add_ite (n start : Nat) :
    n + 1 - start = n - start + if start ≤ n then 1 else 0 := by
  split_ifs <;> omega

/-- One more MiB adds the share of its place. -/
theorem totalWeight_memoryBands_succ (n : Nat) :
    totalWeight (memoryBands (n + 1)) = totalWeight (memoryBands n) + memoryShare n := by
  rw [memoryBands, memoryBands]
  simp only [totalWeight_cons, totalWeight_nil, band_succ, succ_sub_eq_add_ite n, memoryShare,
    Nat.add_mul]
  split_ifs <;> omega

theorem totalWeight_memoryBands (n : Nat) :
    totalWeight (memoryBands n) = ∑ place ∈ range n, memoryShare place := by
  induction n with
  | zero => rfl
  | succ n ih => rw [totalWeight_memoryBands_succ, ih, Finset.sum_range_succ]

/-- One more core adds the share of its place, in tenths. -/
theorem totalWeight_cpuBands_succ (n : Nat) : totalWeight (cpuBands (n + 1)) =
    totalWeight (cpuBands n) +
      if n < 1 then 600 else if n < 2 then 100 else if n < 4 then 50 else 25 := by
  rw [cpuBands, cpuBands]
  simp only [totalWeight_cons, totalWeight_nil, band_succ, succ_sub_eq_add_ite n, Nat.add_mul]
  split_ifs <;> omega

theorem totalWeight_cpuBands (n : Nat) :
    (totalWeight (cpuBands n) : ℚ) = 10 * ∑ place ∈ range n, coreShare place := by
  induction n with
  | zero => simp [cpuBands, totalWeight, band]
  | succ n ih =>
    rw [totalWeight_cpuBands_succ, Nat.cast_add, ih, Finset.sum_range_succ, mul_add]
    congr 1
    unfold coreShare
    split_ifs <;> norm_num

/-! ### Amounts that are kept -/

/-- What is kept of `n` units grows with `n`, but with each unit by no more than the unit. -/
structure Gradual (unit : Nat) (kept : Nat → Nat) : Prop where
  le_succ : ∀ n, kept n ≤ kept (n + 1)
  succ_le : ∀ n, kept (n + 1) ≤ kept n + unit

namespace Gradual

variable {unit : Nat} {kept : Nat → Nat} (h : Gradual unit kept)

include h

theorem monotone : Monotone kept := monotone_nat_of_le_succ h.le_succ

/-- What a gradual amount leaves of the whole grows. -/
theorem monotone_sub : Monotone fun n => n * unit - kept n := by
  refine monotone_nat_of_le_succ fun n => ?_
  have := h.succ_le n
  rw [Nat.succ_mul]
  omega

end Gradual

/-- What is kept of so much memory for system daemons. -/
def keptMemory (mib : Nat) : Nat :=
  if mib < 1024 then 255
  else min (∑ place ∈ range mib, memoryShare place) Saturating.greatest / 100

/-- What is kept of so many cores for system daemons. -/
def keptCpu (cores : Nat) : Nat := (totalWeight (cpuBands cores) + 5) / 10

/-- What is kept of so much storage. -/
def keptStorage (mib : Nat) : Nat := 15 * 1024 + min (mib + 9) Saturating.greatest / 10

theorem gradual_keptMemory : Gradual 1 keptMemory := by
  have hstep : ∀ n, keptMemory n ≤ keptMemory (n + 1) ∧ keptMemory (n + 1) ≤ keptMemory n + 1 := by
    intro n
    have hshare := memoryShare_le n
    unfold keptMemory
    rcases Nat.lt_trichotomy (n + 1) 1024 with hsmall | hedge | hlarge
    · simp [hsmall, Nat.lt_of_succ_lt hsmall]
    · -- The first node that is not small keeps one MiB more than small ones do.
      rw [if_pos (by omega), if_neg (by omega), hedge, ← totalWeight_memoryBands]
      decide
    · rw [if_neg (by omega), if_neg (by omega), Finset.sum_range_succ]
      omega
  exact ⟨fun n => (hstep n).1, fun n => (hstep n).2⟩

theorem gradual_keptCpu : Gradual 1000 keptCpu := by
  constructor <;> intro n <;> unfold keptCpu <;> rw [totalWeight_cpuBands_succ]
  · omega
  · split_ifs <;> omega

theorem gradual_keptStorage : Gradual 1 keptStorage := by
  constructor <;> intro n <;> unfold keptStorage <;> omega

/-- Rounded to whole thousandths, a half up, the shares of the cores are what is kept. -/
theorem keptCpu_eq_round (cores : Nat) :
    (keptCpu cores : ℤ) = round (∑ place ∈ range cores, coreShare place) := by
  have hsum : ∑ place ∈ range cores, coreShare place + 1 / 2 =
      ((totalWeight (cpuBands cores) + 5 : ℕ) : ℚ) / (10 : ℕ) := by
    push_cast
    rw [totalWeight_cpuBands]
    ring
  rw [round_eq, hsum, Rat.floor_natCast_div_natCast]
  rfl

/-- Where the shares of memory fit a word, what is kept is a hundredth of them, rounded down. -/
theorem keptMemory_of_le {mib : Nat} (large : 1024 ≤ mib) (fits : mib ≤ 2 ^ 52) :
    keptMemory mib = (∑ place ∈ range mib, memoryShare place) / 100 := by
  have hshares : ∑ place ∈ range mib, memoryShare place ≤ 25 * mib := by
    clear large fits
    induction mib with
    | zero => decide
    | succ n ih =>
      have := memoryShare_le n
      rw [Finset.sum_range_succ]
      omega
  rw [keptMemory, if_neg (Nat.not_lt.2 large), Nat.min_eq_left]
  refine hshares.trans ?_
  unfold Saturating.greatest
  omega

/-! ### Words -/

theorem toNat_reservedMemoryMib (mib : UInt64) :
    (reservedMemoryMib mib).toNat = keptMemory mib.toNat := by
  have hlt : mib < 1024 ↔ mib.toNat < 1024 := UInt64.lt_iff_toNat_lt
  unfold reservedMemoryMib keptMemory
  split_ifs with h h' h'
  · rfl
  · exact absurd (hlt.1 h) h'
  · exact absurd (hlt.2 h') h
  · rw [UInt64.toNat_div, toNat_weightedSum, totalWeight_memoryBands]
    rfl

/-- The shares of so many cores as a machine may have fit a word. -/
theorem totalWeight_cpuBands_le (n : Nat) : totalWeight (cpuBands n) ≤ 600 * n := by
  induction n with
  | zero => decide
  | succ n ih =>
    rw [totalWeight_cpuBands_succ]
    split_ifs <;> omega

theorem toNat_reservedCpuMillis (cores : UInt32) :
    (reservedCpuMillis cores).toNat = keptCpu cores.toNat := by
  have hcores := cores.toNat_lt
  have hshares := totalWeight_cpuBands_le cores.toNat
  have hfive : (5 : UInt64).toNat = 5 := rfl
  have hten : (10 : UInt64).toNat = 10 := rfl
  rw [reservedCpuMillis, UInt64.toNat_div, Saturating.toNat_add, toNat_weightedSum, hfive, hten,
    keptCpu]
  unfold Saturating.greatest
  omega

/-- Half a thousandth is rounded up. -/
example : reservedCpuMillis 5 = 83 := by decide

/-! ### Capacities -/

theorem Saturating.toNat_add_of_le {a b : UInt64} (h : a.toNat + b.toNat ≤ greatest) :
    (add a b).toNat = a.toNat + b.toNat := by
  rw [toNat_add, Nat.min_eq_left h]

/-- One capacity is no greater than another in any component. -/
instance : LE Resources where
  le r r' := r.cpu ≤ r'.cpu ∧ r.memoryMib ≤ r'.memoryMib ∧ r.diskGib ≤ r'.diskGib

/-- One amount is no greater than another in any component. -/
instance : LE Quantities where
  le q q' :=
    q.cpuMillis ≤ q'.cpuMillis ∧ q.memoryMib ≤ q'.memoryMib ∧ q.storageMib ≤ q'.storageMib

/-- The storage of a node in MiB, at most the greatest word. -/
def Resources.storage (r : Resources) : Nat := min (r.diskGib.toNat * 1024) Saturating.greatest

/-- All of a capacity, in each component. -/
theorem Quantities.toNat_ofResources (r : Resources) :
    (ofResources r).cpuMillis.toNat = r.cpu.toNat * 1000 ∧
      (ofResources r).memoryMib.toNat = r.memoryMib.toNat ∧
      (ofResources r).storageMib.toNat = r.storage := by
  have hcpu := r.cpu.toNat_lt
  refine ⟨?_, rfl, Saturating.toNat_mul ..⟩
  rw [ofResources, Saturating.toNat_clamp, Saturating.greatest]
  omega

namespace Reserve

theorem toNat_daemons (r : Resources) :
    (ofCapacity r).daemons.cpuMillis.toNat = keptCpu r.cpu.toNat ∧
      (ofCapacity r).daemons.memoryMib.toNat = keptMemory r.memoryMib.toNat ∧
      (ofCapacity r).daemons.storageMib.toNat = 15 * 1024 :=
  ⟨toNat_reservedCpuMillis _, toNat_reservedMemoryMib _, rfl⟩

theorem toNat_eviction (r : Resources) :
    (ofCapacity r).eviction.cpuMillis.toNat = 0 ∧
      (ofCapacity r).eviction.memoryMib.toNat = 100 ∧
      (ofCapacity r).eviction.storageMib.toNat = min (r.storage + 9) Saturating.greatest / 10 := by
  refine ⟨rfl, rfl, ?_⟩
  rw [ofCapacity, UInt64.toNat_div, Saturating.toNat_add, Saturating.toNat_mul]
  rfl

/-- The two parts of what a node keeps never stop at the greatest word when they are added. -/
theorem toNat_total (r : Resources) :
    (ofCapacity r).total.cpuMillis.toNat =
        (ofCapacity r).daemons.cpuMillis.toNat + (ofCapacity r).eviction.cpuMillis.toNat ∧
      (ofCapacity r).total.memoryMib.toNat =
        (ofCapacity r).daemons.memoryMib.toNat + (ofCapacity r).eviction.memoryMib.toNat ∧
      (ofCapacity r).total.storageMib.toNat =
        (ofCapacity r).daemons.storageMib.toNat + (ofCapacity r).eviction.storageMib.toNat := by
  obtain ⟨-, hmemory, hstorage⟩ := toNat_daemons r
  obtain ⟨hcpu', hmemory', hstorage'⟩ := toNat_eviction r
  refine ⟨Saturating.toNat_add_of_le ?_, Saturating.toNat_add_of_le ?_,
    Saturating.toNat_add_of_le ?_⟩
  · rw [hcpu']
    exact Nat.le_of_lt_succ (ofCapacity r).daemons.cpuMillis.toNat_lt
  · have hkept : keptMemory r.memoryMib.toNat ≤ Saturating.greatest / 100 := by
      unfold keptMemory Saturating.greatest
      split_ifs <;> omega
    rw [hmemory, hmemory']
    exact (Nat.add_le_add_right hkept 100).trans (by decide)
  · have hkept : min (r.storage + 9) Saturating.greatest / 10 ≤ Saturating.greatest / 10 :=
      Nat.div_le_div_right (Nat.min_le_right ..)
    rw [hstorage, hstorage']
    exact (Nat.add_le_add_left hkept (15 * 1024)).trans (by decide)

end Reserve

/-- What a capacity leaves, in each component: all of it without what is kept, or nothing where
more is kept. -/
theorem Resources.toNat_allocatable (r : Resources) :
    r.allocatable.cpuMillis.toNat = r.cpu.toNat * 1000 - keptCpu r.cpu.toNat ∧
      r.allocatable.memoryMib.toNat = r.memoryMib.toNat - (keptMemory r.memoryMib.toNat + 100) ∧
      r.allocatable.storageMib.toNat = r.storage - keptStorage r.storage := by
  obtain ⟨hcpu, hmemory, hstorage⟩ := Quantities.toNat_ofResources r
  obtain ⟨htcpu, htmemory, htstorage⟩ := Reserve.toNat_total r
  obtain ⟨hdcpu, hdmemory, hdstorage⟩ := Reserve.toNat_daemons r
  obtain ⟨hecpu, hememory, hestorage⟩ := Reserve.toNat_eviction r
  rw [hdcpu, hecpu] at htcpu
  rw [hdmemory, hememory] at htmemory
  rw [hdstorage, hestorage] at htstorage
  refine ⟨(Saturating.toNat_sub ..).trans ?_, (Saturating.toNat_sub ..).trans ?_,
    (Saturating.toNat_sub ..).trans ?_⟩
  · rw [hcpu, htcpu, Nat.add_zero]
  · rw [hmemory, htmemory]
  · rw [hstorage, htstorage, keptStorage]

/-- The instance types of a market keep what their capacity says. -/
theorem Market.allocatable_of_build {m : Market} {s : Shape} {p : Platform} {c : NodeClass}
    {inventory : ZoneInventory} {t : InstanceType} (h : m.build s p c inventory = .ok t) :
    t.reserve = .ofCapacity t.capacity ∧ t.allocatable = t.capacity.allocatable := by
  obtain ⟨offerings, -, h⟩ := exists_of_bind_eq_ok h
  cases h
  exact ⟨rfl, rfl⟩

/-! ### Growth -/

theorem Resources.storage_mono {r r' : Resources} (h : r ≤ r') : r.storage ≤ r'.storage := by
  have hdisk : r.diskGib.toNat ≤ r'.diskGib.toNat := UInt64.le_iff_toNat_le.1 h.2.2
  unfold storage
  omega

theorem Reserve.daemons_mono {r r' : Resources} (h : r ≤ r') :
    (ofCapacity r).daemons ≤ (ofCapacity r').daemons := by
  obtain ⟨hcpu, hmemory, hstorage⟩ := toNat_daemons r
  obtain ⟨hcpu', hmemory', hstorage'⟩ := toNat_daemons r'
  refine ⟨UInt64.le_iff_toNat_le.2 ?_, UInt64.le_iff_toNat_le.2 ?_, UInt64.le_iff_toNat_le.2 ?_⟩
  · rw [hcpu, hcpu']
    exact gradual_keptCpu.monotone (UInt32.le_iff_toNat_le.1 h.1)
  · rw [hmemory, hmemory']
    exact gradual_keptMemory.monotone (UInt64.le_iff_toNat_le.1 h.2.1)
  · rw [hstorage, hstorage']

theorem Resources.allocatable_mono {r r' : Resources} (h : r ≤ r') :
    r.allocatable ≤ r'.allocatable := by
  obtain ⟨hcpu, hmemory, hstorage⟩ := r.toNat_allocatable
  obtain ⟨hcpu', hmemory', hstorage'⟩ := r'.toNat_allocatable
  refine ⟨UInt64.le_iff_toNat_le.2 ?_, UInt64.le_iff_toNat_le.2 ?_, UInt64.le_iff_toNat_le.2 ?_⟩
  · rw [hcpu, hcpu']
    exact gradual_keptCpu.monotone_sub (UInt32.le_iff_toNat_le.1 h.1)
  · rw [hmemory, hmemory', ← Nat.sub_sub, ← Nat.sub_sub]
    have hleft := gradual_keptMemory.monotone_sub (UInt64.le_iff_toNat_le.1 h.2.1)
    simp only [Nat.mul_one] at hleft
    exact Nat.sub_le_sub_right hleft 100
  · rw [hstorage, hstorage']
    have hleft := gradual_keptStorage.monotone_sub (storage_mono h)
    simpa only [Nat.mul_one] using hleft

/-! ### Everything together -/

/-- From 1 GiB to 2^52 MiB of memory, a node keeps a hundredth, rounded down, of the percents that
its MiB have by their places; of any number of cores it keeps their shares, rounded to whole
thousandths, a half up.  A node with more keeps no less for system daemons, and no less is left for
workloads.  What is left is all of the capacity without both parts of what is kept, or nothing
where these are more; the instance types of a market have just that. -/
theorem Reserve.shares_and_growth :
    (∀ r : Resources, 1024 ≤ r.memoryMib.toNat → r.memoryMib.toNat ≤ 2 ^ 52 →
      (ofCapacity r).daemons.memoryMib.toNat =
        (∑ place ∈ range r.memoryMib.toNat, memoryShare place) / 100) ∧
    (∀ r : Resources, ((ofCapacity r).daemons.cpuMillis.toNat : ℤ) =
      round (∑ place ∈ range r.cpu.toNat, coreShare place)) ∧
    (∀ r r' : Resources, r ≤ r' → (ofCapacity r).daemons ≤ (ofCapacity r').daemons ∧
      r.allocatable ≤ r'.allocatable) ∧
    (∀ r : Resources,
      r.allocatable.cpuMillis.toNat = r.cpu.toNat * 1000 -
        ((ofCapacity r).daemons.cpuMillis.toNat + (ofCapacity r).eviction.cpuMillis.toNat) ∧
      r.allocatable.memoryMib.toNat = r.memoryMib.toNat -
        ((ofCapacity r).daemons.memoryMib.toNat + (ofCapacity r).eviction.memoryMib.toNat) ∧
      r.allocatable.storageMib.toNat = min (r.diskGib.toNat * 1024) Saturating.greatest -
        ((ofCapacity r).daemons.storageMib.toNat + (ofCapacity r).eviction.storageMib.toNat)) ∧
    (∀ (m : Market) (s : Shape) (p : Platform) (c : NodeClass) (inventory : ZoneInventory)
      (t : InstanceType), m.build s p c inventory = .ok t →
        t.reserve = .ofCapacity t.capacity ∧ t.allocatable = t.capacity.allocatable) := by
  refine ⟨fun r hlarge hfits => ?_, fun r => ?_, fun r r' h => ?_, fun r => ?_, ?_⟩
  · rw [(toNat_daemons r).2.1, keptMemory_of_le hlarge hfits]
  · rw [(toNat_daemons r).1, keptCpu_eq_round]
  · exact ⟨daemons_mono h, Resources.allocatable_mono h⟩
  · obtain ⟨hcpu, hmemory, hstorage⟩ := Quantities.toNat_ofResources r
    obtain ⟨htcpu, htmemory, htstorage⟩ := toNat_total r
    rw [← htcpu, ← htmemory, ← htstorage, ← hcpu]
    refine ⟨Saturating.toNat_sub .., Saturating.toNat_sub .., ?_⟩
    have hleft := Saturating.toNat_sub (Quantities.ofResources r).storageMib
      (ofCapacity r).total.storageMib
    rw [hstorage] at hleft
    exact hleft
  · exact fun m s p c inventory t h => Market.allocatable_of_build h

/-- Between 8 cores with 32 GiB and 64 cores with 256 GiB what is kept and what is left grow, and
the first of them on sale has just that left. -/
theorem Reserve.shares_and_growth_of_small_and_large :
    (∑ place ∈ range 32768, memoryShare place) / 100 = 3645 ∧
      (⟨8, 32768, 64⟩ : Resources) ≤ ⟨64, 262144, 64⟩ ∧
      (ofCapacity ⟨8, 32768, 64⟩).daemons ≤ (ofCapacity ⟨64, 262144, 64⟩).daemons ∧
      Resources.allocatable ⟨8, 32768, 64⟩ ≤ Resources.allocatable ⟨64, 262144, 64⟩ ∧
      ∃ t, Region.market.build ⟨"standard-v3", .full, 8, 32768⟩ ⟨"standard-v3", [], false⟩
        (.named "class") .empty = .ok t ∧ t.allocatable = t.capacity.allocatable := by
  obtain ⟨hmemory, -, hgrowth, -, hmarket⟩ := shares_and_growth
  have hle : (⟨8, 32768, 64⟩ : Resources) ≤ ⟨64, 262144, 64⟩ := ⟨by decide, by decide, by decide⟩
  obtain ⟨hdaemons, hleft⟩ := hgrowth _ _ hle
  have hkept := hmemory ⟨8, 32768, 64⟩ (by decide) (by decide)
  have hvalue : (ofCapacity ⟨8, 32768, 64⟩).daemons.memoryMib.toNat = 3645 := by decide
  have hplaces : (Resources.memoryMib ⟨8, 32768, 64⟩).toNat = 32768 := by decide
  rw [hvalue, hplaces] at hkept
  obtain ⟨t, ht⟩ := Market.exists_build Region.market (.named "class")
    ⟨"standard-v3", .full, 8, 32768⟩ ⟨"standard-v3", [], false⟩ .empty
  exact ⟨hkept.symm, hle, hdaemons, hleft, t, ht, (hmarket _ _ _ _ _ _ ht).2⟩

end NodeSupply
