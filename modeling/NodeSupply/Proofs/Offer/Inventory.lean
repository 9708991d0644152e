import Mathlib.Algebra.Ring.Nat
import Mathlib.Data.List.Induction
import NodeSupply.Offer.ZoneInventory
import NodeSupply.Proofs.Sorted

/-!
# What an inventory holds

An inventory is made by counting subnets one after the other.  What it comes to does not show in
which order: it has the zones of the subnets, each with the sum of the counts that its subnets
report, cut off at the greatest word, and with nothing where none of them reports a count.

## Main definitions

* `ZoneInventory.reported` : the counts that the subnets of a zone report.
* `ZoneInventory.total?` : the sum of some counts, if there are any.

## Main statements

* `ZoneInventory.get?_ofSubnets` : what the inventory of some subnets holds.
* `ZoneInventory.headroom?_ofSubnets` : the free addresses of a zone.
* `ZoneInventory.ofSubnets_perm` : the order of the subnets does not matter.
* `ZoneInventory.unordered_sums` : the zones and the free addresses of an inventory, in whatever
  order its subnets were counted.
-/

namespace NodeSupply.ZoneInventory

/-- The counts that the subnets of a zone report. -/
def reported (zone : Zone) (subnets : List ResolvedSubnet) : List UInt64 :=
  (subnets.filter (·.zone == zone)).filterMap (·.availableIps)

/-- The sum of some counts, at most the greatest word, if there are any. -/
def total? : List UInt64 → Option UInt64
  | [] => none
  | ips => some (Saturating.clamp (ips.map UInt64.toNat).sum)

/-! ### Sums -/

theorem total?_of_ne_nil {ips : List UInt64} (h : ips ≠ []) :
    total? ips = some (Saturating.clamp (ips.map UInt64.toNat).sum) := by
  cases ips with
  | nil => exact absurd rfl h
  | cons n ips => rfl

/-- Sums that are cut off after each count are the sum that is cut off at the end. -/
theorem total?_concat (ips : List UInt64) (n : UInt64) :
    total? (ips ++ [n]) = some (Saturating.add ((total? ips).getD 0) n) := by
  rw [total?_of_ne_nil (List.append_ne_nil_of_right_ne_nil _ (List.cons_ne_nil _ _)),
    Option.some.injEq, ← UInt64.toNat_inj, Saturating.toNat_clamp, Saturating.toNat_add,
    List.map_append, List.sum_append, List.map_singleton, List.sum_singleton]
  cases ips with
  | nil => simp [total?]
  | cons k ips =>
    rw [total?_of_ne_nil (List.cons_ne_nil _ _), Option.getD_some, Saturating.toNat_clamp]
    omega

theorem total?_perm {l m : List UInt64} (h : l.Perm m) : total? l = total? m := by
  by_cases hl : l = []
  · subst hl
    rw [List.nil_perm.1 h]
  · have hm : m ≠ [] := fun hm => hl (List.perm_nil.1 (hm ▸ h))
    rw [total?_of_ne_nil hl, total?_of_ne_nil hm, (h.map _).sum_nat]

theorem total?_eq_none_iff {ips : List UInt64} : total? ips = none ↔ ips = [] := by
  cases ips <;> simp [total?]

theorem total?_eq_zero_iff_sum {ips : List UInt64} :
    total? ips = some 0 ↔ ips ≠ [] ∧ (ips.map UInt64.toNat).sum = 0 := by
  by_cases h : ips = []
  · simp [h, total?]
  · have hsum : Saturating.clamp (ips.map UInt64.toNat).sum = 0 ↔
        (ips.map UInt64.toNat).sum = 0 := by
      rw [← UInt64.toNat_inj, Saturating.toNat_clamp, Saturating.greatest]
      change min _ _ = 0 ↔ _
      omega
    rw [total?_of_ne_nil h, Option.some.injEq, hsum]
    exact (and_iff_right h).symm

/-- Counts come to zero if there are some and all of them are zero. -/
theorem total?_eq_zero_iff {ips : List UInt64} :
    total? ips = some 0 ↔ ips ≠ [] ∧ ∀ n ∈ ips, n = 0 := by
  rw [total?_eq_zero_iff_sum, List.sum_eq_zero_iff_forall_eq_nat]
  simp [← UInt64.toNat_inj]

/-! ### Counts -/

theorem reported_concat (zone : Zone) (subnets : List ResolvedSubnet) (s : ResolvedSubnet) :
    reported zone (subnets ++ [s]) =
      reported zone subnets ++ if s.zone = zone then s.availableIps.toList else [] := by
  unfold reported
  rw [List.filter_append, List.filterMap_append]
  by_cases h : s.zone = zone
  · cases hips : s.availableIps <;> simp [h, hips]
  · simp [h]

theorem reported_perm (zone : Zone) {l m : List ResolvedSubnet} (h : l.Perm m) :
    (reported zone l).Perm (reported zone m) := (h.filter _).filterMap _

theorem mem_reported_iff {zone : Zone} {subnets : List ResolvedSubnet} {ips : UInt64} :
    ips ∈ reported zone subnets ↔ ∃ s ∈ subnets, s.zone = zone ∧ s.availableIps = some ips := by
  simp [reported, and_assoc]

theorem reported_eq_nil {zone : Zone} {subnets : List ResolvedSubnet}
    (absent : zone ∉ subnets.map (·.zone)) : reported zone subnets = [] := by
  rw [List.eq_nil_iff_forall_not_mem]
  intro ips hips
  obtain ⟨s, hs, hzone, -⟩ := mem_reported_iff.1 hips
  exact absent (List.mem_map.2 ⟨s, hs, hzone⟩)

/-! ### Inventories -/

/-- The inventory of some subnets has their zones, each with the sum of the counts reported. -/
theorem get?_ofSubnets (subnets : List ResolvedSubnet) (zone : Zone) :
    (ofSubnets subnets).get? zone =
      if zone ∈ subnets.map (·.zone) then some (total? (reported zone subnets)) else none := by
  -- The inventory is made from the left, so the induction takes the last subnet off.
  induction subnets using List.reverseRecOn generalizing zone with
  | nil => rfl
  | append_singleton subnets s ih =>
    have hcount : ofSubnets (subnets ++ [s]) = (ofSubnets subnets).count s := by
      simp only [ofSubnets, List.foldl_append, List.foldl_cons, List.foldl_nil]
    have hknown : (ofSubnets subnets).headroom? s.zone = total? (reported s.zone subnets) := by
      rw [headroom?, ih]
      split
      next => rfl
      next habsent => rw [reported_eq_nil habsent]; rfl
    rw [hcount, count, hknown, reported_concat]
    by_cases hzone : s.zone = zone
    · subst hzone
      rw [SortedMap.get?_insert_self, if_pos (by simp), if_pos rfl]
      cases s.availableIps with
      | none => rw [Option.toList_none, List.append_nil]
      | some ips => rw [Option.toList_some, total?_concat]
    · rw [SortedMap.get?_insert_of_ne _ _ (Ne.symm hzone), ih, if_neg hzone, List.append_nil]
      simp [Ne.symm hzone]

/-- The free addresses of a zone are the sum of the counts that its subnets report, if any do. -/
theorem headroom?_ofSubnets (subnets : List ResolvedSubnet) (zone : Zone) :
    (ofSubnets subnets).headroom? zone = total? (reported zone subnets) := by
  rw [headroom?, get?_ofSubnets]
  split
  next => rfl
  next habsent => rw [reported_eq_nil habsent]; rfl

/-- The order in which the subnets are counted does not matter. -/
theorem ofSubnets_perm {l m : List ResolvedSubnet} (h : l.Perm m) : ofSubnets l = ofSubnets m := by
  refine SortedMap.eq_of_get?_eq fun zone => ?_
  rw [get?_ofSubnets, get?_ofSubnets, total?_perm (reported_perm zone h)]
  simp only [(h.map _).mem_iff]

/-- No address of a zone is free if some of its subnets report counts, and all of these are
zero. -/
theorem headroom?_ofSubnets_eq_zero_iff {subnets : List ResolvedSubnet} {zone : Zone} :
    (ofSubnets subnets).headroom? zone = some 0 ↔
      (∃ s ∈ subnets, s.zone = zone ∧ s.availableIps ≠ none) ∧
        ∀ s ∈ subnets, s.zone = zone → ∀ ips, s.availableIps = some ips → ips = 0 := by
  rw [headroom?_ofSubnets, total?_eq_zero_iff]
  refine and_congr ⟨fun h => ?_, fun ⟨s, hs, hzone, hips⟩ => ?_⟩ ⟨fun h s hs hzone ips hips => ?_,
    fun h ips hips => ?_⟩
  · obtain ⟨ips, hmem⟩ := List.exists_mem_of_ne_nil _ h
    obtain ⟨s, hs, hzone, hips⟩ := mem_reported_iff.1 hmem
    exact ⟨s, hs, hzone, by rw [hips]; exact nofun⟩
  · obtain ⟨ips, hips⟩ := Option.ne_none_iff_exists'.1 hips
    exact List.ne_nil_of_mem (mem_reported_iff.2 ⟨s, hs, hzone, hips⟩)
  · exact h ips (mem_reported_iff.2 ⟨s, hs, hzone, hips⟩)
  · obtain ⟨s, hs, hzone, hips⟩ := mem_reported_iff.1 hips
    exact h s hs hzone ips hips

/-- Nothing is known of a zone if none of its subnets reports a count. -/
theorem headroom?_ofSubnets_eq_none_iff {subnets : List ResolvedSubnet} {zone : Zone} :
    (ofSubnets subnets).headroom? zone = none ↔
      ∀ s ∈ subnets, s.zone = zone → s.availableIps = none := by
  rw [headroom?_ofSubnets, total?_eq_none_iff, List.eq_nil_iff_forall_not_mem]
  constructor
  · intro h s hs hzone
    by_contra hips
    obtain ⟨ips, hips⟩ := Option.ne_none_iff_exists'.1 hips
    exact h ips (mem_reported_iff.2 ⟨s, hs, hzone, hips⟩)
  · intro h ips hips
    obtain ⟨s, hs, hzone, hsome⟩ := mem_reported_iff.1 hips
    cases (h s hs hzone).symm.trans hsome

/-- The zones of an inventory are those of its subnets. -/
theorem mem_keys_ofSubnets_iff {subnets : List ResolvedSubnet} {zone : Zone} :
    zone ∈ (ofSubnets subnets).keys ↔ ∃ s ∈ subnets, s.zone = zone := by
  rw [SortedMap.mem_keys_iff, get?_ofSubnets, ← List.mem_map]
  split
  next h => exact iff_of_true rfl h
  next h => exact iff_of_false nofun h

/-- An inventory has the zones that occur among its subnets.  Nothing is known of a zone if none of
its subnets reports a count, and otherwise it has the sum of the counts that they report, or the
greatest word where that is less.  Subnets in another order make up the same inventory. -/
theorem unordered_sums (subnets : List ResolvedSubnet) :
    (∀ zone, zone ∈ (ofSubnets subnets).keys ↔ ∃ s ∈ subnets, s.zone = zone) ∧
      (∀ zone, (ofSubnets subnets).headroom? zone = none ↔
        ∀ s ∈ subnets, s.zone = zone → s.availableIps = none) ∧
      (∀ zone ips, (ofSubnets subnets).headroom? zone = some ips ↔
        (∃ s ∈ subnets, s.zone = zone ∧ s.availableIps ≠ none) ∧
          ips.toNat = min (2 ^ 64 - 1) ((reported zone subnets).map UInt64.toNat).sum) ∧
      ∀ subnets', subnets.Perm subnets' → ofSubnets subnets' = ofSubnets subnets := by
  refine ⟨fun _ => mem_keys_ofSubnets_iff, fun _ => headroom?_ofSubnets_eq_none_iff,
    fun zone ips => ?_, fun subnets' h => (ofSubnets_perm h).symm⟩
  have hreports : reported zone subnets ≠ [] ↔
      ∃ s ∈ subnets, s.zone = zone ∧ s.availableIps ≠ none := by
    rw [ne_eq, ← total?_eq_none_iff, ← headroom?_ofSubnets, headroom?_ofSubnets_eq_none_iff]
    simp only [not_forall, exists_prop]
  have hgreatest : Saturating.greatest = 2 ^ 64 - 1 := rfl
  rw [← hreports, headroom?_ofSubnets]
  by_cases h : reported zone subnets = []
  · simp [h, total?]
  · rw [total?_of_ne_nil h, Option.some.injEq, ← UInt64.toNat_inj, Saturating.toNat_clamp,
      hgreatest, min_comm, eq_comm]
    exact (and_iff_right h).symm

/-- Two subnets of a zone with more free addresses than a word counts, one there without a count,
and one elsewhere without a count. -/
def crowded : List ResolvedSubnet :=
  [⟨"subnet-1", "a", some 0xffffffffffffffff⟩, ⟨"subnet-2", "a", none⟩,
    ⟨"subnet-3", "b", none⟩, ⟨"subnet-4", "a", some 5⟩]

/-- Of the zones of these subnets one has the greatest word, also where they are counted from the
last one on, and of the other one nothing is known. -/
theorem unordered_sums_crowded :
    (ofSubnets crowded).headroom? "a" = some 0xffffffffffffffff ∧
      (ofSubnets crowded).headroom? "b" = none ∧
      crowded.Perm crowded.reverse ∧ ofSubnets crowded.reverse = ofSubnets crowded := by
  have hperm : crowded.Perm crowded.reverse := crowded.reverse_perm.symm
  obtain ⟨-, hunknown, hknown, horder⟩ := unordered_sums crowded
  refine ⟨(hknown "a" _).2 ⟨?_, ?_⟩, (hunknown "b").2 ?_, hperm, horder _ hperm⟩
  · exact ⟨_, List.mem_cons_self, rfl, nofun⟩
  · decide +kernel
  · decide +kernel

end NodeSupply.ZoneInventory
