import NodeSupply.Proofs.Offer.Inventory
import NodeSupply.Proofs.Offer.Listing
import NodeSupply.Proofs.Routine.LaunchPlan
import NodeSupply.Proofs.Verdict.Checks

/-!
# Where a launch plan puts a node

A zone is offered only if some subnet of the class lies in it and its addresses are not known to be
used up.  For a well-formed class this subnet can be chosen, and so can its kind of disk, so the
plan fails only where nothing fits the demand.  The subnet that is chosen is the roomiest of the
zone; some free address of it is known, or none of the zone is known at all.

## Main definitions

* `ResolvedSubnet.AtLeastAsRoomy` : how subnets are ranked.
* `NodeGroupSpec.Placed` : a group is in the roomiest subnet of its zone.

## Main statements

* `roomiestIn?_eq_some_iff` : which subnet of a zone is chosen.
* `LaunchPlan.eq_selection_of_error` : for a well-formed class a plan fails only where nothing fits.
* `LaunchPlan.placed_of_of` : where a plan puts a node.
* `LaunchPlan.of_perm` : a plan does not depend on the order of the subnets.
-/

namespace NodeSupply

open Checks (WellFormed)

/-! ### Ranks of subnets -/

/-- A subnet is at least as roomy as another: it has more free addresses, or as many and the lesser
id.  One that does not tell how many it has ranks last. -/
def ResolvedSubnet.AtLeastAsRoomy (s t : ResolvedSubnet) : Prop :=
  match t.availableIps, s.availableIps with
  | none, none => s.id ≤ t.id
  | none, some _ => True
  | some _, none => False
  | some fewer, some more => fewer < more ∨ fewer = more ∧ s.id ≤ t.id

namespace ResolvedSubnet

instance : Std.TransCmp roominess :=
  have : Std.TransCmp fun s t : ResolvedSubnet => compareOn ResolvedSubnet.id t s := .opposite
  inferInstanceAs
    (Std.TransCmp (compareLex (compareOn availableIps) fun s t => compareOn ResolvedSubnet.id t s))

/-- The ranks are those that subnets are compared by. -/
theorem isLE_roominess_iff {s t : ResolvedSubnet} :
    (t.roominess s).isLE = true ↔ s.AtLeastAsRoomy t := by
  rw [roominess, Ordering.isLE_then_iff_or, AtLeastAsRoomy]
  cases t.availableIps <;> cases s.availableIps
  · change _ ∨ Ordering.eq = .eq ∧ _ ↔ _
    simp only [true_and, isLE_compare_iff]
    exact or_iff_right nofun
  · exact iff_of_true (.inl rfl) trivial
  · exact iff_of_false (by rintro (h | ⟨h, -⟩) <;> cases h) False.elim
  · rename_i fewer more
    change compare fewer more = .lt ∨ compare fewer more = .eq ∧ _ ↔ _
    rw [Std.compare_eq_lt, Std.LawfulEqOrd.compare_eq_iff_eq, isLE_compare_iff]

theorem AtLeastAsRoomy.id_eq {s t : ResolvedSubnet} (hs : s.AtLeastAsRoomy t)
    (ht : t.AtLeastAsRoomy s) : s.id = t.id := by
  have heq : t.roominess s = .eq := Std.OrientedCmp.isLE_antisymm
    (isLE_roominess_iff.2 hs) (isLE_roominess_iff.2 ht)
  exact Std.LawfulEqOrd.eq_of_compare (Ordering.then_eq_eq.1 heq).2

end ResolvedSubnet

/-! ### The roomiest subnet -/

/-- One of some subnets is the roomiest, and is at least as roomy as each of them. -/
theorem exists_roomiest? {l : List ResolvedSubnet} (ne : l ≠ []) :
    ∃ s, roomiest? l = some s ∧ s ∈ l ∧ ∀ t ∈ l, s.AtLeastAsRoomy t := by
  have : Std.TransCmp fun s t : ResolvedSubnet => t.roominess s := .opposite
  have hcons : ∀ a b l, roomiest? l = some b →
      roomiest? (a :: l) = some a ∧ (b.roominess a).isLE = true ∨
        roomiest? (a :: l) = some b ∧ (a.roominess b).isLE = true := by
    intro a b l hb
    rw [roomiest?, hb]
    by_cases hgt : a.roominess b = .gt
    · refine .inl ⟨by simp [hgt], ?_⟩
      rw [Std.OrientedCmp.gt_iff_lt.1 hgt]
      rfl
    · exact .inr ⟨by simp [hgt], Ordering.ne_gt_iff_isLE.1 hgt⟩
  obtain ⟨s, hs, hmem, hle⟩ := exists_least (fun s t : ResolvedSubnet => t.roominess s)
    roomiest? (fun _ => rfl) hcons ne
  exact ⟨s, hs, hmem, fun t ht => ResolvedSubnet.isLE_roominess_iff.1 (hle t ht)⟩

/-- The roomiest of some subnets is at least as roomy as each of them. -/
theorem atLeastAsRoomy_of_roomiest? {l : List ResolvedSubnet} {s t : ResolvedSubnet}
    (h : roomiest? l = some s) (ht : t ∈ l) : s.AtLeastAsRoomy t := by
  obtain ⟨best, hbest, -, hroomy⟩ := exists_roomiest? (List.ne_nil_of_mem ht)
  obtain rfl : best = s := Option.some.inj (hbest.symm.trans h)
  exact hroomy t ht

/-- The chosen subnet of a zone: it has an id, and it is the roomiest of those that have. -/
theorem roomiestIn?_eq_some_iff {zone : Zone} {subnets : List ResolvedSubnet} {id : SubnetId} :
    roomiestIn? zone subnets = some id ↔ ∃ s ∈ subnets, s.zone = zone ∧ s.id ≠ "" ∧ s.id = id ∧
      ∀ t ∈ subnets, t.zone = zone → t.id ≠ "" → s.AtLeastAsRoomy t := by
  have hmem : ∀ t, t ∈ subnets.filter (fun s => s.zone == zone && s.id != "") ↔
      t ∈ subnets ∧ t.zone = zone ∧ t.id ≠ "" := by simp
  constructor
  · intro h
    obtain ⟨s, hs, rfl⟩ := Option.map_eq_some_iff.1 h
    obtain ⟨hsubnet, hzone, hid⟩ := (hmem s).1 (mem_of_roomiest? hs)
    exact ⟨s, hsubnet, hzone, hid, rfl, fun t ht hzone hid =>
      atLeastAsRoomy_of_roomiest? hs ((hmem t).2 ⟨ht, hzone, hid⟩)⟩
  · rintro ⟨s, hs, hzone, hid, rfl, hroomy⟩
    have hfiltered := (hmem s).2 ⟨hs, hzone, hid⟩
    obtain ⟨best, hbest, hbestMem, hle⟩ := exists_roomiest? (List.ne_nil_of_mem hfiltered)
    obtain ⟨hsubnet, hzone', hid'⟩ := (hmem best).1 hbestMem
    have heq : best.id = s.id := (hle s hfiltered).id_eq (hroomy best hsubnet hzone' hid')
    rw [roomiestIn?, hbest, Option.map_some, heq]

/-- A zone has a chosen subnet if some subnet of it has an id. -/
theorem exists_roomiestIn? {zone : Zone} {subnets : List ResolvedSubnet} {s : ResolvedSubnet}
    (mem : s ∈ subnets) (zoned : s.zone = zone) (id : s.id ≠ "") :
    ∃ chosen, roomiestIn? zone subnets = some chosen := by
  have hfiltered : s ∈ subnets.filter (fun s => s.zone == zone && s.id != "") := by
    simp [mem, zoned, id]
  obtain ⟨best, hbest, -⟩ := exists_roomiest? (List.ne_nil_of_mem hfiltered)
  exact ⟨best.id, by rw [roomiestIn?, hbest, Option.map_some]⟩

theorem roomiestIn?_perm (zone : Zone) {l m : List ResolvedSubnet} (h : l.Perm m) :
    roomiestIn? zone l = roomiestIn? zone m :=
  Option.ext fun id => by simp only [roomiestIn?_eq_some_iff, h.mem_iff]

/-! ### Zones on offer -/

/-- An offering can be bought if it has a price, its zone is allowed, and the addresses of the zone
are not known to be used up. -/
theorem InstanceType.available_iff_of_mem_resolve {t : InstanceType} {prices : PriceList}
    {zones : SortedSet Zone} {inventory : ZoneInventory} {offerings : List Offering}
    (h : t.resolve prices zones inventory = .ok offerings) {o : Offering} (ho : o ∈ offerings) :
    o.available = true ↔ o.price.isSome = true ∧ t.requirements.allows Label.zone o.zone = true ∧
      inventory.headroom? o.zone ≠ some 0 := by
  obtain ⟨kinds, -, h⟩ := exists_of_bind_eq_ok h
  cases h
  obtain ⟨zone, -, ho⟩ := List.mem_flatMap.1 ho
  obtain ⟨⟨kind, price⟩, -, rfl⟩ := List.mem_map.1 ho
  simp [and_assoc]

/-- A shape may live in the zones of the subnets of its class. -/
theorem InstanceType.allows_zone_ofShape {s : Shape} {p : Platform} {c : NodeClass} {zone : Zone} :
    (ofShape s p c).requirements.allows Label.zone zone = true ↔
      ∃ t ∈ c.subnets, t.zone = zone := by
  have hzones : (ofShape s p c).requirements.get? Label.zone =
      some (.ofList (c.subnets.map (·.zone))) := get?_requirements_ofShape (by simp [labels])
  rw [Requirements.allows, hzones, Option.elim_some, SortedSet.contains_iff, SortedSet.mem_ofList,
    List.mem_map]

theorem Market.exists_list (m : Market) (c : NodeClass) : ∃ types, m.list c = .ok types := by
  choose built hbuilt using fun s p => exists_build m c s p (.ofSubnets c.subnets)
  exact ⟨_, list_eq hbuilt⟩

/-- What can be bought for a class is in a zone of its subnets whose addresses are not known to be
used up. -/
theorem Market.exists_subnet_of_available {m : Market} {c : NodeClass} {types : List InstanceType}
    (h : m.list c = .ok types) {t : InstanceType} (ht : t ∈ types) {o : Offering}
    (ho : o ∈ t.offerings) (available : o.available = true) :
    (∃ s ∈ c.subnets, s.zone = o.zone) ∧
      (ZoneInventory.ofSubnets c.subnets).headroom? o.zone ≠ some 0 := by
  obtain ⟨p, -, s, -, -, hbuild⟩ := exists_build_of_mem_list h ht
  obtain ⟨offerings, hresolve, hbuild⟩ := exists_of_bind_eq_ok hbuild
  cases hbuild
  obtain ⟨-, hallows, hheadroom⟩ :=
    (InstanceType.available_iff_of_mem_resolve hresolve ho).1 available
  exact ⟨InstanceType.allows_zone_ofShape.1 hallows, hheadroom⟩

/-! ### Plans -/

/-- A group is in a subnet of its zone that is the roomiest of the zone, and that is not known to
have no free address. -/
def NodeGroupSpec.Placed (c : NodeClass) (spec : NodeGroupSpec) : Prop :=
  ∃ s ∈ c.subnets, s.id = spec.subnet ∧ s.zone = spec.zone ∧ s.availableIps ≠ some 0 ∧
    ∀ t ∈ c.subnets, t.zone = spec.zone → s.AtLeastAsRoomy t

namespace LaunchPlan

variable {brief : Brief} {c : NodeClass} {r : NodeRequest}

/-- For a class with a zone that is offered its roomiest subnet is not known to be full. -/
theorem availableIps_ne_zero {s : ResolvedSubnet} (mem : s ∈ c.subnets)
    (headroom : (ZoneInventory.ofSubnets c.subnets).headroom? s.zone ≠ some 0)
    (roomiest : ∀ t ∈ c.subnets, t.zone = s.zone → s.AtLeastAsRoomy t) :
    s.availableIps ≠ some 0 := by
  -- If the roomiest subnet had none left, no subnet of the zone would report more.
  intro hzero
  refine headroom (ZoneInventory.headroom?_ofSubnets_eq_zero_iff.2
    ⟨⟨s, mem, rfl, by rw [hzero]; exact nofun⟩, fun t ht hzone ips hips => ?_⟩)
  have hroomy := roomiest t ht hzone
  rw [ResolvedSubnet.AtLeastAsRoomy, hips, hzero] at hroomy
  rcases hroomy with hlt | ⟨heq, -⟩
  · exact absurd hlt UInt64.not_lt_zero
  · exact heq

/-- A well-formed class names a kind of disk. -/
theorem exists_disk (formed : WellFormed c) :
    ∃ disk, DiskKind.ofConfigured? c.diskType = some disk := by
  have hrule := formed.disk
  unfold Checks.disk at hrule
  split at hrule
  next => cases hrule
  next =>
    split at hrule
    next => cases hrule
    next disk hdisk => exact ⟨disk, hdisk⟩

/-- For a well-formed class a plan fails only where nothing fits the demand. -/
theorem eq_selection_of_error (formed : WellFormed c) {e : ProvisionError}
    (h : LaunchPlan.of brief c r = .error e) : ∃ cause, e = .selection cause := by
  rcases exists_of_bind_eq_error h with h | ⟨types, hlist, h⟩
  · obtain ⟨cause, hlist, -⟩ := exists_of_mapError_eq_error h
    obtain ⟨types, hsome⟩ := Market.exists_list brief.market c
    cases hlist.symm.trans hsome
  replace hlist := eq_ok_of_mapError_eq_ok hlist
  rcases exists_of_bind_eq_error h with h | ⟨x, hselect, h⟩
  · obtain ⟨cause, -, rfl⟩ := exists_of_mapError_eq_error h
    exact ⟨cause, rfl⟩
  obtain ⟨ht, -, -, ho, hfits⟩ := Selection.exists_of_select (eq_ok_of_mapError_eq_ok hselect)
  obtain ⟨⟨s, hs, hzone⟩, -⟩ :=
    Market.exists_subnet_of_available hlist ht ho (Selection.available_of_fits hfits)
  obtain ⟨subnet, hsubnet⟩ := exists_roomiestIn? hs hzone (formed.ids s hs)
  obtain ⟨disk, hdisk⟩ := exists_disk formed
  dsimp only at h
  rw [hsubnet, hdisk] at h
  cases h

/-- A plan puts a node into the roomiest subnet of a zone. -/
theorem placed_of_of (formed : WellFormed c) {plan : LaunchPlan}
    (h : LaunchPlan.of brief c r = .ok plan) (home : String) :
    (plan.request.spec home).Placed c := by
  obtain ⟨types, x, subnet, disk, hlist, hselect, hsubnet, -, hrequest⟩ := exists_of_of h
  obtain ⟨ht, -, -, ho, hfits⟩ := Selection.exists_of_select hselect
  obtain ⟨-, hheadroom⟩ :=
    Market.exists_subnet_of_available hlist ht ho (Selection.available_of_fits hfits)
  obtain ⟨s, hs, hzone, -, hid, hroomy⟩ := roomiestIn?_eq_some_iff.1 hsubnet
  have hroomiest : ∀ t ∈ c.subnets, t.zone = x.offering.zone → s.AtLeastAsRoomy t :=
    fun t ht hzone => hroomy t ht hzone (formed.ids t ht)
  rw [hrequest]
  rw [← hzone] at hheadroom hroomiest
  exact ⟨s, hs, hid, hzone, availableIps_ne_zero hs hheadroom hroomiest, hzone ▸ hroomiest⟩

/-- A plan does not depend on the order of the subnets. -/
theorem of_perm {subnets : List ResolvedSubnet} (h : subnets.Perm c.subnets) :
    LaunchPlan.of brief { c with subnets } r = LaunchPlan.of brief c r := by
  have hinventory : ZoneInventory.ofSubnets subnets = .ofSubnets c.subnets :=
    ZoneInventory.ofSubnets_perm h
  have hzones : SortedSet.ofList (subnets.map (·.zone)) = .ofList (c.subnets.map (·.zone)) :=
    SortedSet.eq_of_mem_iff fun zone => by
      rw [SortedSet.mem_ofList, SortedSet.mem_ofList, (h.map _).mem_iff]
  have hshape : ∀ s p, InstanceType.ofShape s p { c with subnets } = .ofShape s p c := by
    intro s p
    simp only [InstanceType.ofShape, Requirements.of, List.map_cons, hzones]
    rfl
  have hlist : brief.market.list { c with subnets } = brief.market.list c := by
    simp only [Market.list, Market.build, hinventory, hshape]
    rfl
  simp only [LaunchPlan.of, hlist, roomiestIn?_perm _ h]

end LaunchPlan

end NodeSupply
