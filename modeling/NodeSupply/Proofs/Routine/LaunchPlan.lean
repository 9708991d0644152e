import NodeSupply.Proofs.Offer.Selection
import NodeSupply.Routine.Provision

/-!
# What a launch plan promises

The node group that a launch plan asks for is one that the class allows and the demand is met by.
Each promise comes from a stage of its own: from the catalog, from the offerings of the class, from
the choice, from the subnets, or from the settings of the class.

## Main definitions

* `NodeGroupSpec.Serves` : a group for a class and a demand.

## Main statements

* `LaunchPlan.serves_of_of` : what a plan asks for serves the class and the demand.
-/

namespace NodeSupply

/-- A group is one that a class allows and that meets a demand. -/
structure NodeGroupSpec.Serves (market : Market) (c : NodeClass) (d : Demand) (spec : NodeGroupSpec) :
    Prop where
  generated : ∃ p ∈ market.catalog.platforms, spec.shape ∈ p.shapes.toList ∧
    (spec.discounted = true → c.discountable = true ∧ p.discountable = true)
  fraction : c.allowsFraction spec.shape.fraction = true
  cpu : d.resources.cpu ≤ spec.shape.cpu
  memory : d.resources.memoryMib ≤ spec.shape.memoryMib
  disk : d.resources.diskGib ≤ spec.diskSizeBytes >>> 30
  instanceType : d.requirements.allows Label.instanceType spec.shape.name = true
  platform : d.requirements.allows Label.platform spec.shape.platform = true
  coreFraction :
    d.requirements.allows Label.coreFraction (Numeral.text spec.shape.fraction.percent) = true
  arch : d.requirements.allows Label.arch "amd64" = true
  os : d.requirements.allows Label.os "linux" = true
  zone : d.requirements.allows Label.zone spec.zone = true
  capacityType : d.requirements.allows Label.capacityType
    (if spec.discounted then CapacityType.spot else .onDemand).label = true
  zoned : spec.zone ∈ market.zones.toList
  subnet : spec.subnet ≠ "" ∧ ∃ s ∈ c.subnets, s.id = spec.subnet ∧ s.zone = spec.zone
  accelerated : spec.acceleratedNetwork = true →
    c.acceleratedNetwork = true ∧ spec.shape.fraction.percent = 100
  diskSize : spec.diskSizeBytes = c.diskSizeBytes
  securityGroups : spec.securityGroups = c.securityGroups

/-! ### Subnets -/

theorem mem_of_roomiest? {l : List ResolvedSubnet} {s : ResolvedSubnet} (h : roomiest? l = some s) :
    s ∈ l := by
  induction l generalizing s with
  | nil => cases h
  | cons a l ih =>
    rw [roomiest?] at h
    split at h
    next => exact List.mem_cons.2 (.inl (Option.some.inj h).symm)
    next best hbest =>
      split at h <;> cases h
      · exact List.mem_cons_self
      · exact List.mem_cons_of_mem _ (ih hbest)

theorem exists_of_roomiestIn? {zone : Zone} {subnets : List ResolvedSubnet} {id : SubnetId}
    (h : roomiestIn? zone subnets = some id) :
    id ≠ "" ∧ ∃ s ∈ subnets, s.id = id ∧ s.zone = zone := by
  obtain ⟨s, hs, rfl⟩ := Option.map_eq_some_iff.1 h
  obtain ⟨hmem, htest⟩ := List.mem_filter.1 (mem_of_roomiest? hs)
  obtain ⟨hzone, hid⟩ := Bool.and_eq_true_iff.1 htest
  exact ⟨by simpa using hid, s, hmem, rfl, by simpa using hzone⟩

/-! ### Plans -/

theorem eq_ok_of_mapError_eq_ok {ε ε' α : Type} {x : Except ε α} {f : ε → ε'} {a : α}
    (h : x.mapError f = .ok a) : x = .ok a := by
  cases x with
  | error e => cases h
  | ok b => exact congrArg Except.ok (Except.ok.inj h)

theorem exists_of_mapError_eq_error {ε ε' α : Type} {x : Except ε α} {f : ε → ε'} {e' : ε'}
    (h : x.mapError f = .error e') : ∃ e, x = .error e ∧ e' = f e := by
  cases x with
  | error e => exact ⟨e, rfl, (Except.error.inj h).symm⟩
  | ok a => cases h

theorem eq_some_of_elim_eq_ok {ε α : Type} {x : Option α} {e : ε} {a : α}
    (h : x.elim (.error e) .ok = (.ok a : Except ε α)) : x = some a := by
  cases x with
  | none => cases h
  | some b => exact congrArg some (Except.ok.inj h)

namespace LaunchPlan

/-- The stages that a plan comes of. -/
theorem exists_of_of {brief : Brief} {c : NodeClass} {r : NodeRequest} {plan : LaunchPlan}
    (h : LaunchPlan.of brief c r = .ok plan) :
    ∃ candidates x subnet disk, brief.market.list c = .ok candidates ∧
      Selection.select brief.tieBreak candidates r.demand = .ok x ∧
      roomiestIn? x.offering.zone c.subnets = some subnet ∧
      plan.selection = x ∧
      plan.request =
        { name := r.name
          shape := x.instanceType.shape
          zone := x.offering.zone
          subnet
          discounted := x.offering.capacityType == .spot
          disk
          diskSizeBytes := c.diskSizeBytes
          labels := c.labels
          securityGroups := c.securityGroups
          acceleratedNetwork := c.acceleratedNetwork } := by
  obtain ⟨candidates, hlist, h⟩ := exists_of_bind_eq_ok h
  obtain ⟨x, hselect, h⟩ := exists_of_bind_eq_ok h
  obtain ⟨subnet, hsubnet, h⟩ := exists_of_bind_eq_ok h
  obtain ⟨disk, hdisk, h⟩ := exists_of_bind_eq_ok h
  cases h
  exact ⟨candidates, x, subnet, disk, eq_ok_of_mapError_eq_ok hlist,
    eq_ok_of_mapError_eq_ok hselect, eq_some_of_elim_eq_ok hsubnet, rfl, rfl⟩

/-- What a plan asks for serves the class and the demand. -/
theorem serves_of_of {brief : Brief} {c : NodeClass} {r : NodeRequest} {plan : LaunchPlan}
    (h : LaunchPlan.of brief c r = .ok plan) (home : String) :
    (plan.request.spec home).Serves brief.market c r.demand := by
  obtain ⟨candidates, ⟨t, o⟩, subnet, disk, hlist, hselect, hsubnet, -, hrequest⟩ :=
    exists_of_of h
  rw [hrequest]
  obtain ⟨hmem, hcompatible, hmeets, ho, hfits⟩ := Selection.exists_of_select hselect
  have hoffers := Market.offers_of_mem_list hlist hmem
  have hofferings : o.requirements.compatible r.demand.requirements = true :=
    (Bool.and_eq_true_iff.1 hfits).2
  obtain ⟨p, hp, hshape, hspot⟩ := hoffers.generated
  simp only [Selection.meets, Bool.and_eq_true, decide_eq_true_eq] at hmeets
  obtain ⟨⟨hcpu, hmemory⟩, hdisk⟩ := hmeets
  rw [hoffers.capacity] at hcpu hmemory hdisk
  exact
    { generated := ⟨p, hp, hshape, fun hdiscounted => hspot o ho (eq_of_beq hdiscounted)⟩
      fraction := hoffers.fraction
      cpu := hcpu
      memory := hmemory
      disk := hdisk
      instanceType := Requirements.allows_of_compatible hcompatible hoffers.instanceType
      platform := Requirements.allows_of_compatible hcompatible hoffers.platform
      coreFraction := Requirements.allows_of_compatible hcompatible hoffers.coreFraction
      arch := Requirements.allows_of_compatible hcompatible hoffers.arch
      os := Requirements.allows_of_compatible hcompatible hoffers.os
      zone := Requirements.allows_of_compatible hofferings o.get?_zone
      capacityType := by
        have hallows := Requirements.allows_of_compatible hofferings o.get?_capacityType
        cases hc : o.capacityType with
        | onDemand => simpa [NodeGroupRequest.spec, hc] using hallows
        | spot => simpa [NodeGroupRequest.spec, hc] using hallows
      zoned := hoffers.zoned o ho
      subnet := exists_of_roomiestIn? hsubnet
      accelerated := fun haccelerated => by
        simpa [NodeGroupRequest.spec, CoreFraction.isFull] using haccelerated
      diskSize := rfl
      securityGroups := rfl }

end LaunchPlan

end NodeSupply
