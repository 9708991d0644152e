import NodeSupply.Proofs.Routine.GroupRequest
import NodeSupply.Proofs.Routine.LaunchPlan

/-!
# What requirements say of the labels of a node

Instance types and offerings have values for the well-known labels, and only these are held against
the requirements of a demand.  So the requirements allow what a node has for a well-known label, and
what they say of other labels of its class does not matter: nothing on offer has a value for them.

## Main definitions

* `NodeGroupSpec.ownLabels` : what the nodes of a group have for the well-known labels.
* `Label.ofShape` : the labels that a node has from its shape.

## Main statements

* `NodeGroupSpec.Serves.allows` : the requirements allow what a node has for a well-known label.
* `LaunchPlan.of_congr` : a plan depends on what is said of the well-known labels.
-/

namespace NodeSupply

/-- The labels that are stamped on a node for its shape. -/
def Label.ofShape : List String := [nodePlatform, nodeCpu, nodeMemory, nodeCoreFraction]

namespace NodeGroupSpec

/-- What the nodes of a group have for the well-known labels. -/
def ownLabels (spec : NodeGroupSpec) : List (String × String) :=
  [(Label.instanceType, spec.shape.name), (Label.zone, spec.zone),
   (Label.capacityType, (if spec.discounted then CapacityType.spot else .onDemand).label),
   (Label.arch, "amd64"), (Label.os, "linux"), (Label.platform, spec.shape.platform),
   (Label.coreFraction, Numeral.text spec.shape.fraction.percent)]

/-- A node has one value for each well-known label. -/
theorem map_fst_ownLabels (spec : NodeGroupSpec) : spec.ownLabels.map (·.1) = Label.wellKnown := rfl

/-- The requirements allow what a node has for a well-known label. -/
theorem Serves.allows {market : Market} {c : NodeClass} {d : Demand} {spec : NodeGroupSpec}
    (h : spec.Serves market c d) {label : String × String} (own : label ∈ spec.ownLabels) :
    d.requirements.allows label.1 label.2 = true := by
  simp only [ownLabels, List.mem_cons, List.not_mem_nil, or_false] at own
  rcases own with rfl | rfl | rfl | rfl | rfl | rfl | rfl
  · exact h.instanceType
  · exact h.zone
  · exact h.capacityType
  · exact h.arch
  · exact h.os
  · exact h.platform
  · exact h.coreFraction

end NodeGroupSpec

namespace LaunchPlan

/-- A plan depends on what is said of the well-known labels. -/
theorem of_congr {brief : Brief} {c : NodeClass} {r r' : NodeRequest} (name : r.name = r'.name)
    (resources : r.demand.resources = r'.demand.resources)
    (agree : ∀ key ∈ Label.wellKnown,
      r.demand.requirements.get? key = r'.demand.requirements.get? key) :
    LaunchPlan.of brief c r = LaunchPlan.of brief c r' := by
  unfold LaunchPlan.of
  cases hlist : brief.market.list c with
  | error e => rfl
  | ok candidates =>
    have hselect : Selection.select brief.tieBreak candidates r.demand =
        Selection.select brief.tieBreak candidates r'.demand := by
      refine Selection.select_congr resources (fun t ht => ?_) fun o => ?_
      · exact Requirements.compatible_congr fun key ours hours =>
          agree key ((Market.offers_of_mem_list hlist ht).labelled key ours hours)
      · exact Requirements.compatible_congr fun key ours hours =>
          agree key (Offering.mem_wellKnown hours)
    change ((Selection.select brief.tieBreak candidates r.demand).mapError _ >>= _) =
      ((Selection.select brief.tieBreak candidates r'.demand).mapError _ >>= _)
    rw [hselect, name]

/-- The labels of a class are stamped on its nodes and change nothing else of a plan. -/
theorem of_labels {brief : Brief} {c : NodeClass} {r : NodeRequest} {plan : LaunchPlan}
    (h : LaunchPlan.of brief c r = .ok plan) (labels : SortedMap String String) :
    LaunchPlan.of brief { c with labels } r =
      .ok { plan with request := { plan.request with labels } } := by
  have hlist : brief.market.list { c with labels } = brief.market.list c := rfl
  obtain ⟨candidates, hcandidates, h⟩ := exists_of_bind_eq_ok h
  obtain ⟨x, hx, h⟩ := exists_of_bind_eq_ok h
  obtain ⟨subnet, hsubnet, h⟩ := exists_of_bind_eq_ok h
  obtain ⟨disk, hdisk, h⟩ := exists_of_bind_eq_ok h
  cases h
  exact bind_eq_ok (hlist ▸ hcandidates)
    (bind_eq_ok hx (bind_eq_ok hsubnet (bind_eq_ok hdisk rfl)))

end LaunchPlan

end NodeSupply
