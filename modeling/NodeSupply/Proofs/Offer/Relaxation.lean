import NodeSupply.Proofs.Offer.Choice

/-!
# Asking for less

A demand that constrains fewer labels, allows them more values and asks for smaller amounts is met
by all that meets the stricter one.  So where something is chosen for the stricter demand, something
is chosen for the laxer one, also among more candidates, and the price is no higher.  The instance
type may be another, and ties may be broken by another rule.

## Main definitions

* `Requirements.Loosens` : requirements that allow all that others allow.
* `Demand.Relaxes` : a demand that asks for no more than another.

## Main statements

* `Requirements.Loosens.compatible` : what is compatible stays compatible.
* `Selection.Fitting.relax` : what fits a demand fits one that asks for no more.
* `Selection.select_of_relaxes` : the price is no higher.
-/

namespace NodeSupply

/-! ### Looser requirements -/

/-- Every label that is constrained is constrained by others as well, to some of its values. -/
def Requirements.Loosens (loose strict : Requirements) : Prop :=
  ∀ key values, loose.get? key = some values →
    ∃ fewer, strict.get? key = some fewer ∧ fewer.toList ⊆ values.toList

/-- A value that is shared with the stricter requirements is shared with the looser ones. -/
theorem Requirements.Loosens.compatible {loose strict : Requirements} (h : loose.Loosens strict)
    {r : Requirements} (fits : r.compatible strict = true) : r.compatible loose = true := by
  rw [compatible_iff] at fits ⊢
  intro key ours values hours hvalues
  obtain ⟨fewer, hfewer, hsubset⟩ := h key values hvalues
  obtain ⟨value, hmem, hmemFewer⟩ := fits key ours fewer hours hfewer
  exact ⟨value, hmem, hsubset hmemFewer⟩

/-- A demand asks for no more than another. -/
structure Demand.Relaxes (loose strict : Demand) : Prop where
  requirements : loose.requirements.Loosens strict.requirements
  cpu : loose.resources.cpu ≤ strict.resources.cpu
  memory : loose.resources.memoryMib ≤ strict.resources.memoryMib
  disk : loose.resources.diskGib ≤ strict.resources.diskGib

namespace Selection

variable {candidates more : List InstanceType} {loose strict : Demand}

/-- What fits a demand fits one that asks for no more, also among more candidates. -/
theorem Fitting.relax {t : InstanceType} {o : Offering} {p : Binary64}
    (h : Fitting strict candidates t o p) (relaxes : loose.Relaxes strict)
    (subset : candidates ⊆ more) : Fitting loose more t o p where
  candidate := subset h.candidate
  typeLabels := relaxes.requirements.compatible h.typeLabels
  cpu := UInt32.le_trans relaxes.cpu h.cpu
  memory := UInt64.le_trans relaxes.memory h.memory
  disk := UInt64.le_trans relaxes.disk h.disk
  offering := h.offering
  available := h.available
  priced := h.priced
  labels := relaxes.requirements.compatible h.labels

/-- Asking for less never makes the choice worse.  Where something is chosen, it has a price, and
for a demand that asks for no more something is chosen among more candidates, at no higher price,
whichever rules break the ties. -/
theorem select_of_relaxes (rule rule' : TieBreak) (relaxes : loose.Relaxes strict)
    (subset : candidates ⊆ more) {x : Selection} (h : select rule candidates strict = .ok x) :
    ∃ p, x.offering.price = some p ∧ ∃ y q, select rule' more loose = .ok y ∧
      y.offering.price = some q ∧ (q.compare p).isLE = true := by
  obtain ⟨p, hbest⟩ := exists_best_of_select h
  have hfits : Fitting loose more x.instanceType x.offering p := hbest.fitting.relax relaxes subset
  obtain ⟨y, q, hy, hbest'⟩ := exists_best rule' hfits
  exact ⟨p, hbest.fitting.priced, y, q, hy, hbest'.fitting.priced, hbest'.cheapest _ _ _ hfits⟩

/-- With one more zone and without a bound on cores another instance type is chosen, at minus zero
instead of zero. -/
theorem select_of_relaxes_in_more_zones :
    let first := twoCores "first" [⟨"first", "a", .onDemand, some ⟨0⟩, none, true⟩]
    let second := twoCores "second" [atMinusZero "b" .spot (some 3)]
    let strict : Demand := ⟨.of [(Label.zone, ["a"]), (Label.os, ["linux"])], ⟨2, 4096, 0⟩⟩
    let loose : Demand := ⟨.of [(Label.zone, ["a", "b"])], ⟨0, 4096, 0⟩⟩
    loose.Relaxes strict ∧ [first] ⊆ [second, first] ∧
      select .lexical [first] strict =
        .ok ⟨first, ⟨"first", "a", .onDemand, some ⟨0⟩, none, true⟩⟩ ∧
      ∃ y q, select (.place 1) [second, first] loose = .ok y ∧ y.offering.price = some q ∧
        (q.compare ⟨0⟩).isLE = true := by
  intro first second strict loose
  have relaxes : loose.Relaxes strict :=
    { requirements := by
        intro key values h
        obtain rfl : key = Label.zone := List.mem_singleton.1 (Requirements.mem_of_get?_of h)
        rw [Requirements.get?_of (by simp) List.mem_cons_self] at h
        cases h
        refine ⟨.ofList ["a"], ?_, fun zone hzone => ?_⟩
        · exact Requirements.get?_of (by simp [Label.zone, Label.os]) List.mem_cons_self
        · obtain rfl := List.mem_singleton.1 (SortedSet.mem_ofList.1 hzone)
          exact SortedSet.mem_ofList.2 List.mem_cons_self
      cpu := by decide
      memory := by decide
      disk := by decide }
  have subset : [first] ⊆ [second, first] := List.subset_cons_self ..
  have hselect : select .lexical [first] strict =
      .ok ⟨first, ⟨"first", "a", .onDemand, some ⟨0⟩, none, true⟩⟩ := by cbv
  obtain ⟨p, hp, y, q, hy, hq, hle⟩ :=
    select_of_relaxes .lexical (.place 1) relaxes subset hselect
  cases hp
  exact ⟨relaxes, subset, hselect, y, q, hy, hq, hle⟩

end Selection

end NodeSupply
