import NodeSupply.Offer.Selection
import NodeSupply.Proofs.Sorted

/-!
# What is offered and what is chosen

Every instance type that a node class is offered is a shape on sale that the class allows, and what
its labels and its offerings say is true of the nodes that it leads to.  What is chosen is among
what is offered and meets the demand label by label.

## Main definitions

* `InstanceType.Offers` : what an instance type of a market says about its shape.

## Main statements

* `Market.offers_of_mem_list` : whatever is listed for a class is on sale for it.
* `Selection.exists_of_select` : whatever is chosen was a candidate and fits.
* `Selection.select_congr` : what is chosen depends on what is said of the labels that are offered.
* `Requirements.allows_of_compatible` : what it means to fit a demand, for one label.
-/

namespace NodeSupply

/-- What succeeds in two parts succeeds in the first and then in the second. -/
theorem exists_of_bind_eq_ok {ε α β : Type} {x : Except ε α} {f : α → Except ε β} {b : β}
    (h : (x >>= f) = .ok b) : ∃ a, x = .ok a ∧ f a = .ok b := by
  cases x with
  | error e => cases h
  | ok a => exact ⟨a, rfl, h⟩

/-- What fails in two parts fails in the first, or in the second after the first. -/
theorem exists_of_bind_eq_error {ε α β : Type} {x : Except ε α} {f : α → Except ε β} {e : ε}
    (h : (x >>= f) = .error e) : x = .error e ∨ ∃ a, x = .ok a ∧ f a = .error e := by
  cases x with
  | error e' => exact .inl (congrArg Except.error (Except.error.inj h))
  | ok a => exact .inr ⟨a, rfl, h⟩

theorem bind_eq_ok {ε α β : Type} {x : Except ε α} {f : α → Except ε β} {a : α} {b : β}
    (first : x = .ok a) (second : f a = .ok b) : (x >>= f) = .ok b := by
  rw [first]
  exact second

/-- Every value that a list was mapped to came of one of its members. -/
theorem exists_of_mem_mapM {ε α β : Type} {f : α → Except ε β} {l : List α} {ys : List β}
    (h : l.mapM f = .ok ys) {y : β} (hy : y ∈ ys) : ∃ x ∈ l, f x = .ok y := by
  induction l generalizing ys with
  | nil =>
    cases h
    cases hy
  | cons a l ih =>
    rw [List.mapM_cons] at h
    obtain ⟨b, ha, h⟩ := exists_of_bind_eq_ok h
    obtain ⟨bs, hl, h⟩ := exists_of_bind_eq_ok h
    cases h
    rcases List.mem_cons.1 hy with rfl | hy
    · exact ⟨a, List.mem_cons_self, ha⟩
    · obtain ⟨x, hx, hfx⟩ := ih hl hy
      exact ⟨x, List.mem_cons_of_mem _ hx, hfx⟩

/-- What succeeds for every member of a list succeeds for the list. -/
theorem exists_mapM_eq_ok {ε α β : Type} {f : α → Except ε β} {l : List α}
    (h : ∀ x ∈ l, ∃ y, f x = .ok y) : ∃ ys, l.mapM f = .ok ys := by
  induction l with
  | nil => exact ⟨[], rfl⟩
  | cons a l ih =>
    obtain ⟨y, hy⟩ := h a List.mem_cons_self
    obtain ⟨ys, hys⟩ := ih fun x hx => h x (List.mem_cons_of_mem _ hx)
    exact ⟨y :: ys, by rw [List.mapM_cons, hy, hys]; rfl⟩

theorem mapM_ok {ε α β : Type} (f : α → β) (l : List α) :
    l.mapM (fun a => (.ok (f a) : Except ε β)) = .ok (l.map f) := List.mapM_pure

/-! ### Labels -/

namespace Requirements

/-- The values that a list gives a label, if no label is listed twice. -/
theorem get?_of {entries : List (String × List String)} (distinct : (entries.map (·.1)).Nodup)
    {key : String} {values : List String} (h : (key, values) ∈ entries) :
    (of entries).get? key = some (.ofList values) := by
  refine SortedMap.get?_ofList_of_mem ?_ (List.mem_map.2 ⟨_, h, rfl⟩)
  rw [List.map_map]
  exact distinct

/-- A label that a list does not mention is not constrained. -/
theorem get?_of_eq_none {entries : List (String × List String)} {key : String}
    (h : key ∉ entries.map (·.1)) : (of entries).get? key = none := by
  refine (SortedMap.get?_foldl_insert_of_not_mem ?_ _).trans (SortedMap.get?_empty key)
  rw [List.map_map]
  exact h

theorem mem_of_get?_of {entries : List (String × List String)} {key : String}
    {values : SortedSet String} (h : (of entries).get? key = some values) :
    key ∈ entries.map (·.1) := by
  by_contra hkey
  cases (get?_of_eq_none hkey).symm.trans h

/-- What a list says of a label does not depend on an entry for another one. -/
theorem get?_of_cons_of_ne {entry : String × List String} {entries : List (String × List String)}
    {key : String} (h : entry.1 ≠ key) :
    (of (entry :: entries)).get? key = (of entries).get? key := by
  simp only [of, List.map_cons, SortedMap.get?_ofList]
  rw [List.filter_cons_of_neg (by simpa using h)]

/-- What requirements that are listed allow for a label among them. -/
theorem allows_of {entries : List (String × List String)} (distinct : (entries.map (·.1)).Nodup)
    {key : String} {values : List String} (h : (key, values) ∈ entries) {value : String} :
    (of entries).allows key value = true ↔ value ∈ values := by
  rw [allows, get?_of distinct h, Option.elim_some, SortedSet.contains_iff, SortedSet.mem_ofList]

/-- Requirements are compatible if the labels that both constrain have a value in common. -/
theorem compatible_iff {r d : Requirements} : r.compatible d = true ↔
    ∀ key ours theirs, r.get? key = some ours → d.get? key = some theirs →
      ∃ value ∈ ours.toList, value ∈ theirs.toList := by
  simp only [compatible, List.all_eq_true, Prod.forall, SortedMap.mem_entries_iff]
  constructor
  · intro h key ours theirs hours htheirs
    have hshared := h key ours hours
    rw [htheirs, Option.elim_some, Bool.not_eq_true'] at hshared
    exact SortedSet.disjoint_eq_false_iff.1 hshared
  · intro h key ours hours
    cases htheirs : d.get? key with
    | none => rfl
    | some theirs =>
      rw [Option.elim_some, Bool.not_eq_true']
      exact SortedSet.disjoint_eq_false_iff.2 (h key ours theirs hours htheirs)

/-- Whether a demand is compatible depends on what it says of the labels that are offered. -/
theorem compatible_congr {r d d' : Requirements}
    (h : ∀ key ours, r.get? key = some ours → d.get? key = d'.get? key) :
    r.compatible d = r.compatible d' := by
  rw [Bool.eq_iff_iff, compatible_iff, compatible_iff]
  refine forall_congr' fun key => forall_congr' fun ours => forall_congr' fun theirs =>
    imp_congr_right fun hours => ?_
  rw [h key ours hours]

/-- Where a label has one value, a compatible demand allows it. -/
theorem allows_of_compatible {r d : Requirements} (h : r.compatible d = true) {key value : String}
    (single : r.get? key = some (.ofList [value])) : d.allows key value = true := by
  unfold allows
  cases htheirs : d.get? key with
  | none => rfl
  | some theirs =>
    obtain ⟨v, hv, hmem⟩ := compatible_iff.1 h key _ theirs single htheirs
    obtain rfl : v = value := List.mem_singleton.1 (SortedSet.mem_ofList.1 hv)
    exact SortedSet.contains_iff.2 hmem

end Requirements

theorem Offering.get?_zone (o : Offering) :
    o.requirements.get? Label.zone = some (.ofList [o.zone]) :=
  Requirements.get?_of (by simp [Label.zone, Label.capacityType]) (by simp)

theorem Offering.get?_capacityType (o : Offering) :
    o.requirements.get? Label.capacityType = some (.ofList [o.capacityType.label]) :=
  Requirements.get?_of (by simp [Label.zone, Label.capacityType]) (by simp)

/-- An offering has values for well-known labels only. -/
theorem Offering.mem_wellKnown {o : Offering} {key : String} {values : SortedSet String}
    (h : o.requirements.get? key = some values) : key ∈ Label.wellKnown := by
  have hkeys : [Label.zone, Label.capacityType] ⊆ Label.wellKnown := by simp [Label.wellKnown]
  exact hkeys (Requirements.mem_of_get?_of h)

/-! ### Offers -/

/-- What an instance type says that a platform of a market offers to a node class. -/
structure InstanceType.Offers (m : Market) (c : NodeClass) (t : InstanceType) : Prop where
  fraction : c.allowsFraction t.shape.fraction = true
  name : t.name = t.shape.name
  instanceType : t.requirements.get? Label.instanceType = some (.ofList [t.shape.name])
  platform : t.requirements.get? Label.platform = some (.ofList [t.shape.platform])
  coreFraction : t.requirements.get? Label.coreFraction =
    some (.ofList [Numeral.text t.shape.fraction.percent])
  arch : t.requirements.get? Label.arch = some (.ofList ["amd64"])
  os : t.requirements.get? Label.os = some (.ofList ["linux"])
  labelled : ∀ key values, t.requirements.get? key = some values → key ∈ Label.wellKnown
  capacity : t.capacity = ⟨t.shape.cpu, t.shape.memoryMib, c.diskSizeBytes >>> 30⟩
  zoned : ∀ o ∈ t.offerings, o.zone ∈ m.zones.toList
  generated : ∃ p ∈ m.catalog.platforms, t.shape ∈ p.shapes.toList ∧
    ∀ o ∈ t.offerings, o.capacityType = .spot → c.discountable = true ∧ p.discountable = true

namespace InstanceType

/-- An offering is for a zone of the market and for a capacity type that the instance type names. -/
theorem exists_of_mem_resolve {t : InstanceType} {prices : PriceList} {zones : SortedSet Zone}
    {inventory : ZoneInventory} {offerings : List Offering}
    (h : t.resolve prices zones inventory = .ok offerings) {o : Offering} (ho : o ∈ offerings) :
    o.zone ∈ zones.toList ∧
      ∃ kinds, t.wantedCapacityTypes = .ok kinds ∧ o.capacityType ∈ kinds := by
  obtain ⟨kinds, hkinds, h⟩ := exists_of_bind_eq_ok h
  cases h
  obtain ⟨zone, hzone, ho⟩ := List.mem_flatMap.1 ho
  obtain ⟨⟨kind, price⟩, hpriced, rfl⟩ := List.mem_map.1 ho
  obtain ⟨kind', hkind, heq⟩ := List.mem_map.1 hpriced
  cases heq
  exact ⟨hzone, kinds, hkinds, (List.mem_filter.1 hkind).1⟩

/-- The labels of an instance type with their values. -/
def labels (s : Shape) (p : Platform) (c : NodeClass) : List (String × List String) :=
  [(Label.instanceType, [s.name]), (Label.platform, [s.platform]),
   (Label.coreFraction, [Numeral.text s.fraction.percent]), (Label.arch, ["amd64"]),
   (Label.os, ["linux"]), (Label.zone, c.subnets.map (·.zone)),
   (Label.capacityType, (capacityTypes p c).map CapacityType.label)]

theorem get?_requirements_ofShape {s : Shape} {p : Platform} {c : NodeClass} {key : String}
    {values : List String} (h : (key, values) ∈ labels s p c) :
    (ofShape s p c).requirements.get? key = some (.ofList values) := by
  have hdistinct : ((labels s p c).map (·.1)).Nodup := by
    simp only [labels, List.map_cons, List.map_nil]
    decide
  exact Requirements.get?_of hdistinct h

/-- An instance type has values for well-known labels only. -/
theorem mem_wellKnown_of_ofShape {s : Shape} {p : Platform} {c : NodeClass} {key : String}
    {values : SortedSet String} (h : (ofShape s p c).requirements.get? key = some values) :
    key ∈ Label.wellKnown := by
  have hkeys : (labels s p c).map (·.1) ⊆ Label.wellKnown := by simp [labels, Label.wellKnown]
  have hkey : key ∈ (labels s p c).map (·.1) := Requirements.mem_of_get?_of h
  exact hkeys hkey

theorem wantedCapacityTypes_ofShape (s : Shape) (p : Platform) (c : NodeClass) :
    (ofShape s p c).wantedCapacityTypes =
      (SortedSet.ofList ((capacityTypes p c).map CapacityType.label)).toList.mapM
        CapacityType.ofLabel := by
  have hlabels : (ofShape s p c).requirements.get? Label.capacityType =
      some (.ofList ((capacityTypes p c).map CapacityType.label)) :=
    get?_requirements_ofShape (by simp [labels])
  rw [wantedCapacityTypes, hlabels, Option.elim_some]

/-- A shape is discounted only where both the class and the platform are. -/
theorem discountable_of_spot_mem {s : Shape} {p : Platform} {c : NodeClass}
    {kinds : List CapacityType} (h : (ofShape s p c).wantedCapacityTypes = .ok kinds)
    (hspot : .spot ∈ kinds) : c.discountable = true ∧ p.discountable = true := by
  rw [wantedCapacityTypes_ofShape] at h
  obtain ⟨label, hlabel, hof⟩ := exists_of_mem_mapM h hspot
  obtain ⟨kind, hkind, rfl⟩ := List.mem_map.1 (SortedSet.mem_ofList.1 hlabel)
  unfold capacityTypes at hkind
  split at hkind
  next hboth => simpa using hboth
  next =>
    obtain rfl := List.mem_singleton.1 hkind
    cases hof

end InstanceType

namespace Market

theorem offers_of_build {m : Market} {s : Shape} {p : Platform} {c : NodeClass}
    {inventory : ZoneInventory} {t : InstanceType} (h : m.build s p c inventory = .ok t)
    (platform : p ∈ m.catalog.platforms) (shape : s ∈ p.shapes.toList)
    (fraction : c.allowsFraction s.fraction = true) : t.Offers m c := by
  obtain ⟨offerings, hresolve, h⟩ := exists_of_bind_eq_ok h
  cases h
  have hlabel : ∀ key values, (key, values) ∈ InstanceType.labels s p c →
      (InstanceType.ofShape s p c).requirements.get? key = some (.ofList values) :=
    fun _ _ => InstanceType.get?_requirements_ofShape
  constructor
  · exact fraction
  · rfl
  · exact hlabel _ _ (by simp [InstanceType.labels, InstanceType.ofShape])
  · exact hlabel _ _ (by simp [InstanceType.labels, InstanceType.ofShape])
  · exact hlabel _ _ (by simp [InstanceType.labels, InstanceType.ofShape])
  · exact hlabel _ _ (by simp [InstanceType.labels])
  · exact hlabel _ _ (by simp [InstanceType.labels])
  · exact fun _ _ => InstanceType.mem_wellKnown_of_ofShape
  · rfl
  · exact fun o ho => (InstanceType.exists_of_mem_resolve hresolve ho).1
  · refine ⟨p, platform, shape, fun o ho hspot => ?_⟩
    obtain ⟨-, kinds, hkinds, hkind⟩ := InstanceType.exists_of_mem_resolve hresolve ho
    exact InstanceType.discountable_of_spot_mem hkinds (hspot ▸ hkind)

theorem sortTypes_perm (types : List InstanceType) : (sortTypes types).Perm types := by
  have hperm := (List.mergeSort_perm (types.map fun t => (t.cheapest? fun _ => true, t))
    before).map (·.2)
  simpa [sortTypes, Function.comp_def] using hperm

/-- Whatever is listed for a class was built from an allowed shape of a platform. -/
theorem exists_build_of_mem_list {m : Market} {c : NodeClass} {types : List InstanceType}
    (h : m.list c = .ok types) {t : InstanceType} (ht : t ∈ types) :
    ∃ p ∈ m.catalog.platforms, ∃ s ∈ p.shapes.toList, c.allowsFraction s.fraction = true ∧
      m.build s p c (.ofSubnets c.subnets) = .ok t := by
  obtain ⟨perPlatform, hmap, h⟩ := exists_of_bind_eq_ok h
  cases h
  obtain ⟨ts, hts, ht⟩ := List.mem_flatten.1 ((sortTypes_perm _).mem_iff.1 ht)
  obtain ⟨p, hp, hshapes⟩ := exists_of_mem_mapM hmap hts
  obtain ⟨s, hs, hbuild⟩ := exists_of_mem_mapM hshapes ht
  obtain ⟨hshape, hfraction⟩ := List.mem_filter.1 hs
  exact ⟨p, hp, s, hshape, hfraction, hbuild⟩

/-- Whatever is listed for a class is on sale for it. -/
theorem offers_of_mem_list {m : Market} {c : NodeClass} {types : List InstanceType}
    (h : m.list c = .ok types) {t : InstanceType} (ht : t ∈ types) : t.Offers m c := by
  obtain ⟨p, hp, s, hshape, hfraction, hbuild⟩ := exists_build_of_mem_list h ht
  exact offers_of_build hbuild hp hshape hfraction

end Market

/-! ### Choice -/

namespace Selection

theorem available_of_fits {d : Demand} {o : Offering} (h : fits d o = true) :
    o.available = true := by
  simp only [fits, Bool.and_eq_true] at h
  exact h.1.1

/-- What is chosen depends on what the demand says of the labels that are offered. -/
theorem select_congr {rule : TieBreak} {candidates : List InstanceType} {d d' : Demand}
    (resources : d.resources = d'.resources)
    (types : ∀ t ∈ candidates,
      t.requirements.compatible d.requirements = t.requirements.compatible d'.requirements)
    (offerings : ∀ o : Offering,
      o.requirements.compatible d.requirements = o.requirements.compatible d'.requirements) :
    select rule candidates d = select rule candidates d' := by
  have hfits : fits d = fits d' := funext fun o => by rw [fits, fits, offerings o]
  have hmeets : meets d = meets d' := funext fun t => by rw [meets, meets, resources]
  have heligible : eligible d candidates = eligible d' candidates := by
    unfold eligible
    rw [hfits, hmeets, List.filter_congr fun t ht => by rw [types t ht]]
  unfold select
  rw [heligible, hfits]

theorem mem_of_best? {l : List (Binary64 × InstanceType)} {a : Binary64 × InstanceType}
    (h : best? l = some a) : a ∈ l := by
  induction l generalizing a with
  | nil => cases h
  | cons b l ih =>
    rw [best?] at h
    split at h
    next => exact List.mem_cons.2 (.inl (Option.some.inj h).symm)
    next c hc =>
      split at h <;> cases h
      · exact List.mem_cons_self
      · exact List.mem_cons_of_mem _ (ih hc)

theorem mem_of_mem_roomiest {tied : List Offering} {o : Offering} (h : o ∈ roomiest tied) :
    o ∈ tied := by
  unfold roomiest at h
  split at h
  next => exact h
  next => exact (List.mem_filter.1 h).1

theorem mem_of_pick {rule : TieBreak} {l : List Offering} {o : Offering}
    (h : pick rule l = some o) : o ∈ l := by
  unfold pick at h
  split at h
  next => cases h
  next => exact List.mem_singleton.2 (Option.some.inj h).symm
  next =>
    cases hrule : l[rule l]? with
    | some o' =>
      rw [hrule] at h
      cases h
      exact List.mem_of_getElem? hrule
    | none =>
      rw [hrule] at h
      exact List.mem_of_head? h

/-- Whatever is chosen was a candidate and fits. -/
theorem exists_of_select {rule : TieBreak} {candidates : List InstanceType} {d : Demand}
    {x : Selection} (h : select rule candidates d = .ok x) :
    x.instanceType ∈ candidates ∧ x.instanceType.requirements.compatible d.requirements = true ∧
      meets d x.instanceType = true ∧ x.offering ∈ x.instanceType.offerings ∧
      fits d x.offering = true := by
  unfold select at h
  split at h
  next => cases h
  next price t hbest =>
    split at h
    next => cases h
    next o hpick =>
      cases h
      obtain ⟨t', ht', heq⟩ := List.mem_filterMap.1 (mem_of_best? hbest)
      obtain ⟨price', -, heq⟩ := Option.map_eq_some_iff.1 heq
      cases heq
      obtain ⟨hmem, hfits⟩ := List.mem_filter.1 ht'
      obtain ⟨hcompatible, hmeets⟩ := Bool.and_eq_true_iff.1 hfits
      obtain ⟨ho, hfit⟩ := List.mem_filter.1 (mem_of_mem_roomiest (mem_of_pick hpick))
      exact ⟨hmem, hcompatible, hmeets, ho, (Bool.and_eq_true_iff.1 hfit).1⟩

end Selection

end NodeSupply
