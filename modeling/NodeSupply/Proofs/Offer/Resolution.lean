import Mathlib.Data.Prod.Basic
import Mathlib.Data.List.ProdSigma
import NodeSupply.Proofs.Routine.Placement

/-!
# What an instance type is offered as

An instance type is offered once in each zone for each capacity type that it asks for and that is
sold, at the price of that capacity type.  What it asks for may name capacity types that are not
sold by anyone; the least of these is told.  What is built for a node class asks for none of them.

## Main definitions

* `InstanceType.LeastUnknown` : the capacity type that is told.
* `InstanceType.kinds` : the capacity types of the offerings.
* `InstanceType.Resolved` : what the offerings are.
* `InstanceType.SoldTo` : what the offerings of an instance type of a class are.

## Main statements

* `InstanceType.resolve_eq_error_iff` : when offerings cannot be given.
* `InstanceType.resolved_of_resolve` : the offerings that are given.
* `offerings_exact` : offerings are complete and exact, also those of a class.
-/

namespace NodeSupply

/-! ### Labels of capacity types -/

namespace CapacityType

/-- No capacity type has a label. -/
def Unknown (label : String) : Prop := ∀ kind : CapacityType, label ≠ kind.label

theorem label_injective : Function.Injective label := by
  intro a b h
  cases a <;> cases b <;> first | rfl | exact absurd h (by decide)

theorem ofLabel_label (kind : CapacityType) : ofLabel kind.label = .ok kind := by
  cases kind <;> rfl

theorem ofLabel_eq_error {value : String} (h : Unknown value) :
    ofLabel value = .error (.unknownCapacityType value) := by
  have honDemand : value ≠ "on-demand" := h onDemand
  have hspot : value ≠ "spot" := h spot
  rw [ofLabel, if_neg honDemand, if_neg hspot]

theorem unknown_or (value : String) :
    Unknown value ∨ ∃ kind : CapacityType, value = label kind := by
  by_cases h : ∃ kind : CapacityType, value = label kind
  · exact .inr h
  · exact .inl (not_exists.1 h)

/-- The first of some ascending labels that no capacity type has is the least of them. -/
theorem mapM_ofLabel_eq_error_iff {l : List String}
    (ascending : l.Pairwise fun a b => compare a b = .lt) {e : OfferingError} :
    l.mapM ofLabel = .error e ↔ ∃ value, e = .unknownCapacityType value ∧ value ∈ l ∧
      Unknown value ∧ ∀ other ∈ l, Unknown other → value ≤ other := by
  induction l with
  | nil => exact ⟨nofun, fun ⟨_, _, h, _⟩ => nomatch h⟩
  | cons a l ih =>
    obtain ⟨hfirst, hrest⟩ := List.pairwise_cons.1 ascending
    rw [List.mapM_cons]
    rcases unknown_or a with ha | ⟨kind, rfl⟩
    · rw [ofLabel_eq_error ha]
      have hle : ∀ b ∈ a :: l, a ≤ b := List.forall_mem_cons.2 ⟨String.le_refl a, fun b hb =>
        isLE_compare_iff.1 (by rw [hfirst b hb]; rfl)⟩
      constructor
      · intro h
        exact ⟨a, (Except.error.inj h).symm, List.mem_cons_self, ha, fun b hb _ => hle b hb⟩
      · rintro ⟨value, rfl, hvalue, -, hleast⟩
        have heq : value = a :=
          String.le_antisymm (hleast a List.mem_cons_self ha) (hle value hvalue)
        rw [heq]
        rfl
    · have hrest := ih hrest
      have hlabel : ¬ Unknown kind.label := fun h => h kind rfl
      simp only [List.mem_cons, forall_eq_or_imp, hlabel, false_implies, true_and]
      have hmap : (do let k ← ofLabel kind.label; let ks ← l.mapM ofLabel; pure (k :: ks)) =
          Except.error e ↔ l.mapM ofLabel = .error e := by
        rw [ofLabel_label]
        cases l.mapM ofLabel <;> simp [bind, Except.bind, pure, Except.pure]
      rw [hmap, hrest]
      exact exists_congr fun value => and_congr_right fun _ => and_congr_left fun h =>
        (or_iff_right (h.1 kind)).symm

/-- Where all labels are those of capacity types, they stand for these. -/
theorem eq_map_label_of_mapM {l : List String} {kinds : List CapacityType}
    (h : l.mapM ofLabel = .ok kinds) : l = kinds.map label := by
  induction l generalizing kinds with
  | nil =>
    cases h
    rfl
  | cons a l ih =>
    rw [List.mapM_cons] at h
    obtain ⟨kind, hkind, h⟩ := exists_of_bind_eq_ok h
    obtain ⟨rest, hrest, h⟩ := exists_of_bind_eq_ok h
    cases h
    rw [List.map_cons, ← ih hrest]
    rcases unknown_or a with ha | ⟨kind', rfl⟩
    · rw [ofLabel_eq_error ha] at hkind
      cases hkind
    · rw [ofLabel_label] at hkind
      cases hkind
      rfl

/-- Capacity types in the order of their labels, the one at the full price first. -/
theorem eq_filter_of_ascending {kinds : List CapacityType}
    (ascending : (kinds.map label).Pairwise fun a b => compare a b = .lt) :
    kinds = [onDemand, spot].filter (· ∈ kinds) := by
  have hall : ([onDemand, spot].map label).Pairwise fun a b => compare a b = .lt := by decide
  have hnodup : ∀ l : List CapacityType, (l.Pairwise fun a b => compare a.label b.label = .lt) →
      l.Nodup := fun l h => h.imp fun hab heq => by
    simp [heq, Std.ReflCmp.compare_self] at hab
  have hkinds := List.pairwise_map.1 ascending
  have hfilter := (List.pairwise_map.1 hall).filter (· ∈ kinds)
  have hmem : ∀ kind, kind ∈ kinds ↔ kind ∈ [onDemand, spot].filter (· ∈ kinds) := by
    intro kind
    cases kind <;> simp
  refine List.Perm.eq_of_pairwise ?_ hkinds hfilter
    ((List.perm_ext_iff_of_nodup (hnodup _ hkinds) (hnodup _ hfilter)).2 hmem)
  intro a b _ _ hab hba
  exact absurd (Std.TransCmp.lt_trans hab hba) (by simp [Std.ReflCmp.compare_self])

end CapacityType

/-! ### Offerings of an instance type -/

namespace InstanceType

variable {t : InstanceType} {prices : PriceList} {zones : SortedSet Zone}
  {inventory : ZoneInventory} {offerings : List Offering}

/-- The labels of the capacity types that an instance type asks for, in ascending order. -/
def wantedLabels (t : InstanceType) : List String :=
  (t.requirements.get? Label.capacityType).elim [] (·.toList)

theorem ascending_wantedLabels (t : InstanceType) :
    t.wantedLabels.Pairwise fun a b => compare a b = .lt := by
  unfold wantedLabels
  cases t.requirements.get? Label.capacityType with
  | none => exact .nil
  | some values => exact values.ascending

/-- An instance type asks for something that no capacity type has as its label, and for nothing less
that none has. -/
structure LeastUnknown (t : InstanceType) (value : String) : Prop where
  wanted : value ∈ t.wantedLabels
  unknown : CapacityType.Unknown value
  least : ∀ other ∈ t.wantedLabels, CapacityType.Unknown other → value ≤ other

/-- The capacity types of the offerings, the one at the full price first: those that are asked for,
without discounts on a platform that has none. -/
def kinds (t : InstanceType) : List CapacityType :=
  [.onDemand, .spot].filter fun kind =>
    kind.label ∈ t.wantedLabels && (kind == .onDemand || t.platformDiscountable)

/-- The offerings of an instance type. -/
structure Resolved (t : InstanceType) (prices : PriceList) (zones : SortedSet Zone)
    (inventory : ZoneInventory) (offerings : List Offering) : Prop where
  /-- There is one in each zone for each capacity type, in this order. -/
  pairs : offerings.map (fun o => (o.zone, o.capacityType)) = zones.toList ×ˢ t.kinds
  named : ∀ o ∈ offerings, o.instanceType = t.name
  /-- Each has the price of its own capacity type. -/
  priced : ∀ o ∈ offerings, o.price =
    match o.capacityType with
    | .onDemand => prices.onDemand? t.shape
    | .spot => prices.discounted? t.shape
  reported : ∀ o ∈ offerings, o.availableIps = inventory.headroom? o.zone
  available : ∀ o ∈ offerings, o.available = true ↔ o.price.isSome = true ∧
    t.requirements.allows Label.zone o.zone = true ∧ inventory.headroom? o.zone ≠ some 0

/-- Offerings cannot be given if a capacity type is asked for that nobody sells. -/
theorem resolve_eq_error_iff {e : OfferingError} : t.resolve prices zones inventory = .error e ↔
    ∃ value, e = .unknownCapacityType value ∧ t.LeastUnknown value := by
  have hresolve : t.resolve prices zones inventory = .error e ↔
      t.wantedLabels.mapM CapacityType.ofLabel = .error e := by
    unfold resolve
    change (t.wantedLabels.mapM CapacityType.ofLabel >>= _) = _ ↔ _
    cases t.wantedLabels.mapM CapacityType.ofLabel <;> simp [bind, Except.bind, pure, Except.pure]
  rw [hresolve, CapacityType.mapM_ofLabel_eq_error_iff t.ascending_wantedLabels]
  exact exists_congr fun value => and_congr_right fun _ =>
    ⟨fun ⟨hwanted, hunknown, hleast⟩ => ⟨hwanted, hunknown, hleast⟩,
      fun h => ⟨h.wanted, h.unknown, h.least⟩⟩

/-- Offerings are refused as soon as one of the capacity types that are asked for is unknown. -/
theorem exists_resolve_eq_error_iff : (∃ e, t.resolve prices zones inventory = .error e) ↔
    ∃ value ∈ t.wantedLabels, CapacityType.Unknown value := by
  constructor
  · rintro ⟨e, h⟩
    obtain ⟨value, -, hleast⟩ := resolve_eq_error_iff.1 h
    exact ⟨value, hleast.wanted, hleast.unknown⟩
  · rintro ⟨value, hvalue, hunknown⟩
    cases h : t.resolve prices zones inventory with
    | error e => exact ⟨e, rfl⟩
    | ok offerings =>
      obtain ⟨wanted, hwanted, -⟩ := exists_of_bind_eq_ok h
      have hlabels : t.wantedLabels = wanted.map CapacityType.label :=
        CapacityType.eq_map_label_of_mapM hwanted
      rw [hlabels] at hvalue
      obtain ⟨kind, -, rfl⟩ := List.mem_map.1 hvalue
      exact absurd rfl (hunknown kind)

theorem kinds_eq {wanted : List CapacityType} (h : t.wantedCapacityTypes = .ok wanted) :
    wanted.filter t.sells = t.kinds := by
  have hlabels : t.wantedLabels = wanted.map CapacityType.label :=
    CapacityType.eq_map_label_of_mapM h
  have hascending := t.ascending_wantedLabels
  rw [hlabels] at hascending
  calc wanted.filter t.sells
      = ([.onDemand, .spot].filter (· ∈ wanted)).filter t.sells := by
        rw [← CapacityType.eq_filter_of_ascending hascending]
    _ = t.kinds := by
        rw [List.filter_filter, kinds, hlabels]
        refine List.filter_congr fun kind _ => ?_
        simp only [List.mem_map_of_injective CapacityType.label_injective]
        cases kind <;> exact Bool.and_comm ..

theorem eq_of_mem_resolve (h : t.resolve prices zones inventory = .ok offerings) {o : Offering}
    (ho : o ∈ offerings) : o.instanceType = t.name ∧ o.price = t.priceAs prices o.capacityType ∧
      o.availableIps = inventory.headroom? o.zone := by
  obtain ⟨wanted, -, h⟩ := exists_of_bind_eq_ok h
  cases h
  obtain ⟨zone, -, ho⟩ := List.mem_flatMap.1 ho
  obtain ⟨⟨kind, price⟩, hpriced, rfl⟩ := List.mem_map.1 ho
  obtain ⟨kind', -, heq⟩ := List.mem_map.1 hpriced
  cases heq
  exact ⟨rfl, rfl, rfl⟩

/-- There is an offering in each zone for each capacity type that is asked for and sold. -/
theorem pairs_of_resolve (h : t.resolve prices zones inventory = .ok offerings) :
    offerings.map (fun o => (o.zone, o.capacityType)) = zones.toList ×ˢ t.kinds := by
  obtain ⟨wanted, hwanted, h⟩ := exists_of_bind_eq_ok h
  dsimp only at h
  rw [kinds_eq hwanted] at h
  cases h
  simp only [List.map_flatMap, List.map_map]
  rfl

/-- The offerings that are given. -/
theorem resolved_of_resolve (h : t.resolve prices zones inventory = .ok offerings) :
    t.Resolved prices zones inventory offerings where
  pairs := pairs_of_resolve h
  named o ho := (eq_of_mem_resolve h ho).1
  priced o ho := by
    rw [(eq_of_mem_resolve h ho).2.1]
    cases o.capacityType <;> rfl
  reported o ho := (eq_of_mem_resolve h ho).2.2
  available o ho := available_iff_of_mem_resolve h ho

theorem mem_kinds_iff {kind : CapacityType} : kind ∈ t.kinds ↔
    kind.label ∈ t.wantedLabels ∧ (kind = .onDemand ∨ t.platformDiscountable = true) := by
  cases kind <;> simp [kinds]

theorem Resolved.exists_iff (h : t.Resolved prices zones inventory offerings) {zone : Zone}
    {kind : CapacityType} : (∃ o ∈ offerings, o.zone = zone ∧ o.capacityType = kind) ↔
      zone ∈ zones.toList ∧ kind ∈ t.kinds := by
  rw [← List.pair_mem_product, show zones.toList.product t.kinds = _ from h.pairs.symm,
    List.mem_map]
  simp only [Prod.mk.injEq]

theorem mem_wantedLabels_ofShape {s : Shape} {p : Platform} {c : NodeClass} {kind : CapacityType} :
    kind.label ∈ (ofShape s p c).wantedLabels ↔ kind ∈ capacityTypes p c := by
  have hlabels : (ofShape s p c).requirements.get? Label.capacityType =
      some (.ofList ((capacityTypes p c).map CapacityType.label)) :=
    get?_requirements_ofShape (by simp [labels])
  rw [wantedLabels, hlabels, Option.elim_some, SortedSet.mem_ofList,
    List.mem_map_of_injective CapacityType.label_injective]

/-- A shape is offered at a discount if both the class and the platform are for it. -/
theorem spot_mem_kinds_ofShape {s : Shape} {p : Platform} {c : NodeClass} :
    .spot ∈ (ofShape s p c).kinds ↔ c.discountable = true ∧ p.discountable = true := by
  rw [mem_kinds_iff, mem_wantedLabels_ofShape, capacityTypes]
  change _ ∧ (_ ∨ p.discountable = true) ↔ _
  split
  next hboth =>
    have hboth : c.discountable = true ∧ p.discountable = true := by simpa using hboth
    simp [hboth]
  next hnot =>
    refine iff_of_false (fun h => ?_) (fun h => hnot (by simp [h]))
    exact nomatch List.mem_singleton.1 h.1

end InstanceType

/-! ### Offerings for a class -/

/-- The offerings of an instance type of a platform, for a node class. -/
structure InstanceType.SoldTo (t : InstanceType) (m : Market) (c : NodeClass) (p : Platform) :
    Prop where
  /-- They are those that the instance type resolves to. -/
  resolved : t.Resolved m.prices m.zones (.ofSubnets c.subnets) t.offerings
  /-- Every zone has a discounted one if both the class and the platform are for it. -/
  spot : ∀ zone ∈ m.zones.toList, (∃ o ∈ t.offerings, o.zone = zone ∧ o.capacityType = .spot) ↔
    c.discountable = true ∧ p.discountable = true
  /-- One is available if it has a price, the class has a subnet in its zone, and the counts that
  the subnets of the zone report, if they report any, do not come to zero. -/
  available : ∀ o ∈ t.offerings, o.available = true ↔ o.price.isSome = true ∧
    (∃ s ∈ c.subnets, s.zone = o.zone) ∧
      (ZoneInventory.reported o.zone c.subnets ≠ [] →
        ((ZoneInventory.reported o.zone c.subnets).map UInt64.toNat).sum ≠ 0)

namespace Market

variable {m : Market} {c : NodeClass} {s : Shape} {p : Platform} {t : InstanceType}

theorem soldTo_of_build (h : m.build s p c (.ofSubnets c.subnets) = .ok t) : t.SoldTo m c p := by
  obtain ⟨offerings, hresolve, h⟩ := exists_of_bind_eq_ok h
  cases h
  have hresolved := InstanceType.resolved_of_resolve hresolve
  constructor
  case resolved =>
    exact ⟨hresolved.pairs, hresolved.named, hresolved.priced, hresolved.reported,
      hresolved.available⟩
  case spot =>
    intro zone hzone
    change (∃ o ∈ offerings, _) ↔ _
    rw [hresolved.exists_iff, InstanceType.spot_mem_kinds_ofShape]
    exact and_iff_right hzone
  case available =>
    intro o ho
    rw [hresolved.available o ho, InstanceType.allows_zone_ofShape,
      ZoneInventory.headroom?_ofSubnets, ne_eq, ZoneInventory.total?_eq_zero_iff_sum, not_and]

theorem shape_of_build {inventory : ZoneInventory} (h : m.build s p c inventory = .ok t) :
    t.shape = s := by
  obtain ⟨offerings, -, h⟩ := exists_of_bind_eq_ok h
  cases h
  rfl

/-- What is built has an offering at the full price in every zone. -/
theorem exists_onDemand_of_build {s : Shape} {p : Platform} {t : InstanceType}
    (h : m.build s p c (.ofSubnets c.subnets) = .ok t) {zone : Zone}
    (hzone : zone ∈ m.zones.toList) :
    ∃ o ∈ t.offerings, o.zone = zone ∧ o.capacityType = .onDemand := by
  refine (soldTo_of_build h).resolved.exists_iff.2
    ⟨hzone, InstanceType.mem_kinds_iff.2 ⟨?_, .inl rfl⟩⟩
  obtain ⟨offerings, -, h⟩ := exists_of_bind_eq_ok h
  cases h
  refine InstanceType.mem_wantedLabels_ofShape.2 ?_
  rw [InstanceType.capacityTypes]
  split <;> exact List.mem_cons_self

/-- What is listed for a class is sold to it. -/
theorem soldTo_of_mem_list {types : List InstanceType} (h : m.list c = .ok types) (ht : t ∈ types) :
    ∃ p ∈ m.catalog.platforms, t.shape ∈ p.shapes.toList ∧ t.SoldTo m c p := by
  obtain ⟨p, hp, s, hs, -, hbuild⟩ := exists_build_of_mem_list h ht
  exact ⟨p, hp, (shape_of_build hbuild).symm ▸ hs, soldTo_of_build hbuild⟩

/-- What a name leads to is sold to the class. -/
theorem soldTo_of_get {name : String} (h : m.get c name = .ok t) :
    ∃ p, m.catalog.platform? t.shape.platform = some p ∧ t.SoldTo m c p := by
  unfold get at h
  split at h
  next => cases h
  next s _ =>
    split at h
    next => cases h
    next p hp => exact ⟨p, (shape_of_build h).symm ▸ hp, soldTo_of_build h⟩

/-- A name that leads to nothing is not that of a shape on sale. -/
theorem exists_catalog_of_get {name : String} {e : OfferingError} (h : m.get c name = .error e) :
    ∃ cause, e = .catalog cause := by
  unfold get at h
  split at h
  next cause _ => exact ⟨cause, (Except.error.inj h).symm⟩
  next s _ =>
    split at h
    next => exact ⟨_, (Except.error.inj h).symm⟩
    next p _ =>
      obtain ⟨t, ht⟩ := exists_build m c s p (.ofSubnets c.subnets)
      cases h.symm.trans ht

end Market

/-- Offerings are complete and exact.  They are refused where a capacity type is asked for that
nobody sells, and the least of these is told; otherwise there is one in each zone for each capacity
type that is asked for and sold, at its price.  For a node class they are never refused. -/
theorem offerings_exact :
    (∀ (t : InstanceType) (prices : PriceList) (zones : SortedSet Zone) (inventory : ZoneInventory),
      ((∃ e, t.resolve prices zones inventory = .error e) ↔
        ∃ value ∈ t.wantedLabels, CapacityType.Unknown value) ∧
      (∀ e, t.resolve prices zones inventory = .error e ↔
        ∃ value, e = .unknownCapacityType value ∧ t.LeastUnknown value) ∧
      ∀ offerings, t.resolve prices zones inventory = .ok offerings →
        t.Resolved prices zones inventory offerings) ∧
    ∀ (m : Market) (c : NodeClass),
      (∃ types, m.list c = .ok types ∧ ∀ t ∈ types,
        ∃ p ∈ m.catalog.platforms, t.shape ∈ p.shapes.toList ∧ t.SoldTo m c p) ∧
      ∀ name, (∀ e, m.get c name = .error e → ∃ cause, e = .catalog cause) ∧
        ∀ t, m.get c name = .ok t →
          ∃ p, m.catalog.platform? t.shape.platform = some p ∧ t.SoldTo m c p := by
  constructor
  · intro t prices zones inventory
    exact ⟨InstanceType.exists_resolve_eq_error_iff, fun e => InstanceType.resolve_eq_error_iff,
      fun offerings => InstanceType.resolved_of_resolve⟩
  · intro m c
    obtain ⟨types, htypes⟩ := Market.exists_list m c
    exact ⟨⟨types, htypes, fun t ht => Market.soldTo_of_mem_list htypes ht⟩, fun name =>
      ⟨fun e => Market.exists_catalog_of_get, fun t => Market.soldTo_of_get⟩⟩

/-- A class with two full subnets in a zone and one in another zone that does not tell. -/
def NodeClass.partlyFull : NodeClass :=
  { NodeClass.named "class" with
    discountable := true
    subnets := [⟨"subnet-1", "ru-central1-a", some 0⟩, ⟨"subnet-2", "ru-central1-b", none⟩,
      ⟨"subnet-3", "ru-central1-a", some 0⟩] }

/-- An instance type that asks for two capacity types that nobody sells. -/
def InstanceType.misnamed : InstanceType :=
  { ofShape ⟨"standard-v3", .full, 2, 4096⟩ ⟨"standard-v3", [], true⟩ .partlyFull with
    requirements :=
      .ofList [(Label.capacityType, ⟨["burst", "on-demand", "reserved", "spot"], by decide⟩)] }

theorem wantedLabels_misnamed :
    InstanceType.misnamed.wantedLabels = ["burst", "on-demand", "reserved", "spot"] := by decide

/-- In a zone whose subnets are full there are offerings, discounted ones too, but none of them is
available; and of two capacity types that nobody sells the least is told. -/
theorem offerings_exact_of_partlyFull :
    (∃ t p, Region.market.get .partlyFull "standard-v3_2_4Gi_100" = .ok t ∧
      t.SoldTo Region.market .partlyFull p ∧
      (∃ o ∈ t.offerings, o.zone = "ru-central1-a" ∧ o.capacityType = .spot) ∧
      ∀ o ∈ t.offerings, o.zone = "ru-central1-a" → o.available = false) ∧
    InstanceType.misnamed.resolve Region.market.prices Region.market.zones .empty =
      .error (.unknownCapacityType "burst") := by
  obtain ⟨-, hrefusals, -⟩ :=
    offerings_exact.1 .misnamed Region.market.prices Region.market.zones .empty
  have hleast : InstanceType.misnamed.LeastUnknown "burst" := by
    have hle : ∀ other ∈ InstanceType.misnamed.wantedLabels, "burst" ≤ other := by
      rw [wantedLabels_misnamed]
      decide
    refine ⟨by rw [wantedLabels_misnamed]; decide, ?_, fun other hother _ => hle other hother⟩
    intro kind
    cases kind <;> decide
  refine ⟨?_, (hrefusals _).2 ⟨"burst", rfl, hleast⟩⟩
  have hparse : Shape.parse "standard-v3_2_4Gi_100" = .ok ⟨"standard-v3", .full, 2, 4096⟩ := by
    decide
  obtain ⟨p, hp, hoffers, hdiscountable⟩ : ∃ p,
      Region.market.catalog.platform? "standard-v3" = some p ∧
        p.tiers.any (·.offers ⟨"standard-v3", .full, 2, 4096⟩) = true ∧ p.discountable = true :=
    ⟨_, rfl, by decide, rfl⟩
  obtain ⟨t, hbuild⟩ := Market.exists_build Region.market .partlyFull
    ⟨"standard-v3", .full, 2, 4096⟩ p (.ofSubnets NodeClass.partlyFull.subnets)
  have hget := (Market.get_eq_ok_iff hparse).2 ⟨p, hp, hoffers, hbuild⟩
  obtain ⟨p', hp', hsold⟩ := ((offerings_exact.2 Region.market .partlyFull).2 _).2 t hget
  rw [Market.shape_of_build hbuild] at hp'
  obtain rfl : p = p' := Option.some.inj (hp.symm.trans hp')
  have hzone : "ru-central1-a" ∈ Region.market.zones.toList :=
    SortedSet.mem_ofList.2 (by simp [Region.zones])
  refine ⟨t, p, hget, hsold, (hsold.spot _ hzone).2 ⟨rfl, hdiscountable⟩, fun o ho hzone => ?_⟩
  rw [Bool.eq_false_iff, ne_eq, hsold.available o ho, hzone]
  rintro ⟨-, -, hsum⟩
  exact hsum (by decide) (by decide)

end NodeSupply
