import NodeSupply.Proofs.Offer.LeastPrice
import NodeSupply.Proofs.Offer.Resolution

/-!
# Listing and lookup

Over a regular catalog a listing has what the names of the allowed shapes lead to, each once, by
least price and then by name.

## Main definitions

* `InstanceType.ListedBefore` : the order of a listing.

## Main statements

* `InstanceType.SoldTo.leastPrice` : the least price under a capacity type.
* `Market.list_agrees_with_get` : a listing is what the names of the allowed shapes lead to.
-/

namespace NodeSupply

/-! ### The order of a listing -/

namespace InstanceType

/-- An instance type comes before another in a listing. -/
inductive ListedBefore (t u : InstanceType) : Prop where
  /-- Its least price is below the other's. -/
  | cheaper {p q : Binary64} (ht : LeastPrice t.offerings p) (hu : LeastPrice u.offerings q)
      (below : p.Below q)
  /-- At the same least price its name comes first. -/
  | named {p : Binary64} (ht : LeastPrice t.offerings p) (hu : LeastPrice u.offerings p)
      (name : t.name < u.name)
  /-- It has a price, and the other has none. -/
  | priced {p : Binary64} (ht : LeastPrice t.offerings p) (hu : Unpriced u.offerings)
  /-- Neither has a price, and its name comes first. -/
  | unpriced (ht : Unpriced t.offerings) (hu : Unpriced u.offerings) (name : t.name < u.name)

variable {t u : InstanceType} {p q : Binary64}

/-- What compares as less is listed before. -/
theorem listedBefore_of_listOrder (h : t.listOrder u = .lt) : t.ListedBefore u := by
  have hsome : ∀ {t : InstanceType} {p : Binary64},
      (t.cheapest? fun _ => true) = some p → LeastPrice t.offerings p := fun {t} _ ht =>
    List.filter_true t.offerings ▸ cheapest?_eq_some_iff.1 ht
  have hnone : ∀ {t : InstanceType},
      (t.cheapest? fun _ => true) = none → Unpriced t.offerings := fun {t} ht =>
    List.filter_true t.offerings ▸ cheapest?_eq_none_iff.1 ht
  unfold listOrder at h
  cases ht : t.cheapest? fun _ => true with
  | some p =>
    cases hu : u.cheapest? fun _ => true with
    | some q =>
      rw [ht, hu, comparePrices, Ordering.then_eq_lt] at h
      rcases h with hbelow | ⟨heq, hname⟩
      · exact .cheaper (hsome ht) (hsome hu) (Binary64.compare_eq_lt_iff.1 hbelow)
      · obtain rfl : p = q := Std.LawfulEqCmp.eq_of_compare heq
        exact .named (hsome ht) (hsome hu) (compare_eq_lt_iff.1 hname)
    | none => exact .priced (hsome ht) (hnone hu)
  | none =>
    cases hu : u.cheapest? fun _ => true with
    | some q =>
      rw [ht, hu] at h
      cases h
    | none =>
      rw [ht, hu] at h
      exact .unpriced (hnone ht) (hnone hu) (compare_eq_lt_iff.1 h)

/-- What is listed before has no higher price. -/
theorem ListedBefore.not_below (h : t.ListedBefore u) (ht : LeastPrice t.offerings p)
    (hu : LeastPrice u.offerings q) : ¬ q.Below p := by
  cases h with
  | cheaper ht' hu' below =>
    obtain rfl := ht.eq ht'
    obtain rfl := hu.eq hu'
    exact below.not_below
  | named ht' hu' =>
    obtain rfl := ht.eq ht'
    obtain rfl := hu.eq hu'
    exact Binary64.not_below_self _
  | priced _ hu' =>
    obtain ⟨o, ho, havailable, hprice⟩ := hu.offered
    cases hprice.symm.trans (hu' o ho havailable)
  | unpriced _ hu' =>
    obtain ⟨o, ho, havailable, hprice⟩ := hu.offered
    cases hprice.symm.trans (hu' o ho havailable)

/-- The least price under a capacity type is the price of that capacity type, as all zones have the
same. -/
theorem SoldTo.leastPrice {m : Market} {c : NodeClass} {platform : Platform}
    (sold : t.SoldTo m c platform) {kind : CapacityType}
    (price : t.priceAs m.prices kind = some p)
    (available : ∃ o ∈ t.offerings, o.available = true ∧ o.capacityType = kind) :
    LeastPrice (t.offerings.filter (·.capacityType == kind)) p := by
  have hprice : ∀ o ∈ t.offerings, o.capacityType = kind → o.price = some p := by
    rintro o ho rfl
    rw [sold.resolved.priced o ho, ← price]
    cases o.capacityType <;> rfl
  obtain ⟨o, ho, havailable, hkind⟩ := available
  refine ⟨⟨o, List.mem_filter.2 ⟨ho, beq_iff_eq.2 hkind⟩, havailable, hprice o ho hkind⟩, ?_⟩
  intro o' ho' _ q hq
  obtain ⟨hmem, hkind'⟩ := List.mem_filter.1 ho'
  obtain rfl : p = q :=
    Option.some.inj ((hprice o' hmem (beq_iff_eq.1 hkind')).symm.trans hq)
  exact p.not_below_self

end InstanceType

/-- Of two members of an ordered list that are not in order the other way round, the first comes
first. -/
theorem pair_sublist_of_pairwise {α : Type} {R : α → α → Prop} {l : List α} (h : l.Pairwise R)
    {a b : α} (ha : a ∈ l) (hb : b ∈ l) (ne : a ≠ b) (not : ¬ R b a) : [a, b].Sublist l := by
  obtain ⟨before, after, rfl⟩ := List.append_of_mem ha
  have hafter : b ∈ after := by
    rcases List.mem_append.1 hb with hbefore | hb
    · exact absurd ((List.pairwise_append.1 h).2.2 b hbefore a List.mem_cons_self) not
    · exact (List.mem_cons.1 hb).resolve_left ne.symm
  exact ((List.singleton_sublist.2 hafter).cons_cons a).trans (List.sublist_append_right before _)

/-! ### Agreement -/

namespace Market

/-- Listing and lookup agree: a listing has what the names of the allowed shapes on sale lead to,
each once, strictly by least price and then by name; and what a name leads to depends only on the
shape that it stands for. -/
theorem list_agrees_with_get {m : Market} (regular : m.catalog.Regular) (c : NodeClass) :
    (∃ types, m.list c = .ok types ∧
      (types.map Except.ok).Perm
        ((m.catalog.shapes.toList.filter (c.allowsFraction ·.fraction)).map fun s =>
          m.get c s.name) ∧
      types.Pairwise InstanceType.ListedBefore) ∧
    ∀ {name name' : String} {s : Shape}, Shape.parse name = .ok s → Shape.parse name' = .ok s →
      ∀ t, m.get c name = .ok t ↔ m.get c name' = .ok t := by
  refine ⟨?_, fun h h' t => by rw [get_eq_ok_iff h, get_eq_ok_iff h']⟩
  obtain ⟨types, htypes, hordered⟩ := exists_list_of_regular regular c
  refine ⟨types, htypes, ?_, hordered.imp InstanceType.listedBefore_of_listOrder⟩
  choose built hbuilt using fun s p => exists_build m c s p (.ofSubnets c.subnets)
  obtain rfl : sortTypes _ = types := Except.ok.inj ((list_eq hbuilt).symm.trans htypes)
  refine ((sortTypes_perm _).map _).trans ?_
  rw [map_flatMap_built (g := fun s => m.get c s.name) fun p hp s hs =>
    (hbuilt s p).symm.trans (get_name regular hp hs).symm]
  exact (regular.shapes_perm.filter _).map _

end Market

namespace Region

/-- A class with a subnet in one zone of the region. -/
def oneSubnet : NodeClass :=
  { NodeClass.named "general" with subnets := [⟨"subnet-1", "ru-central1-a", none⟩] }

/-- The name of a shape leads to an instance type at its full price. -/
theorem exists_get_oneSubnet {p : Platform} {s : Shape} {name : String} {price : Binary64}
    (parsed : Shape.parse name = .ok s) (platform : catalog.platform? s.platform = some p)
    (offers : p.tiers.any (·.offers s) = true) (priced : prices.onDemand? s = some price) :
    ∃ t, market.get oneSubnet name = .ok t ∧ t.name = s.name ∧ LeastPrice t.offerings price := by
  obtain ⟨t, hbuild⟩ := market.exists_build oneSubnet s p (.ofSubnets oneSubnet.subnets)
  have hget := (Market.get_eq_ok_iff parsed).2 ⟨p, platform, offers, hbuild⟩
  have hname : t.name = s.name := Market.name_of_build hbuild
  have hsold : t.SoldTo market oneSubnet p := Market.soldTo_of_build hbuild
  have hprice : t.priceAs market.prices .onDemand = some price := by
    rw [InstanceType.priceAs, Market.shape_of_build hbuild]
    exact priced
  have hzone : "ru-central1-a" ∈ market.zones.toList :=
    SortedSet.mem_ofList.2 (by simp [zones])
  obtain ⟨o, ho, hplace, hkind⟩ := Market.exists_onDemand_of_build hbuild hzone
  have havailable : o.available = true := by
    refine (hsold.available o ho).2 ⟨?_, ⟨_, List.mem_singleton_self _, hplace.symm⟩, ?_⟩
    · rw [hsold.resolved.priced o ho, hkind, Market.shape_of_build hbuild]
      exact Option.isSome_iff_exists.2 ⟨price, priced⟩
    · rw [hplace]
      exact fun hreported => absurd rfl hreported
  -- The class buys nothing at a discount.
  have hfull : ∀ o ∈ t.offerings, (o.capacityType == .onDemand) = true := by
    intro o ho
    have hplace : o.zone ∈ market.zones.toList :=
      (hsold.resolved.exists_iff.1 ⟨o, ho, rfl, rfl⟩).1
    cases hkind : o.capacityType with
    | onDemand => rfl
    | spot => cases ((hsold.spot o.zone hplace).1 ⟨o, ho, rfl, hkind⟩).1
  have hleast := hsold.leastPrice hprice ⟨o, ho, havailable, hkind⟩
  rw [List.filter_eq_self.2 hfull] at hleast
  exact ⟨t, hget, hname, hleast⟩

/-- Of two instance types the one with the lesser price is listed first, though its name comes
last; and memory may be named in MiB as well as in GiB. -/
theorem two_cores_listed_before_ten :
    market.catalog.Regular ∧
    ∃ types t u, market.list oneSubnet = .ok types ∧ [t, u].Sublist types ∧
      market.get oneSubnet "standard-v3_2_4Gi_100" = .ok t ∧
      market.get oneSubnet "standard-v3_2_4096Mi_100" = .ok t ∧
      market.get oneSubnet "standard-v3_10_10Gi_100" = .ok u ∧
      LeastPrice t.offerings ⟨0x400bd21ff2e48e8a⟩ ∧
      LeastPrice u.offerings ⟨0x402cba5e353f7cee⟩ ∧ u.name < t.name := by
  have hgib : Shape.parse "standard-v3_2_4Gi_100" = .ok ⟨"standard-v3", .full, 2, 4096⟩ := by
    decide
  have hmib : Shape.parse "standard-v3_2_4096Mi_100" = .ok ⟨"standard-v3", .full, 2, 4096⟩ := by
    decide
  have hten : Shape.parse "standard-v3_10_10Gi_100" = .ok ⟨"standard-v3", .full, 10, 10240⟩ := by
    decide
  obtain ⟨p, hp, hplatform, htwo, hmore⟩ : ∃ p, catalog.platform? "standard-v3" = some p ∧
      p.name = "standard-v3" ∧ p.tiers.any (·.offers ⟨"standard-v3", .full, 2, 4096⟩) = true ∧
      p.tiers.any (·.offers ⟨"standard-v3", .full, 10, 10240⟩) = true :=
    ⟨_, rfl, rfl, by decide, by decide⟩
  have hcheap : prices.onDemand? ⟨"standard-v3", .full, 2, 4096⟩ = some ⟨0x400bd21ff2e48e8a⟩ := by
    decide +kernel
  have hdear : prices.onDemand? ⟨"standard-v3", .full, 10, 10240⟩ = some ⟨0x402cba5e353f7cee⟩ := by
    decide +kernel
  obtain ⟨t, ht, htname, htprice⟩ := exists_get_oneSubnet hgib hp htwo hcheap
  obtain ⟨u, hu, huname, huprice⟩ := exists_get_oneSubnet hten hp hmore hdear
  obtain ⟨⟨types, htypes, hperm, hordered⟩, hsame⟩ :=
    Market.list_agrees_with_get (m := market) regular_catalog oneSubnet
  have hmem : ∀ {s : Shape} {x : InstanceType}, s.platform = p.name →
      p.tiers.any (·.offers s) = true → market.get oneSubnet s.name = .ok x → x ∈ types := by
    intro s x hplatform hoffers hx
    have hshape : s ∈ market.catalog.shapes.toList :=
      regular_catalog.shapes_perm.mem_iff.1 (List.mem_flatMap.2
        ⟨p, List.mem_of_find?_eq_some hp, Platform.mem_shapes_iff.2 ⟨hplatform, hoffers⟩⟩)
    have hlisted := hperm.mem_iff.2 (List.mem_map.2 ⟨s, List.mem_filter.2 ⟨hshape, rfl⟩, hx⟩)
    obtain ⟨y, hy, heq⟩ := List.mem_map.1 hlisted
    exact Except.ok.inj heq ▸ hy
  have htypes' : t ∈ types ∧ u ∈ types :=
    ⟨hmem hplatform.symm htwo ht, hmem hplatform.symm hmore hu⟩
  have hname : u.name < t.name := by
    rw [htname, huname]
    decide
  have hdearer : ¬ u.ListedBefore t := fun h => h.not_below huprice htprice (by decide)
  refine ⟨regular_catalog, types, t, u, htypes, ?_, ht, (hsame hmib hgib t).2 ht, hu, htprice,
    huprice, hname⟩
  exact pair_sublist_of_pairwise hordered htypes'.1 htypes'.2
    (fun heq => String.lt_irrefl _ (heq ▸ hname)) hdearer

end Region

end NodeSupply
