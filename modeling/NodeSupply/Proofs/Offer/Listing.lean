import NodeSupply.Price.Region
import NodeSupply.Proofs.Offer.Selection
import NodeSupply.Proofs.Shape.Catalog

/-!
# What is listed and what a name leads to

A market lists what a node class can choose from, and looks up what is sold under a name.  A listing
has what each allowed shape of each platform is built to, and the name of a shape on sale leads to
what that shape is built to.

## Main definitions

* `InstanceType.listOrder` : how instance types are compared to list them.
* `Region.market` : what the region sells.

## Main statements

* `Market.exists_build` : every shape can be offered.
* `Market.exists_list_of_regular` : a listing over a regular catalog is strictly ordered.
* `Market.get_name`, `Market.get_eq_ok_iff` : what a name leads to.
-/

namespace NodeSupply

/-! ### The order of a listing -/

/-- Compares instance types by their least available price, missing ones last, and then by name. -/
def InstanceType.listOrder (t u : InstanceType) : Ordering :=
  (comparePrices (t.cheapest? fun _ => true) (u.cheapest? fun _ => true)).then
    (compare t.name u.name)

/-- Prices are compared by whether they are missing and then by their rank. -/
theorem comparePrices_eq : comparePrices =
    compareLex (compareOn Option.isNone) (compareOn fun p => p.elim 0 Binary64.rank) := by
  funext a b
  cases a <;> cases b <;> rfl

instance : Std.TransCmp InstanceType.listOrder := by
  have hlex : InstanceType.listOrder =
      compareLex (compareOn fun t => (t.cheapest? fun _ => true).isNone)
        (compareLex (compareOn fun t => (t.cheapest? fun _ => true).elim 0 Binary64.rank)
          (compareOn InstanceType.name)) := by
    funext t u
    simp only [InstanceType.listOrder, comparePrices_eq, compareLex, compareOn, Ordering.then_assoc]
  rw [hlex]
  infer_instance

namespace Market

theorem sortTypes_eq (types : List InstanceType) :
    sortTypes types = types.mergeSort fun t u => (t.listOrder u).isLE := by
  have hmap := List.map_mergeSort (f := fun t : InstanceType => (t.cheapest? fun _ => true, t))
    (r := fun t u => (t.listOrder u).isLE) (s := before) (l := types) fun _ _ _ _ => rfl
  rw [sortTypes, ← hmap, List.map_map]
  exact List.map_id _

/-- Instance types of distinct names are strictly ordered in a listing. -/
theorem pairwise_sortTypes {types : List InstanceType} (distinct : (types.map (·.name)).Nodup) :
    (sortTypes types).Pairwise fun t u => t.listOrder u = .lt := by
  have hsorted : (sortTypes types).Pairwise fun t u => (t.listOrder u).isLE = true := by
    rw [sortTypes_eq]
    refine List.pairwise_mergeSort (fun _ _ _ => Std.TransCmp.isLE_trans) (fun t u => ?_) types
    have hswap : u.listOrder t = (t.listOrder u).swap := Std.OrientedCmp.eq_swap
    cases h : t.listOrder u <;> simp [hswap, h]
  have hdistinct : (sortTypes types).Pairwise fun t u => t.name ≠ u.name :=
    List.pairwise_map.1 (((sortTypes_perm types).map _).nodup_iff.2 distinct)
  refine (hsorted.and hdistinct).imp fun {t u} h => ?_
  have hne : t.listOrder u ≠ .eq := fun heq =>
    h.2 (Std.LawfulEqOrd.eq_of_compare (Ordering.then_eq_eq.1 heq).2)
  exact (Ordering.isLE_iff_eq_lt_or_eq_eq.1 h.1).resolve_right hne

/-! ### What is built -/

/-- The capacity types that a class may buy are all known. -/
theorem exists_wantedCapacityTypes (s : Shape) (p : Platform) (c : NodeClass) :
    ∃ kinds, (InstanceType.ofShape s p c).wantedCapacityTypes = .ok kinds := by
  rw [InstanceType.wantedCapacityTypes_ofShape]
  refine exists_mapM_eq_ok fun label hlabel => ?_
  obtain ⟨kind, -, rfl⟩ := List.mem_map.1 (SortedSet.mem_ofList.1 hlabel)
  exact ⟨kind, by cases kind <;> rfl⟩

/-- Every shape can be offered. -/
theorem exists_build (m : Market) (c : NodeClass) (s : Shape) (p : Platform)
    (inventory : ZoneInventory) : ∃ t, m.build s p c inventory = .ok t := by
  obtain ⟨kinds, hkinds⟩ := exists_wantedCapacityTypes s p c
  obtain ⟨offerings, hofferings⟩ : ∃ offerings,
      (InstanceType.ofShape s p c).resolve m.prices m.zones inventory = .ok offerings :=
    ⟨_, by rw [InstanceType.resolve, hkinds]; rfl⟩
  exact ⟨_, by simp only [build, hofferings]; rfl⟩

theorem name_of_build {m : Market} {c : NodeClass} {s : Shape} {p : Platform}
    {inventory : ZoneInventory} {t : InstanceType} (h : m.build s p c inventory = .ok t) :
    t.name = s.name := by
  obtain ⟨offerings, -, h⟩ := exists_of_bind_eq_ok h
  cases h
  rfl

section

variable {m : Market} {c : NodeClass} {built : Shape → Platform → InstanceType}

/-- A listing has what each allowed shape of each platform is built to. -/
theorem list_eq (h : ∀ s p, m.build s p c (.ofSubnets c.subnets) = .ok (built s p)) :
    m.list c = .ok (sortTypes (m.catalog.platforms.flatMap fun p =>
      (p.shapes.toList.filter (c.allowsFraction ·.fraction)).map (built · p))) := by
  simp only [list, h, mapM_ok]
  rfl

/-- What the instance types of a listing have from their shapes is had by the shapes on sale. -/
theorem map_flatMap_built {β : Type} {allowed : Shape → Bool} {f : InstanceType → β}
    {g : Shape → β}
    (h : ∀ p ∈ m.catalog.platforms, ∀ s ∈ p.shapes.toList, f (built s p) = g s) :
    (m.catalog.platforms.flatMap fun p =>
      (p.shapes.toList.filter allowed).map (built · p)).map f =
        ((m.catalog.platforms.flatMap (·.shapes.toList)).filter allowed).map g := by
  rw [List.filter_flatMap, List.map_flatMap, List.map_flatMap]
  refine List.flatMap_congr fun p hp => ?_
  rw [List.map_map]
  exact List.map_congr_left fun s hs => h p hp s (List.mem_filter.1 hs).1

/-- A listing over a regular catalog is strictly ordered. -/
theorem exists_list_of_regular (regular : m.catalog.Regular) (c : NodeClass) :
    ∃ types, m.list c = .ok types ∧ types.Pairwise fun t u => t.listOrder u = .lt := by
  choose built hbuilt using fun s p => exists_build m c s p (.ofSubnets c.subnets)
  refine ⟨_, list_eq hbuilt, pairwise_sortTypes ?_⟩
  rw [map_flatMap_built fun p _ s _ => name_of_build (hbuilt s p)]
  exact (regular.nodup_flatMap_shapes.filter _).map Shape.name_injective

/-- What an allowed shape of a platform is built to is listed. -/
theorem mem_list_of_build {types : List InstanceType} (h : m.list c = .ok types) {p : Platform}
    (hp : p ∈ m.catalog.platforms) {s : Shape} (hs : s ∈ p.shapes.toList)
    (allowed : c.allowsFraction s.fraction = true) {t : InstanceType}
    (build : m.build s p c (.ofSubnets c.subnets) = .ok t) : t ∈ types := by
  choose built hbuilt using fun s p => exists_build m c s p (.ofSubnets c.subnets)
  obtain rfl : sortTypes _ = types := Except.ok.inj ((list_eq hbuilt).symm.trans h)
  obtain rfl : built s p = t := Except.ok.inj ((hbuilt s p).symm.trans build)
  refine (sortTypes_perm _).mem_iff.2 (List.mem_flatMap.2 ⟨p, hp, ?_⟩)
  exact List.mem_map_of_mem (f := (built · p)) (List.mem_filter.2 ⟨hs, allowed⟩)

end

/-! ### What a name leads to -/

/-- The name of a shape on sale leads to what its shape is built to. -/
theorem get_name {m : Market} {c : NodeClass} (regular : m.catalog.Regular) {p : Platform}
    (hp : p ∈ m.catalog.platforms) {s : Shape} (hs : s ∈ p.shapes.toList) :
    m.get c s.name = m.build s p c (.ofSubnets c.subnets) := by
  unfold get
  rw [regular.byName_name hp hs]
  simp only [(Platform.mem_shapes_iff.1 hs).1, regular.platform?_name hp]

/-- What a name of a shape leads to, where it leads to anything. -/
theorem get_eq_ok_iff {m : Market} {c : NodeClass} {name : String} {s : Shape} {t : InstanceType}
    (h : Shape.parse name = .ok s) : m.get c name = .ok t ↔
      ∃ p, m.catalog.platform? s.platform = some p ∧ p.tiers.any (·.offers s) = true ∧
        m.build s p c (.ofSubnets c.subnets) = .ok t := by
  unfold get Catalog.byName
  rw [h]
  cases hp : m.catalog.platform? s.platform with
  | none =>
    simp only [hp]
    exact ⟨nofun, fun ⟨_, h, _⟩ => nomatch h⟩
  | some p =>
    simp only [hp, Option.some.injEq, exists_eq_left']
    cases ho : p.tiers.any (·.offers s) with
    | false => exact ⟨nofun, fun h => nomatch h.1⟩
    | true => simp only [if_true, hp, true_and]

end Market

/-- What the region sells, at its prices. -/
def Region.market : Market := ⟨Region.catalog, Region.prices, .ofList Region.zones⟩

end NodeSupply
