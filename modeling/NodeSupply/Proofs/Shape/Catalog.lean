import NodeSupply.Proofs.Shape.Name
import NodeSupply.Proofs.Sorted
import NodeSupply.Shape.Catalog
import NodeSupply.Shape.Region

/-!
# What a catalog sells

A catalog lists its shapes by going through its platforms, and looks a name up in the first platform
that the name gives.  The two agree where the platforms have distinct names that can stand in the
name of a shape, and where no tier sells zero cores or no memory.

## Main definitions

* `Catalog.Regular` : a catalog with these properties.

## Main statements

* `Platform.mem_shapes_iff` : a platform sells what one of its tiers offers.
* `Catalog.Regular.shapes_perm` : each shape on sale is generated by one platform, once.
* `Catalog.Regular.byName_name` : each shape on sale is found under its name.
* `Region.regular_catalog` : the catalog of the region is regular.
-/

namespace NodeSupply

/-! ### What a platform sells -/

theorem Tier.mem_shapes_iff {tier : Tier} {platform : String} {s : Shape} :
    s ∈ tier.shapes platform ↔ s.platform = platform ∧ tier.offers s = true := by
  simp only [shapes, offers, List.mem_flatMap, List.mem_map, Bool.and_eq_true, beq_iff_eq,
    List.contains_iff_mem, List.any_eq_true]
  constructor
  · rintro ⟨cpu, hcpu, ratio, hratio, rfl⟩
    exact ⟨rfl, ⟨rfl, hcpu⟩, ratio, hratio, rfl⟩
  · rintro ⟨hplatform, ⟨hfraction, hcpu⟩, ratio, hratio, hmemory⟩
    refine ⟨s.cpu, hcpu, ratio, hratio, ?_⟩
    rw [← hplatform, hfraction, hmemory]

/-- A platform sells what one of its tiers offers. -/
theorem Platform.mem_shapes_iff {p : Platform} {s : Shape} :
    s ∈ p.shapes.toList ↔ s.platform = p.name ∧ p.tiers.any (·.offers s) = true := by
  simp only [shapes, SortedSet.mem_ofList, List.mem_flatMap, Tier.mem_shapes_iff, List.any_eq_true]
  constructor
  · rintro ⟨tier, htier, hplatform, hoffers⟩
    exact ⟨hplatform, tier, htier, hoffers⟩
  · rintro ⟨hplatform, tier, htier, hoffers⟩
    exact ⟨tier, htier, hplatform, hoffers⟩

/-- The memory of a shape is exact: its bits hold every product. -/
theorem Tier.toNat_memoryMib (cpu ratio : UInt32) :
    (memoryMib cpu ratio).toNat = cpu.toNat * ratio.toNat := by
  have hproduct : cpu.toNat * ratio.toNat < 2 ^ 64 := calc
    cpu.toNat * ratio.toNat < 2 ^ 32 * 2 ^ 32 := Nat.mul_lt_mul'' cpu.toNat_lt ratio.toNat_lt
    _ = 2 ^ 64 := rfl
  rw [memoryMib, UInt64.toNat_mul, UInt32.toNat_toUInt64, UInt32.toNat_toUInt64,
    Nat.mod_eq_of_lt hproduct]

theorem Tier.memoryMib_pos {cpu ratio : UInt32} (hcpu : 0 < cpu) (hratio : 0 < ratio) :
    0 < memoryMib cpu ratio := by
  have hc : 0 < cpu.toNat := UInt32.lt_iff_toNat_lt.1 hcpu
  have hr : 0 < ratio.toNat := UInt32.lt_iff_toNat_lt.1 hratio
  rw [UInt64.lt_iff_toNat_lt, toNat_memoryMib]
  exact Nat.mul_pos hc hr

/-! ### Regular catalogs -/

/-- A tier without zero cores and without zero memory. -/
structure Tier.Positive (tier : Tier) : Prop where
  vcpus : ∀ cpu ∈ tier.vcpus, 0 < cpu
  memory : ∀ ratio ∈ tier.memoryPerCoreMib, 0 < ratio

theorem Tier.all_positive_iff {tier : Tier} :
    tier.vcpus.all (0 < ·) = true ∧ tier.memoryPerCoreMib.all (0 < ·) = true ↔ tier.Positive := by
  simp only [List.all_eq_true, decide_eq_true_eq]
  exact ⟨fun h => ⟨h.1, h.2⟩, fun h => ⟨h.vcpus, h.memory⟩⟩

instance (tier : Tier) : Decidable tier.Positive := decidable_of_iff _ Tier.all_positive_iff

namespace Catalog

/-- A catalog of distinct platforms whose shapes all have a name that can be read back. -/
structure Regular (c : Catalog) : Prop where
  distinct : (c.platforms.map (·.name)).Nodup
  named : ∀ p ∈ c.platforms, p.name ≠ ""
  undivided : ∀ p ∈ c.platforms, '_' ∉ p.name.toList
  positive : ∀ p ∈ c.platforms, ∀ tier ∈ p.tiers, tier.Positive

variable {c : Catalog}

namespace Regular

/-- The platform of a name is the one that has it. -/
theorem platform?_name (regular : c.Regular) {p : Platform} (hp : p ∈ c.platforms) :
    c.platform? p.name = some p := (find?_key_eq_some_iff regular.distinct).2 ⟨hp, rfl⟩

theorem nameable (regular : c.Regular) {p : Platform} (hp : p ∈ c.platforms) {s : Shape}
    (hs : s ∈ p.shapes.toList) : s.Nameable := by
  obtain ⟨hplatform, htiers⟩ := Platform.mem_shapes_iff.1 hs
  obtain ⟨tier, htier, hoffers⟩ := List.any_eq_true.1 htiers
  obtain ⟨hrest, hmemory⟩ := Bool.and_eq_true_iff.1 hoffers
  obtain ⟨ratio, hratio, heq⟩ := List.any_eq_true.1 hmemory
  have hpositive := regular.positive p hp tier htier
  have hcpu : 0 < s.cpu :=
    hpositive.vcpus _ (List.contains_iff_mem.1 (Bool.and_eq_true_iff.1 hrest).2)
  constructor
  · exact hplatform ▸ regular.named p hp
  · exact hplatform ▸ regular.undivided p hp
  · exact hcpu
  · exact beq_iff_eq.1 heq ▸ Tier.memoryMib_pos hcpu (hpositive.memory _ hratio)

/-- Each shape on sale is found under its name. -/
theorem byName_name (regular : c.Regular) {p : Platform} (hp : p ∈ c.platforms) {s : Shape}
    (hs : s ∈ p.shapes.toList) : c.byName s.name = .ok s := by
  obtain ⟨hplatform, htiers⟩ := Platform.mem_shapes_iff.1 hs
  unfold byName
  rw [Shape.parse_name (regular.nameable hp hs)]
  simp only [hplatform, regular.platform?_name hp, htiers, if_true]

/-- The platforms generate each shape once. -/
theorem nodup_flatMap_shapes (regular : c.Regular) :
    (c.platforms.flatMap (·.shapes.toList)).Nodup := by
  refine List.nodup_flatMap.2 ⟨fun p _ => p.shapes.nodup, ?_⟩
  refine (List.pairwise_map.1 regular.distinct).imp fun hne s hs hs' => hne ?_
  exact (Platform.mem_shapes_iff.1 hs).1.symm.trans (Platform.mem_shapes_iff.1 hs').1

/-- The shapes on sale are those that the platforms generate. -/
theorem shapes_perm (regular : c.Regular) :
    (c.platforms.flatMap (·.shapes.toList)).Perm c.shapes.toList :=
  (List.perm_ext_iff_of_nodup regular.nodup_flatMap_shapes c.shapes.nodup).2 fun _ =>
    SortedSet.mem_ofList.symm

end Regular

end Catalog

/-- The catalog of the region is regular. -/
theorem Region.regular_catalog : Region.catalog.Regular where
  distinct := by decide
  named := by decide
  undivided := by decide
  positive := by decide

end NodeSupply
