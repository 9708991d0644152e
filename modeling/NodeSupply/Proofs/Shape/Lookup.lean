import NodeSupply.Proofs.Shape.Catalog

/-!
# Looking a shape up by name

A catalog may list any platforms, also several of one name.  All of them sell, but a name is looked
up at the first platform of the name that it gives.  So the look-up is the inverse of what is on
sale exactly if the first platform of its name sells every shape on sale that a name can stand for.
This holds where no two platforms share a name.

## Main definitions

* `Catalog.FirstSells` : the first platform of its name sells a shape.

## Main statements

* `Catalog.firstSells_of_mem` : where platforms have distinct names, the first sells all.
* `Catalog.byName_cases` : what a look-up comes to.
* `Catalog.byName_inverse_iff` : when the look-up finds all that is on sale.
-/

namespace NodeSupply

namespace Catalog

variable {c : Catalog} {name : String} {s : Shape}

/-- The first platform of its name sells a shape. -/
def FirstSells (c : Catalog) (s : Shape) : Prop :=
  ∃ p, c.platform? s.platform = some p ∧ s ∈ p.shapes.toList

/-- On sale is what some platform sells. -/
theorem mem_shapes_iff : s ∈ c.shapes.toList ↔ ∃ p ∈ c.platforms, s ∈ p.shapes.toList := by
  rw [shapes, SortedSet.mem_ofList, List.mem_flatMap]

theorem FirstSells.mem (h : c.FirstSells s) : s ∈ c.shapes.toList := by
  obtain ⟨p, hp, hs⟩ := h
  exact mem_shapes_iff.2 ⟨p, List.mem_of_find?_eq_some hp, hs⟩

/-- Where platforms have distinct names, the first of its name sells every shape on sale. -/
theorem firstSells_of_mem (distinct : (c.platforms.map (·.name)).Nodup) (h : s ∈ c.shapes.toList) :
    c.FirstSells s := by
  obtain ⟨p, hp, hs⟩ := mem_shapes_iff.1 h
  have hplatform : s.platform = p.name := (Platform.mem_shapes_iff.1 hs).1
  exact ⟨p, (find?_key_eq_some_iff distinct).2 ⟨hp, hplatform.symm⟩, hs⟩

/-! ### What a look-up comes to -/

theorem firstSells_iff {p : Platform} (first : c.platform? s.platform = some p) :
    c.FirstSells s ↔ p.tiers.any (·.offers s) = true := by
  constructor
  · rintro ⟨q, hq, hs⟩
    cases first.symm.trans hq
    exact (Platform.mem_shapes_iff.1 hs).2
  · intro hoffers
    have hname : p.name = s.platform := by
      unfold platform? at first
      simpa using List.find?_some first
    exact ⟨p, first, Platform.mem_shapes_iff.2 ⟨hname.symm, hoffers⟩⟩

/-- Text that is no name is malformed; a shape is found if the first platform of its name sells it,
and is not offered otherwise. -/
theorem byName_cases (c : Catalog) (name : String) :
    (∃ cause, Shape.parse name = .error cause ∧ c.byName name = .error (.malformed cause)) ∨
    ∃ s, Shape.parse name = .ok s ∧
      (c.FirstSells s ∧ c.byName name = .ok s ∨
        ¬ c.FirstSells s ∧ c.byName name = .error (.notOffered name)) := by
  cases hparse : Shape.parse name with
  | error cause => exact .inl ⟨cause, rfl, by rw [byName, hparse]⟩
  | ok s =>
    refine .inr ⟨s, rfl, ?_⟩
    cases hp : c.platform? s.platform with
    | none =>
      refine .inr ⟨?_, by simp only [byName, hparse, hp]⟩
      rintro ⟨p, hfirst, -⟩
      cases hp.symm.trans hfirst
    | some p =>
      by_cases hoffers : p.tiers.any (·.offers s) = true
      · exact .inl ⟨(firstSells_iff hp).2 hoffers,
          by simp only [byName, hparse, hp, if_pos hoffers]⟩
      · exact .inr ⟨mt (firstSells_iff hp).1 hoffers,
          by simp only [byName, hparse, hp, if_neg hoffers]⟩

theorem byName_eq_ok_iff : c.byName name = .ok s ↔ Shape.parse name = .ok s ∧ c.FirstSells s := by
  rcases byName_cases c name with ⟨_, hparse, hname⟩ | ⟨t, hparse, ⟨_, hname⟩ | ⟨_, hname⟩⟩
  all_goals
    rw [hparse, hname]
    grind

theorem byName_eq_malformed_iff {cause : NameError} :
    c.byName name = .error (.malformed cause) ↔ Shape.parse name = .error cause := by
  rcases byName_cases c name with ⟨_, hparse, hname⟩ | ⟨t, hparse, ⟨_, hname⟩ | ⟨_, hname⟩⟩
  all_goals
    rw [hparse, hname]
    grind

theorem byName_eq_notOffered_iff {text : String} :
    c.byName name = .error (.notOffered text) ↔
      text = name ∧ ∃ s, Shape.parse name = .ok s ∧ ¬ c.FirstSells s := by
  rcases byName_cases c name with ⟨_, hparse, hname⟩ | ⟨t, hparse, ⟨_, hname⟩ | ⟨_, hname⟩⟩
  all_goals
    rw [hparse, hname]
    grind

/-- The look-up finds exactly what is on sale, if the first platform of its name sells every shape
on sale that a name can stand for, and only then. -/
theorem forall_byName_eq_ok_iff_mem :
    (∀ name s, c.byName name = .ok s ↔ Shape.parse name = .ok s ∧ s ∈ c.shapes.toList) ↔
      ∀ s ∈ c.shapes.toList, s.Nameable → c.FirstSells s := by
  simp only [byName_eq_ok_iff]
  constructor
  · intro hinverse s hs hnameable
    have hparse := Shape.parse_name hnameable
    exact ((hinverse s.name s).2 ⟨hparse, hs⟩).2
  · intro hfirst name s
    refine and_congr_right fun hparse => ⟨FirstSells.mem, fun hs => ?_⟩
    exact hfirst s hs (Shape.nameable_of_parse hparse)

/-- A name is looked up at the first platform of the name that it gives: the shape that it stands
for is found if that platform sells it, and is not offered otherwise; what is no name is malformed.
So the look-up is the inverse of what is on sale exactly if the first platform of its name sells
every shape on sale that a name can stand for. -/
theorem byName_inverse_iff (c : Catalog) :
    (∀ name s, c.byName name = .ok s ↔ Shape.parse name = .ok s ∧ c.FirstSells s) ∧
    (∀ name cause, c.byName name = .error (.malformed cause) ↔ Shape.parse name = .error cause) ∧
    (∀ name text, c.byName name = .error (.notOffered text) ↔
      text = name ∧ ∃ s, Shape.parse name = .ok s ∧ ¬ c.FirstSells s) ∧
    ((∀ name s, c.byName name = .ok s ↔ Shape.parse name = .ok s ∧ s ∈ c.shapes.toList) ↔
      ∀ s ∈ c.shapes.toList, s.Nameable → c.FirstSells s) :=
  ⟨fun _ _ => byName_eq_ok_iff, fun _ _ => byName_eq_malformed_iff,
    fun _ _ => byName_eq_notOffered_iff, forall_byName_eq_ok_iff_mem⟩

/-- Two platforms of one name, the first with two cores and the second with four. -/
def sharedName : Catalog where
  platforms := [⟨"standard-v3", [⟨.full, [2], [1024]⟩], false⟩,
    ⟨"standard-v3", [⟨.full, [4], [1024]⟩], false⟩]

/-- A shape that only the second platform of its name sells is on sale and is not found. -/
theorem second_platform_not_found :
    Shape.mk "standard-v3" .full 4 4096 ∈ sharedName.shapes.toList ∧
      Shape.parse "standard-v3_4_4Gi_100" = .ok ⟨"standard-v3", .full, 4, 4096⟩ ∧
      sharedName.byName "standard-v3_4_4Gi_100" = .error (.notOffered "standard-v3_4_4Gi_100") ∧
      ¬ ∀ name s, sharedName.byName name = .ok s ↔
        Shape.parse name = .ok s ∧ s ∈ sharedName.shapes.toList := by
  have hmem : Shape.mk "standard-v3" .full 4 4096 ∈ sharedName.shapes.toList :=
    mem_shapes_iff.2 ⟨_, List.mem_cons_of_mem _ List.mem_cons_self,
      Platform.mem_shapes_iff.2 ⟨rfl, by decide⟩⟩
  have hparse : Shape.parse "standard-v3_4_4Gi_100" = .ok ⟨"standard-v3", .full, 4, 4096⟩ := rfl
  have hfirst : ¬ sharedName.FirstSells ⟨"standard-v3", .full, 4, 4096⟩ :=
    mt (firstSells_iff rfl).1 (by decide)
  obtain ⟨-, -, hnotOffered, hinverse⟩ := byName_inverse_iff sharedName
  refine ⟨hmem, hparse, (hnotOffered _ _).2 ⟨rfl, _, hparse, hfirst⟩, fun h => hfirst ?_⟩
  exact hinverse.1 h _ hmem (Shape.nameable_of_parse hparse)

end Catalog

end NodeSupply
