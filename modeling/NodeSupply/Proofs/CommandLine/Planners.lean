import NodeSupply.CommandLine.Report
import NodeSupply.Proofs.Offer.Agreement
import NodeSupply.Proofs.Offer.Choice

/-!
# The catalog and the choice

Two commands look at the same offerings: one prints a line for each instance type, the other one
chooses.  What is chosen is on the first line with enough cores, enough memory and a price.  The
choice is made for nodes with a disk, which the lines do not show; the disk has no part in the
prices and in the order of the lines, and it is always large enough.

## Main definitions

* `Report.Line` : a line of the catalog, with its prices before they are rounded.
* `Report.Line.Shows`, `Report.Line.text` : what a line says of an instance type, and how.
* `Report.Line.Suffices` : a line has enough of everything.
* `Report.choiceText` : what is said of a choice.

## Main statements

* `Market.list_withDisk` : the size of the disk changes nothing but the capacity.
* `Report.catalog_eq` : the catalog is a heading and the lines below it.
* `Report.planners_agree` : what is chosen, read off the lines.
-/

namespace NodeSupply

/-! ### Disks -/

/-- An instance type whose nodes have a disk of another size. -/
def InstanceType.withDisk (t : InstanceType) (gib : UInt64) : InstanceType :=
  let capacity : Resources := { t.capacity with diskGib := gib }
  { t with capacity, reserve := .ofCapacity capacity }

namespace Market

variable {m : Market} {c : NodeClass}

/-- The size of the disk changes nothing but the capacity of an instance type. -/
theorem build_withDisk {s : Shape} {p : Platform} {inventory : ZoneInventory} {t : InstanceType}
    (h : m.build s p c inventory = .ok t) (bytes : UInt64) :
    m.build s p { c with diskSizeBytes := bytes } inventory = .ok (t.withDisk (bytes >>> 30)) := by
  obtain ⟨offerings, hresolve, h⟩ := exists_of_bind_eq_ok h
  cases h
  have hresolve' : (InstanceType.ofShape s p { c with diskSizeBytes := bytes }).resolve m.prices
      m.zones inventory = .ok offerings := hresolve
  rw [build, hresolve']
  rfl

theorem sortTypes_map {f : InstanceType → InstanceType} (named : ∀ t, (f t).name = t.name)
    (offered : ∀ t, (f t).offerings = t.offerings) (types : List InstanceType) :
    sortTypes (types.map f) = (sortTypes types).map f := by
  have horder : ∀ t u, (f t).listOrder (f u) = t.listOrder u := fun t u => by
    simp only [InstanceType.listOrder, InstanceType.cheapest?, named, offered]
  rw [sortTypes_eq, sortTypes_eq]
  exact (List.map_mergeSort fun t _ u _ => congrArg Ordering.isLE (horder t u).symm).symm

/-- The size of the disk changes nothing but the capacities in a listing. -/
theorem list_withDisk (m : Market) (c : NodeClass) (bytes : UInt64) :
    m.list { c with diskSizeBytes := bytes } =
      (m.list c).map (·.map (·.withDisk (bytes >>> 30))) := by
  choose built hbuilt using fun s p => exists_build m c s p (.ofSubnets c.subnets)
  have hbuilt' : ∀ s p, m.build s p { c with diskSizeBytes := bytes } (.ofSubnets c.subnets) =
      .ok ((built s p).withDisk (bytes >>> 30)) := fun s p => build_withDisk (hbuilt s p) bytes
  rw [list_eq hbuilt, list_eq (c := { c with diskSizeBytes := bytes }) hbuilt', Except.map]
  have hmap := sortTypes_map (f := (·.withDisk (bytes >>> 30))) (fun _ => rfl) (fun _ => rfl)
  rw [← hmap, List.map_flatMap]
  simp only [List.map_map]
  rfl

end Market

/-- The memory of a shape on sale is less than the greatest word. -/
theorem Platform.memoryMib_lt {p : Platform} {s : Shape} (h : s ∈ p.shapes.toList) :
    s.memoryMib.toNat < Saturating.greatest := by
  obtain ⟨-, htiers⟩ := Platform.mem_shapes_iff.1 h
  obtain ⟨tier, -, hoffers⟩ := List.any_eq_true.1 htiers
  obtain ⟨ratio, -, heq⟩ := List.any_eq_true.1 (Bool.and_eq_true_iff.1 hoffers).2
  have hcpu : s.cpu.toNat ≤ 2 ^ 32 - 1 := Nat.le_pred_of_lt s.cpu.toNat_lt
  have hratio : ratio.toNat ≤ 2 ^ 32 - 1 := Nat.le_pred_of_lt ratio.toNat_lt
  calc s.memoryMib.toNat
      = s.cpu.toNat * ratio.toNat := by rw [← beq_iff_eq.1 heq, Tier.toNat_memoryMib]
    _ ≤ (2 ^ 32 - 1) * (2 ^ 32 - 1) := Nat.mul_le_mul hcpu hratio
    _ < Saturating.greatest := by decide

/-! ### Demands -/

/-- What asks for one label is met where a label that is constrained may have the value. -/
theorem Requirements.compatible_of_singleton {r : Requirements} {key value : String} :
    r.compatible (.of [(key, [value])]) = true ↔
      ∀ ours, r.get? key = some ours → value ∈ ours.toList := by
  have hget : (Requirements.of [(key, [value])]).get? key = some (.ofList [value]) :=
    get?_of (by simp) List.mem_cons_self
  rw [compatible_iff]
  constructor
  · intro h ours hours
    obtain ⟨v, hv, hmem⟩ := h key ours _ hours hget
    obtain rfl : v = value := List.mem_singleton.1 (SortedSet.mem_ofList.1 hmem)
    exact hv
  · intro h key' ours theirs hours htheirs
    obtain rfl : key' = key := List.mem_singleton.1 (mem_of_get?_of htheirs)
    obtain rfl : .ofList [value] = theirs := Option.some.inj (hget.symm.trans htheirs)
    exact ⟨value, h ours hours, SortedSet.mem_ofList.2 List.mem_cons_self⟩

theorem Requirements.compatible_of_nil (r : Requirements) : r.compatible (.of []) = true :=
  compatible_iff.2 fun _ _ _ _ htheirs => nomatch mem_of_get?_of htheirs

namespace Report

variable {o : OfferOptions} {cpu : UInt32} {memoryGib diskGib : UInt64}

/-- A demand is for an instance type of the platform that was asked for, if one was. -/
theorem compatible_demand {m : Market} {c : NodeClass} {t : InstanceType} (offers : t.Offers m c) :
    t.requirements.compatible (demand cpu memoryGib diskGib o).requirements = ofPlatform o t := by
  rw [Bool.eq_iff_iff]
  unfold demand ofPlatform
  cases o.platform with
  | none => exact iff_of_true t.requirements.compatible_of_nil rfl
  | some platform =>
    simp only [Option.toList_some, List.map_cons, List.map_nil, Option.all_some, beq_iff_eq,
      Requirements.compatible_of_singleton, offers.platform, Option.some.injEq, forall_eq',
      SortedSet.mem_ofList, List.mem_singleton]
    exact eq_comm

/-- A demand is for no offering in particular. -/
theorem offering_compatible_demand (offering : Offering) :
    offering.requirements.compatible (demand cpu memoryGib diskGib o).requirements = true := by
  have hkey : Label.platform ∉ [Label.zone, Label.capacityType] := by decide
  unfold demand
  cases o.platform with
  | none => exact offering.requirements.compatible_of_nil
  | some platform =>
    refine Requirements.compatible_of_singleton.2 fun ours hours => ?_
    exact absurd (Requirements.mem_of_get?_of hours) hkey

/-- The subnets of the class report no counts, so what has a price is available in the zones that
were asked for. -/
theorem available_iff {m : Market} {p : Platform} {t : InstanceType} {offering : Offering}
    (sold : t.SoldTo m (nodeClass o diskGib) p) (mem : offering ∈ t.offerings) :
    offering.available = true ↔
      offering.price.isSome = true ∧ offering.zone ∈ (wantedZones o).toList := by
  have hreported : ZoneInventory.reported offering.zone (nodeClass o diskGib).subnets = [] := by
    refine List.eq_nil_iff_forall_not_mem.2 fun ips hips => ?_
    obtain ⟨s, hs, -, hcount⟩ := ZoneInventory.mem_reported_iff.1 hips
    obtain ⟨zone, -, rfl⟩ := List.mem_map.1 hs
    cases hcount
  rw [sold.available offering mem, hreported]
  simp [nodeClass]

/-! ### Lines -/

/-- A line of the catalog, with its prices before they are rounded. -/
@[ext]
structure Line where
  /-- The name of the instance type. -/
  name : String
  /-- Its cores. -/
  cpu : Nat
  /-- Its memory in MiB. -/
  memoryMib : Nat
  /-- Its least price under each capacity type. -/
  prices : CapacityType → Option Binary64
  /-- The zones in which it is available. -/
  zones : List Zone

/-- A price as it is printed. -/
def priceColumn : Option Binary64 → String
  | none => "-"
  | some price => price.fourPlaces

namespace Line

/-- A line as it is printed. -/
def text (l : Line) : String :=
  l.name ++ "\t" ++ toString l.cpu ++ "\t" ++ toString l.memoryMib ++ "Mi" ++ "\t"
    ++ priceColumn (l.prices .onDemand) ++ "\t" ++ priceColumn (l.prices .spot) ++ "\t"
    ++ (if l.zones = [] then "-" else ",".intercalate l.zones) ++ "\n"

/-- A line says what an instance type is, and where and at which prices it is available. -/
structure Shows (l : Line) (t : InstanceType) : Prop where
  name : l.name = t.name
  cpu : l.cpu = t.shape.cpu.toNat
  memoryMib : l.memoryMib = t.shape.memoryMib.toNat
  prices : ∀ kind p,
    l.prices kind = some p ↔ LeastPrice (t.offerings.filter (·.capacityType == kind)) p
  zones : ∀ zone, zone ∈ l.zones ↔ ∃ o ∈ t.offerings, o.available = true ∧ o.zone = zone
  ascending : l.zones.Pairwise (· < ·)

/-- A line has enough cores, enough memory and a price. -/
structure Suffices (cpu : UInt32) (memoryGib : UInt64) (l : Line) : Prop where
  cpu : cpu.toNat ≤ l.cpu
  memory : memoryGib.toNat * 1024 ≤ l.memoryMib
  priced : ∃ kind price, l.prices kind = some price

/-- The line of an instance type. -/
def ofType (t : InstanceType) : Line where
  name := t.name
  cpu := t.shape.cpu.toNat
  memoryMib := t.shape.memoryMib.toNat
  prices kind := t.cheapest? (·.capacityType == kind)
  zones := (SortedSet.ofList ((t.offerings.filter (·.available)).map (·.zone))).toList

theorem shows_ofType (t : InstanceType) : (ofType t).Shows t where
  name := rfl
  cpu := rfl
  memoryMib := rfl
  prices _ _ := InstanceType.cheapest?_eq_some_iff
  zones zone := by
    simp only [ofType, SortedSet.mem_ofList, List.mem_map, List.mem_filter, and_assoc]
  ascending := (SortedSet.ascending _).imp compare_eq_lt_iff.1

theorem text_ofType (t : InstanceType) : (ofType t).text = catalogRow t := by
  have hprice : ∀ price, priceColumn price = priceText price := fun price => by
    cases price <;> rfl
  have hzones : zonesText t =
      if (ofType t).zones = [] then "-" else ",".intercalate (ofType t).zones := by
    unfold zonesText
    split
    next nowhere => exact (if_pos nowhere).symm
    next somewhere => exact (if_neg somewhere).symm
  have hunit : ∀ before memory : String, before ++ memory ++ "Mi" = before ++ (memory ++ "Mi") :=
    fun _ _ => String.append_assoc
  rw [text, ← hzones, hprice, hprice, hunit]
  rfl

/-- A line has a price if an available offering has one. -/
theorem exists_price_ofType {t : InstanceType} :
    (∃ kind price, (ofType t).prices kind = some price) ↔
      ∃ offering ∈ t.offerings, offering.available = true ∧ ∃ p, offering.price = some p := by
  simp only [ofType, InstanceType.exists_cheapest?_iff, beq_iff_eq]
  constructor
  · rintro ⟨kind, offering, hmem, havailable, -, hprice⟩
    exact ⟨offering, hmem, havailable, hprice⟩
  · rintro ⟨offering, hmem, havailable, hprice⟩
    exact ⟨_, offering, hmem, havailable, rfl, hprice⟩

end Line

/-- The catalog has a heading, and below it the lines of the instance types that were asked for. -/
theorem catalog_eq {types : List InstanceType} (h : (market o).list (nodeClass o 0) = .ok types) :
    catalog o = ⟨String.join ("INSTANCE TYPE\tCPU\tMEMORY\tON-DEMAND\tSPOT\tZONES\n" ::
      ((types.filter (ofPlatform o)).map .ofType).map Line.text), none⟩ := by
  have hheading : row ["INSTANCE TYPE", "CPU", "MEMORY", "ON-DEMAND", "SPOT", "ZONES"] =
      "INSTANCE TYPE\tCPU\tMEMORY\tON-DEMAND\tSPOT\tZONES\n" := by decide
  unfold catalog
  rw [h]
  simp only [List.map_map, Function.comp_def, Line.text_ofType, hheading]

/-! ### What fits -/

/-- Disks of fewer than `2 ^ 34` GiB have a size in bytes. -/
theorem shiftRight_diskSizeBytes (small : diskGib.toNat < 2 ^ 34) :
    Saturating.mul diskGib (UInt64.ofNat gibibyte) >>> 30 = diskGib := by
  have hbytes : (UInt64.ofNat gibibyte).toNat = 2 ^ 30 := rfl
  have hfits : diskGib.toNat * 2 ^ 30 ≤ Saturating.greatest := by
    simp only [Saturating.greatest]
    omega
  have hshift : (30 : UInt64).toNat % 64 = 30 := rfl
  rw [← UInt64.toNat_inj, UInt64.toNat_shiftRight, Saturating.toNat_mul, hbytes,
    Nat.min_eq_left hfits, hshift, Nat.shiftRight_eq_div_pow, Nat.mul_div_cancel _ (by decide)]

/-- The candidates of a choice are those of the catalog, with a disk. -/
theorem list_nodeClass (small : diskGib.toNat < 2 ^ 34) :
    (market o).list (nodeClass o diskGib) =
      ((market o).list (nodeClass o 0)).map (·.map (·.withDisk diskGib)) := by
  have hlist := (market o).list_withDisk (nodeClass o 0)
    (Saturating.mul diskGib (UInt64.ofNat gibibyte))
  rw [shiftRight_diskSizeBytes small] at hlist
  exact hlist

section

variable {types : List InstanceType} {t : InstanceType} {offering : Offering} {p : Binary64}

/-- What fits a demand is an available offering with a price, of an instance type that is on the
lines and has enough of everything. -/
theorem fitting_iff (h : (market o).list (nodeClass o 0) = .ok types) :
    Selection.Fitting (demand cpu memoryGib diskGib o) (types.map (·.withDisk diskGib)) t offering
        p ↔
      ∃ u ∈ types.filter (ofPlatform o), t = u.withDisk diskGib ∧ cpu.toNat ≤ u.shape.cpu.toNat ∧
        memoryGib.toNat * 1024 ≤ u.shape.memoryMib.toNat ∧ offering ∈ u.offerings ∧
          offering.available = true ∧ offering.price = some p := by
  have hmemory : ∀ u ∈ types, (Saturating.mul memoryGib 1024 ≤ u.capacity.memoryMib ↔
      memoryGib.toNat * 1024 ≤ u.shape.memoryMib.toNat) := fun u hu => by
    have hoffers := Market.offers_of_mem_list h hu
    obtain ⟨_, -, hshape, -⟩ := hoffers.generated
    have hword : (1024 : UInt64).toNat = 1024 := rfl
    have hlt := Platform.memoryMib_lt hshape
    rw [hoffers.capacity, UInt64.le_iff_toNat_le, Saturating.toNat_mul, hword]
    dsimp only
    omega
  have hcpu : ∀ u ∈ types, u.capacity.cpu = u.shape.cpu := fun u hu => by
    rw [(Market.offers_of_mem_list h hu).capacity]
  constructor
  · intro hfitting
    obtain ⟨u, hu, rfl⟩ := List.mem_map.1 hfitting.candidate
    have hplatform : ofPlatform o u = true := by
      rw [← compatible_demand (Market.offers_of_mem_list h hu)]
      exact hfitting.typeLabels
    refine ⟨u, List.mem_filter.2 ⟨hu, hplatform⟩, rfl, ?_, (hmemory u hu).1 hfitting.memory,
      hfitting.offering, hfitting.available, hfitting.priced⟩
    rw [← hcpu u hu]
    exact UInt32.le_iff_toNat_le.1 hfitting.cpu
  · rintro ⟨u, hu, rfl, hcores, hmib, hmem, havailable, hprice⟩
    obtain ⟨hu, hplatform⟩ := List.mem_filter.1 hu
    constructor
    case candidate => exact List.mem_map_of_mem hu
    case typeLabels => exact (compatible_demand (Market.offers_of_mem_list h hu)).trans hplatform
    case cpu =>
      rw [← hcpu u hu] at hcores
      exact UInt32.le_iff_toNat_le.2 hcores
    case memory => exact (hmemory u hu).2 hmib
    case disk => exact UInt64.le_refl diskGib
    case offering => exact hmem
    case available => exact havailable
    case priced => exact hprice
    case labels => exact offering_compatible_demand offering

/-- A line suffices if an offering of its instance type fits. -/
theorem suffices_iff (diskGib : UInt64) (h : (market o).list (nodeClass o 0) = .ok types)
    (mem : t ∈ types.filter (ofPlatform o)) : (Line.ofType t).Suffices cpu memoryGib ↔
      ∃ offering p, Selection.Fitting (demand cpu memoryGib diskGib o)
        (types.map (·.withDisk diskGib)) (t.withDisk diskGib) offering p := by
  simp only [fitting_iff h]
  constructor
  · intro hsuffices
    obtain ⟨offering, hmem, havailable, p, hprice⟩ := Line.exists_price_ofType.1 hsuffices.priced
    exact ⟨offering, p, t, mem, rfl, hsuffices.cpu, hsuffices.memory, hmem, havailable, hprice⟩
  · rintro ⟨offering, p, u, -, heq, hcpu, hmib, hmem, havailable, hprice⟩
    have hshape : u.shape = t.shape := (congrArg (·.shape) heq).symm
    have hofferings : u.offerings = t.offerings := (congrArg (·.offerings) heq).symm
    rw [hshape] at hcpu hmib
    rw [hofferings] at hmem
    exact ⟨hcpu, hmib, Line.exists_price_ofType.2 ⟨offering, hmem, havailable, p, hprice⟩⟩

/-- The best price is the least of the instance type that is chosen, under any capacity type that
its offering may have. -/
theorem cheapest?_of_best {rule : TieBreak} {x : Selection} {accept : Offering → Bool}
    (h : (market o).list (nodeClass o 0) = .ok types)
    (mem : t ∈ types.filter (ofPlatform o)) (chosen : x.instanceType = t.withDisk diskGib)
    (best : Selection.Best rule (types.map (·.withDisk diskGib)) (demand cpu memoryGib diskGib o) x
      p) (accepted : accept x.offering = true) : t.cheapest? accept = some p := by
  obtain ⟨u, -, heq, hcpu, hmib, -⟩ := (fitting_iff h).1 best.fitting
  have hshape : u.shape = t.shape := congrArg (·.shape) (heq.symm.trans chosen)
  rw [hshape] at hcpu hmib
  have hmem : x.offering ∈ t.offerings := by
    have hoffering := best.fitting.offering
    rw [chosen] at hoffering
    exact hoffering
  refine InstanceType.cheapest?_eq_some_iff.2
    ⟨⟨x.offering, List.mem_filter.2 ⟨hmem, accepted⟩, best.fitting.available,
      best.fitting.priced⟩, fun offering hoffering havailable q hq => ?_⟩
  have hoffering := (List.mem_filter.1 hoffering).1
  exact Binary64.isLE_compare_iff_not_below.1 (best.cheapest (t.withDisk diskGib) offering q
    ((fitting_iff h).2 ⟨t, mem, rfl, hcpu, hmib, hoffering, havailable, hq⟩))

/-- What is chosen is of the first instance type on the lines that suffices. -/
theorem instanceType_of_best {rule : TieBreak} {x : Selection} {before after : List InstanceType}
    (h : (market o).list (nodeClass o 0) = .ok types)
    (split : types.filter (ofPlatform o) = before ++ t :: after)
    (first : ∀ u ∈ before, ¬ (Line.ofType u).Suffices cpu memoryGib)
    (enough : (Line.ofType t).Suffices cpu memoryGib)
    (best : Selection.Best rule (types.map (·.withDisk diskGib)) (demand cpu memoryGib diskGib o) x
      p) : x.instanceType = t.withDisk diskGib := by
  obtain ⟨types', h', hordered⟩ := Market.exists_list_of_regular (m := market o)
    Region.regular_catalog (nodeClass o 0)
  obtain rfl : types' = types := Except.ok.inj (h'.symm.trans h)
  have ht : t ∈ types'.filter (ofPlatform o) := by simp [split]
  obtain ⟨u, hu, hx, hfits⟩ := (fitting_iff h).1 best.fitting
  have hplaces : u ∈ before ++ t :: after := split ▸ hu
  rcases List.mem_append.1 hplaces with hbefore | hplaces
  · -- An instance type further up would suffice as well.
    have hfitting := best.fitting
    rw [hx] at hfitting
    exact absurd ((suffices_iff diskGib h hu).2 ⟨x.offering, p, hfitting⟩) (first u hbefore)
  rcases List.mem_cons.1 hplaces with rfl | hafter
  · exact hx
  -- An instance type further down is dearer, or has a greater name at the same price.
  have hlt : t.listOrder u = .lt := by
    have hrows := hordered.filter (ofPlatform o)
    rw [split] at hrows
    exact (List.pairwise_cons.1 (List.pairwise_append.1 hrows).2.1).1 u hafter
  have hcheapest : u.cheapest? (fun _ => true) = some p := cheapest?_of_best h hu hx best rfl
  obtain ⟨offering, q, hfitting⟩ := (suffices_iff diskGib h ht).1 enough
  obtain ⟨least, hleast⟩ := (t.exists_cheapest?_iff fun _ => true).2
    ⟨offering, hfitting.offering, hfitting.available, rfl, q, hfitting.priced⟩
  obtain ⟨cheap, hcheap, havailable, hprice⟩ :=
    (InstanceType.cheapest?_eq_some_iff.1 hleast).offered
  have hfitting : Selection.Fitting (demand cpu memoryGib diskGib o)
      (types'.map (·.withDisk diskGib)) (t.withDisk diskGib) cheap least :=
    { hfitting with offering := (List.mem_filter.1 hcheap).1, available := havailable,
                    priced := hprice, labels := offering_compatible_demand cheap }
  have hle : (p.compare least).isLE = true := best.cheapest _ _ _ hfitting
  simp only [InstanceType.listOrder, hleast, hcheapest, comparePrices, Ordering.then_eq_lt] at hlt
  rcases hlt with hlt | ⟨heq, hname⟩
  · rw [Std.OrientedCmp.gt_of_lt hlt] at hle
    cases hle
  · obtain rfl : least = p := Std.LawfulEqCmp.eq_of_compare heq
    have hname' := isLE_compare_iff.2 (best.first _ _ hfitting)
    rw [hx] at hname'
    have hgt : compare (u.withDisk diskGib).name (t.withDisk diskGib).name = .gt :=
      Std.OrientedCmp.gt_of_lt hname
    rw [hgt] at hname'
    cases hname'

end

/-! ### The choice -/

/-- What is said of a choice. -/
def choiceText (name : String) (zone : Zone) (kind : CapacityType) (price : Binary64) : String :=
  "instance_type: " ++ name ++ "\n"
    ++ "zone: " ++ zone ++ "\n"
    ++ "capacity_type: " ++ (if kind = .spot then "spot" else "on-demand") ++ "\n"
    ++ "price: " ++ price.fourPlaces ++ "\n"

section

variable {types : List InstanceType} {rule : TieBreak}

theorem select_eq_failed {e : SelectionError} (small : diskGib.toNat < 2 ^ 34)
    (h : (market o).list (nodeClass o 0) = .ok types)
    (refused : Selection.select rule (types.map (·.withDisk diskGib))
      (demand cpu memoryGib diskGib o) = .error e) :
    select rule cpu memoryGib diskGib o = failed (.selection e) := by
  rw [select, list_nodeClass small, h]
  simp only [Except.map, refused]

theorem select_eq_chosen {x : Selection} {price : Binary64} (small : diskGib.toNat < 2 ^ 34)
    (h : (market o).list (nodeClass o 0) = .ok types)
    (choice : Selection.select rule (types.map (·.withDisk diskGib))
      (demand cpu memoryGib diskGib o) = .ok x) (priced : x.offering.price = some price) :
    select rule cpu memoryGib diskGib o = ⟨choiceText x.instanceType.name x.offering.zone
      x.offering.capacityType price, none⟩ := by
  have hlabel : x.offering.capacityType.label =
      if x.offering.capacityType = .spot then "spot" else "on-demand" := by
    cases x.offering.capacityType <;> rfl
  rw [select, list_nodeClass small, h]
  simp only [Except.map, choice]
  rw [priced, hlabel]
  unfold choiceText line priceText
  rw [Option.elim_some]
  simp only [String.append_assoc]

/-- A choice is refused if no line suffices. -/
theorem select_refused_iff (small : diskGib.toNat < 2 ^ 34)
    (h : (market o).list (nodeClass o 0) = .ok types) :
    (∃ candidates, select rule cpu memoryGib diskGib o =
        ⟨"", some (.selection (.noCompatibleOffering candidates))⟩) ↔
      ∀ t ∈ types.filter (ofPlatform o), ¬ (Line.ofType t).Suffices cpu memoryGib := by
  constructor
  · rintro ⟨candidates, hrefused⟩ t ht hsuffices
    obtain ⟨offering, p, hfitting⟩ := (suffices_iff diskGib h ht).1 hsuffices
    obtain ⟨x, q, hx, hbest⟩ := Selection.exists_best rule hfitting
    rw [select_eq_chosen small h hx hbest.fitting.priced] at hrefused
    exact nomatch congrArg Report.error hrefused
  · intro hnone
    have hnothing : ∀ t offering p, ¬ Selection.Fitting (demand cpu memoryGib diskGib o)
        (types.map (·.withDisk diskGib)) t offering p := fun t offering p hfitting => by
      obtain ⟨u, hu, rfl, -⟩ := (fitting_iff h).1 hfitting
      exact hnone u hu ((suffices_iff diskGib h hu).2 ⟨offering, p, hfitting⟩)
    exact ⟨_, select_eq_failed small h (Selection.select_eq_error hnothing)⟩

/-- A choice is read off the first line that suffices. -/
theorem exists_chosen {t : InstanceType} {before after : List InstanceType}
    (small : diskGib.toNat < 2 ^ 34) (h : (market o).list (nodeClass o 0) = .ok types)
    (split : types.filter (ofPlatform o) = before ++ t :: after)
    (first : ∀ u ∈ before, ¬ (Line.ofType u).Suffices cpu memoryGib)
    (enough : (Line.ofType t).Suffices cpu memoryGib) :
    ∃ zone ∈ (Line.ofType t).zones, ∃ kind price, (Line.ofType t).prices kind = some price ∧
      (∀ kind' price', (Line.ofType t).prices kind' = some price' → ¬ price'.Below price) ∧
      (kind = .spot → o.spot = true) ∧
      select rule cpu memoryGib diskGib o = ⟨choiceText t.name zone kind price, none⟩ := by
  have ht : t ∈ types.filter (ofPlatform o) := by simp [split]
  obtain ⟨offering, p, hfitting⟩ := (suffices_iff diskGib h ht).1 enough
  obtain ⟨x, price, hx, hbest⟩ := Selection.exists_best rule hfitting
  have htype : x.instanceType = t.withDisk diskGib :=
    instanceType_of_best h split first enough hbest
  have hmem : x.offering ∈ t.offerings := by
    have hmem := hbest.fitting.offering
    rw [htype] at hmem
    exact hmem
  have hleast : t.cheapest? (fun _ => true) = some price := cheapest?_of_best h ht htype hbest rfl
  have hprice : (Line.ofType t).prices x.offering.capacityType = some price :=
    cheapest?_of_best h ht htype hbest (beq_self_eq_true _)
  have hzone : x.offering.zone ∈ (Line.ofType t).zones :=
    ((Line.shows_ofType t).zones _).2 ⟨x.offering, hmem, hbest.fitting.available, rfl⟩
  refine ⟨x.offering.zone, hzone, x.offering.capacityType, price, hprice,
    fun kind' price' hother => ?_, fun hspot => ?_, ?_⟩
  · obtain ⟨other, hmem', havailable, hprice'⟩ :=
      (((Line.shows_ofType t).prices _ _).1 hother).offered
    exact (InstanceType.cheapest?_eq_some_iff.1 hleast).least other
      (List.mem_filter.2 ⟨(List.mem_filter.1 hmem').1, rfl⟩) havailable price' hprice'
  · obtain ⟨_, -, -, hdiscounted⟩ :=
      (Market.offers_of_mem_list h (List.mem_filter.1 ht).1).generated
    exact (hdiscounted x.offering hmem hspot).1
  · have hname : x.instanceType.name = t.name := congrArg (·.name) htype
    rw [select_eq_chosen small h hx hbest.fitting.priced, hname]

end

/-- The choice is read off the lines of the catalog.  It is refused if no line suffices; otherwise
it is the instance type of the first line that does, in one of the zones of the line and at the
least of its prices, at a discount only where discounts may be bought. -/
theorem planners_agree (o : OfferOptions) (rule : TieBreak) (cpu : UInt32)
    (memoryGib diskGib : UInt64) (small : diskGib.toNat < 2 ^ 34) :
    ∃ (types : List InstanceType) (ls : List Line),
      (market o).list (nodeClass o 0) = .ok types ∧
      List.Forall₂ Line.Shows ls
        (types.filter fun t => o.platform.all (t.shape.platform == ·)) ∧
      catalog o = ⟨String.join ("INSTANCE TYPE\tCPU\tMEMORY\tON-DEMAND\tSPOT\tZONES\n" ::
        ls.map Line.text), none⟩ ∧
      ((∃ candidates, select rule cpu memoryGib diskGib o =
          ⟨"", some (.selection (.noCompatibleOffering candidates))⟩) ↔
        ∀ l ∈ ls, ¬ l.Suffices cpu memoryGib) ∧
      ∀ (before : List Line) (l : Line) (after : List Line), ls = before ++ l :: after →
        (∀ l' ∈ before, ¬ l'.Suffices cpu memoryGib) → l.Suffices cpu memoryGib →
        ∃ zone ∈ l.zones, ∃ kind price, l.prices kind = some price ∧
          (∀ kind' price', l.prices kind' = some price' → ¬ price'.Below price) ∧
          (kind = .spot → o.spot = true) ∧
          select rule cpu memoryGib diskGib o = ⟨choiceText l.name zone kind price, none⟩ := by
  obtain ⟨types, htypes, -⟩ := Market.exists_list_of_regular (m := market o)
    Region.regular_catalog (nodeClass o 0)
  have hshows : List.Forall₂ Line.Shows ((types.filter (ofPlatform o)).map .ofType)
      (types.filter (ofPlatform o)) :=
    List.forall₂_map_left_iff.2 (List.forall₂_same.2 fun t _ => Line.shows_ofType t)
  refine ⟨types, _, htypes, hshows, catalog_eq htypes, ?_, ?_⟩
  · rw [List.forall_mem_map]
    exact select_refused_iff small htypes
  · intro before l after hsplit hfirst henough
    obtain ⟨earlier, rest, hrows, rfl, hrest⟩ := List.map_eq_append_iff.1 hsplit
    obtain ⟨t, later, rfl, rfl, -⟩ := List.map_eq_cons_iff.1 hrest
    exact exists_chosen small htypes hrows
      (fun u hu => hfirst (.ofType u) (List.mem_map_of_mem hu)) henough

/-- One zone, one platform, and discounts. -/
def narrow : OfferOptions := ⟨["ru-central1-a"], true, some "standard-v3"⟩

/-- The greatest shape of the platform. -/
def greatest : Shape := ⟨"standard-v3", .full, 96, 1572864⟩

/-- Its line. -/
def greatestLine : Line where
  name := "standard-v3_96_1536Gi_100"
  cpu := 96
  memoryMib := 1572864
  prices
    | .onDemand => some ⟨0x4081eacd9e83e426⟩
    | .spot => some ⟨0x4062460aa64c2f84⟩
  zones := ["ru-central1-a"]

theorem platform?_of_mem_shapes {p : Platform} (hp : p ∈ Region.catalog.platforms) {s : Shape}
    (hs : s ∈ p.shapes.toList) : Region.catalog.platform? s.platform = some p := by
  rw [(Platform.mem_shapes_iff.1 hs).1]
  exact Region.regular_catalog.platform?_name hp

/-- No other shape of the platform has as many cores and as much memory. -/
theorem eq_greatest {p : Platform} (hp : p ∈ Region.catalog.platforms) {s : Shape}
    (hs : s ∈ p.shapes.toList) (platform : s.platform = "standard-v3") (cpu : 96 ≤ s.cpu.toNat)
    (memory : 1536 * 1024 ≤ s.memoryMib.toNat) : s = greatest := by
  have hfound : Region.catalog.platform? "standard-v3" = some p :=
    platform ▸ platform?_of_mem_shapes hp hs
  have hgreatest : (Region.catalog.platform? "standard-v3").all (fun p => p.tiers.all fun tier =>
      tier.vcpus.all fun cpu => tier.memoryPerCoreMib.all fun ratio =>
        decide (96 ≤ cpu ∧ 1572864 ≤ Tier.memoryMib cpu ratio →
          tier.fraction = .full ∧ cpu = 96 ∧ Tier.memoryMib cpu ratio = 1572864)) = true := by
    decide +kernel
  obtain ⟨tier, htier, hoffers⟩ := List.any_eq_true.1 (Platform.mem_shapes_iff.1 hs).2
  simp only [Tier.offers, Bool.and_eq_true, beq_iff_eq, List.contains_iff_mem,
    List.any_eq_true] at hoffers
  obtain ⟨⟨hfraction, hcpu⟩, ratio, hratio, hmemory⟩ := hoffers
  simp only [hfound, Option.all_some, List.all_eq_true, decide_eq_true_eq] at hgreatest
  obtain ⟨hfull, hmost, hmib⟩ := hgreatest tier htier s.cpu hcpu ratio hratio
    ⟨UInt32.le_iff_toNat_le.2 cpu, hmemory ▸ UInt64.le_iff_toNat_le.2 memory⟩
  rw [hfraction] at hfull
  rw [hmemory] at hmib
  cases s
  simp only [greatest, Shape.mk.injEq]
  exact ⟨platform, hfull, hmost, hmib⟩

/-- An instance type of the greatest shape is on its line. -/
theorem eq_greatestLine {l : Line} {t : InstanceType} {p : Platform} (h : l.Shows t)
    (hp : p ∈ Region.catalog.platforms) (hs : greatest ∈ p.shapes.toList)
    (build : (market narrow).build greatest p (nodeClass narrow 0)
      (.ofSubnets (nodeClass narrow 0).subnets) = .ok t) : l = greatestLine := by
  have hshape : t.shape = greatest := Market.shape_of_build build
  have hname : t.name = greatest.name := Market.name_of_build build
  have hsold : t.SoldTo (market narrow) (nodeClass narrow 0) p := Market.soldTo_of_build build
  have hwanted : ∀ zone, zone ∈ (wantedZones narrow).toList ↔ zone = "ru-central1-a" :=
    fun zone => SortedSet.mem_ofList.trans List.mem_singleton
  have hsale : "ru-central1-a" ∈ (market narrow).zones.toList :=
    SortedSet.mem_ofList.2 (List.mem_append_right _ ((hwanted _).2 rfl))
  have hprice : ∀ kind, t.priceAs (market narrow).prices kind = greatestLine.prices kind := by
    intro kind
    cases kind <;> rw [InstanceType.priceAs, hshape] <;> decide +kernel
  have hoffered : ∀ kind, ∃ offering ∈ t.offerings,
      offering.zone = "ru-central1-a" ∧ offering.capacityType = kind := by
    intro kind
    cases kind with
    | onDemand => exact Market.exists_onDemand_of_build build hsale
    | spot =>
      have hdiscountable :
          (Region.catalog.platform? "standard-v3").all (·.discountable) = true := by decide
      rw [show Region.catalog.platform? "standard-v3" = some p from platform?_of_mem_shapes hp hs]
        at hdiscountable
      exact (hsold.spot _ hsale).2 ⟨rfl, hdiscountable⟩
  have havailable : ∀ offering ∈ t.offerings,
      (offering.available = true ↔ offering.zone = "ru-central1-a") := by
    intro offering hmem
    have hpriced : offering.price.isSome = true := by
      rw [hsold.resolved.priced offering hmem, hshape]
      cases offering.capacityType <;> decide
    rw [available_iff hsold hmem, hwanted]
    exact and_iff_right hpriced
  have hprices : ∀ kind, l.prices kind = greatestLine.prices kind := by
    intro kind
    obtain ⟨p, hp⟩ : ∃ p, greatestLine.prices kind = some p := by
      cases kind <;> exact ⟨_, rfl⟩
    obtain ⟨offering, hmem, hzone, hkind⟩ := hoffered kind
    rw [hp]
    exact (h.prices kind p).2 (hsold.leastPrice ((hprice kind).trans hp)
      ⟨offering, hmem, (havailable offering hmem).2 hzone, hkind⟩)
  have hzones : ∀ zone, zone ∈ l.zones ↔ zone ∈ ["ru-central1-a"] := by
    intro zone
    rw [h.zones, List.mem_singleton]
    constructor
    · rintro ⟨offering, hmem, hbought, rfl⟩
      exact (havailable offering hmem).1 hbought
    · rintro rfl
      obtain ⟨offering, hmem, hzone, -⟩ := hoffered .onDemand
      exact ⟨offering, hmem, (havailable offering hmem).2 hzone, hzone⟩
  have hnodup : l.zones.Nodup :=
    h.ascending.imp fun {a b} (hlt : a < b) (heq : a = b) => String.lt_irrefl _ (heq ▸ hlt)
  ext1
  case name => exact h.name.trans (hname.trans (by decide))
  case cpu => rw [h.cpu, hshape]; rfl
  case memoryMib => rw [h.memoryMib, hshape]; rfl
  case prices => exact funext hprices
  case zones =>
    exact List.perm_singleton.1
      ((List.perm_ext_iff_of_nodup hnodup (List.nodup_singleton _)).2 hzones)

/-- What is in one of two related lists is related to something in the other. -/
theorem exists_of_forall₂ {α β : Type} {R : α → β → Prop} {l : List α} {m : List β}
    (h : List.Forall₂ R l m) : (∀ a ∈ l, ∃ b ∈ m, R a b) ∧ ∀ b ∈ m, ∃ a ∈ l, R a b := by
  induction h with
  | nil => exact ⟨nofun, nofun⟩
  | cons hab _ ih =>
    simp only [List.forall_mem_cons, List.exists_mem_cons_iff]
    exact ⟨⟨.inl hab, fun a ha => .inr (ih.1 a ha)⟩, .inl hab, fun b hb => .inr (ih.2 b hb)⟩

/-- The greatest shape of the platform is on a line of the catalog with both of its prices; and with
the greatest disk that has a size in bytes it is chosen for a demand that no other shape meets, at
the discounted price. -/
theorem planners_agree_of_greatestDisk :
    (17179869183 : UInt64).toNat < 2 ^ 34 ∧
      (∃ above below, catalog narrow =
        ⟨"INSTANCE TYPE\tCPU\tMEMORY\tON-DEMAND\tSPOT\tZONES\n" ++ above ++
          "standard-v3_96_1536Gi_100\t96\t1572864Mi\t573.3504\t146.1888\tru-central1-a\n" ++
            below, none⟩) ∧
      select .lexical 96 1536 17179869183 narrow =
        ⟨"instance_type: standard-v3_96_1536Gi_100\nzone: ru-central1-a\n" ++
          "capacity_type: spot\nprice: 146.1888\n", none⟩ := by
  have hsmall : (17179869183 : UInt64).toNat < 2 ^ 34 := by decide
  obtain ⟨types, ls, htypes, hshows, hcatalog, -, hchosen⟩ :=
    planners_agree narrow .lexical 96 1536 17179869183 hsmall
  have henough : greatestLine.Suffices 96 1536 :=
    ⟨by decide, by decide, .spot, _, rfl⟩
  -- A line that suffices is that of the greatest shape.
  have honly : ∀ l ∈ ls, l.Suffices 96 1536 → l = greatestLine := by
    intro l hl hsuffices
    obtain ⟨t, ht, hline⟩ := (exists_of_forall₂ hshows).1 l hl
    obtain ⟨ht, hplatform⟩ := List.mem_filter.1 ht
    obtain ⟨p, hp, s, hs, -, hbuild⟩ := Market.exists_build_of_mem_list htypes ht
    have hshape : t.shape = s := Market.shape_of_build hbuild
    obtain rfl : s = greatest := by
      have hcpu := hsuffices.cpu
      have hmemory := hsuffices.memory
      rw [hline.cpu, hshape] at hcpu
      rw [hline.memoryMib, hshape] at hmemory
      rw [hshape] at hplatform
      exact eq_greatest hp hs (beq_iff_eq.1 hplatform) hcpu hmemory
    exact eq_greatestLine hline hp hs hbuild
  have hmem : greatestLine ∈ ls := by
    obtain ⟨p, hp, hs⟩ : ∃ p ∈ Region.catalog.platforms, greatest ∈ p.shapes.toList :=
      ⟨_, List.mem_of_find?_eq_some (p := (·.name == "standard-v3")) rfl,
        Platform.mem_shapes_iff.2 ⟨rfl, by decide⟩⟩
    obtain ⟨t, hbuild⟩ := (market narrow).exists_build (nodeClass narrow 0) greatest p
      (.ofSubnets (nodeClass narrow 0).subnets)
    have hlisted : t ∈ types := Market.mem_list_of_build htypes hp hs rfl hbuild
    have hplatform : narrow.platform.all (t.shape.platform == ·) = true := by
      rw [Market.shape_of_build hbuild]
      rfl
    obtain ⟨l, hl, hline⟩ :=
      (exists_of_forall₂ hshows).2 t (List.mem_filter.2 ⟨hlisted, hplatform⟩)
    exact eq_greatestLine hline hp hs hbuild ▸ hl
  obtain ⟨before, after, rfl, hbefore⟩ := List.eq_append_cons_of_mem hmem
  refine ⟨hsmall, ?_, ?_⟩
  · have htext : greatestLine.text =
        "standard-v3_96_1536Gi_100\t96\t1572864Mi\t573.3504\t146.1888\tru-central1-a\n" := by
      decide +kernel
    refine ⟨String.join (before.map Line.text), String.join (after.map Line.text), ?_⟩
    rw [hcatalog, List.map_append, List.map_cons, htext, String.join_cons, String.join_append,
      String.join_cons]
    simp only [String.append_assoc]
  · obtain ⟨zone, hzone, kind, price, hprice, hleast, -, hselect⟩ :=
      hchosen before greatestLine after rfl (fun l hl hsuffices => hbefore
        (honly l (List.mem_append_left _ hl) hsuffices ▸ hl)) henough
    obtain rfl := List.mem_singleton.1 hzone
    cases kind with
    | onDemand =>
      cases hprice
      exact absurd (by decide) (hleast .spot _ rfl)
    | spot =>
      cases hprice
      exact hselect.trans (by decide +kernel)

end Report

end NodeSupply
