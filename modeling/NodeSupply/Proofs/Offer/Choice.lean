import Mathlib
import NodeSupply.Proofs.Offer.LeastPrice
import NodeSupply.Proofs.Offer.Selection

/-!
# The best offering

Of all offerings that fit a demand the cheapest is chosen: of the instance types that have one at
the least price the first by name, and of its offerings at that price one of those in the zones with
the most free addresses.  Only where several are left does the rule of the caller pick.

## Main definitions

* `Selection.Fitting` : an offering of a candidate fits a demand at a price.
* `Selection.tied`, `Selection.left` : the offerings of an instance type at a price, and those of
  them in the roomiest zones.
* `Selection.Best` : a choice is a best one.

## Main statements

* `Selection.Best.eq` : among candidates of distinct names there is one best choice.
* `Selection.exists_best_of_select` : what is chosen is a best choice.
* `Selection.select_optimal` : what is chosen, when nothing is, and that order does not matter.
-/

namespace NodeSupply

/-! ### Headroom -/

/-- An offering reports at least as many free addresses as another.  One that reports none ranks
last. -/
def Offering.roomyAs (o o' : Offering) : Bool :=
  o'.availableIps.all fun fewer => o.availableIps.any (fewer ≤ ·)

/-! ### Ties -/

/-- The first offering with the least zone is in the least zone. -/
theorem TieBreak.exists_lexical {l : List Offering} (ne : l ≠ []) :
    ∃ o, l[lexical l]? = some o ∧ ∀ o' ∈ l, o.zone ≤ o'.zone := by
  induction l with
  | nil => exact absurd rfl ne
  | cons a l ih =>
    rw [lexical]
    by_cases hl : l = []
    · subst hl
      exact ⟨a, rfl, fun o ho => List.mem_singleton.1 ho ▸ String.le_refl _⟩
    obtain ⟨least, hleast, hle⟩ := ih hl
    rw [hleast]
    by_cases ha : (compare a.zone least.zone).isLE = true
    · have hzone : a.zone ≤ least.zone := isLE_compare_iff.1 ha
      refine ⟨a, by simp [ha], List.forall_mem_cons.2 ⟨String.le_refl _, fun o ho => ?_⟩⟩
      exact String.le_trans hzone (hle o ho)
    · have hzone : least.zone ≤ a.zone :=
        (String.le_total _ _).resolve_left fun h => ha (isLE_compare_iff.2 h)
      exact ⟨least, by simp [ha, hleast], List.forall_mem_cons.2 ⟨hzone, hle⟩⟩

namespace Selection

variable {rule : TieBreak} {candidates : List InstanceType} {d : Demand} {t : InstanceType}
  {p : Binary64} {o : Offering} {x y : Selection}

/-- Some of the counts that are reported is the greatest. -/
theorem exists_mostHeadroom? {l : List Offering} (ne : l.filterMap (·.availableIps) ≠ []) :
    ∃ most, mostHeadroom? l = some most ∧ (∃ o ∈ l, o.availableIps = some most) ∧
      ∀ o ∈ l, ∀ ips, o.availableIps = some ips → ips ≤ most := by
  have : Std.TransCmp fun m n : UInt64 => compare n m := .opposite
  -- The counts are gone through from the left, so the last of them comes first in the recursion.
  obtain ⟨most, hmost, hmem, hle⟩ := exists_least (fun m n : UInt64 => compare n m)
    (fun ips => ips.reverse.foldl
      (fun most n => some (most.elim n fun m => if m ≤ n then n else m)) none)
    (fun _ => rfl) (fun n m ips hm => by
      simp only [List.reverse_cons, List.foldl_append, hm, List.foldl_cons, List.foldl_nil,
        Option.elim_some]
      by_cases h : m ≤ n
      · exact .inl ⟨by rw [if_pos h], Std.isLE_compare.2 h⟩
      · exact .inr ⟨by rw [if_neg h], Std.isLE_compare.2 (UInt64.le_of_lt (UInt64.not_le.1 h))⟩)
    (List.reverse_eq_nil_iff.not.2 ne)
  simp only [List.reverse_reverse, List.mem_reverse, List.mem_filterMap] at hmost hmem hle
  refine ⟨most, hmost, hmem, fun o ho ips hips => ?_⟩
  exact Std.isLE_compare.1 (hle ips ⟨o, ho, hips⟩)

theorem roomiest_ne_nil {l : List Offering} (ne : l ≠ []) : roomiest l ≠ [] := by
  unfold roomiest
  by_cases hnone : l.filterMap (·.availableIps) = []
  · rwa [mostHeadroom?, hnone, List.foldl_nil]
  · obtain ⟨most, hmost, ⟨top, htop, hips⟩, -⟩ := exists_mostHeadroom? hnone
    rw [hmost]
    exact List.ne_nil_of_mem (List.mem_filter.2 ⟨htop, by simp [hips]⟩)

/-- The roomiest offerings are those that report at least as many free addresses as all others. -/
theorem roomiest_eq (l : List Offering) : roomiest l = l.filter fun o => l.all o.roomyAs := by
  unfold roomiest
  by_cases hnone : l.filterMap (·.availableIps) = []
  · have hall : ∀ o ∈ l, o.availableIps = none := by simpa using hnone
    have hmost : mostHeadroom? l = none := by rw [mostHeadroom?, hnone, List.foldl_nil]
    rw [hmost, eq_comm, List.filter_eq_self]
    intro o _
    rw [List.all_eq_true]
    intro o' ho'
    rw [Offering.roomyAs, hall o' ho', Option.all_none]
  · obtain ⟨most, hmost, ⟨top, htop, hips⟩, hle⟩ := exists_mostHeadroom? hnone
    rw [hmost]
    refine List.filter_congr fun o ho => ?_
    rw [Bool.eq_iff_iff, beq_iff_eq, List.all_eq_true]
    constructor
    · intro hmax o' ho'
      rw [Offering.roomyAs, hmax, Option.all_eq_true]
      intro fewer hfewer
      simpa using hle o' ho' fewer hfewer
    · intro hroomy
      have hroomy := hroomy top htop
      rw [Offering.roomyAs, hips, Option.all_some, Option.any_eq_true] at hroomy
      obtain ⟨more, hmore, hle'⟩ := hroomy
      rw [hmore, UInt64.le_antisymm (hle o ho more hmore) (by simpa using hle')]

/-- What is picked is what the rule picks, or the first where the rule picks none. -/
theorem pick_eq_some_iff {l : List Offering} : pick rule l = some o ↔
    l[rule l]? = some o ∨ l.length ≤ rule l ∧ l.head? = some o := by
  have hpick : pick rule l = (l[rule l]? <|> l.head?) := by
    match l with
    | [] => rfl
    | [only] =>
      rw [pick, List.getElem?_singleton]
      split <;> rfl
    | _ :: _ :: _ => rfl
  rw [hpick]
  cases hrule : l[rule l]? with
  | none => simpa using fun _ => List.getElem?_eq_none_iff.1 hrule
  | some o' =>
    have hlt : rule l < l.length := (List.getElem?_eq_some_iff.1 hrule).1
    simp [Nat.not_le.2 hlt]

theorem exists_pick (rule : TieBreak) {l : List Offering} (ne : l ≠ []) :
    ∃ o, pick rule l = some o := by
  cases hrule : l[rule l]? with
  | some o => exact ⟨o, pick_eq_some_iff.2 (.inl hrule)⟩
  | none =>
    refine ⟨l.head ne, pick_eq_some_iff.2 (.inr ⟨List.getElem?_eq_none_iff.1 hrule, ?_⟩)⟩
    exact List.head?_eq_some_head ne

/-! ### What fits -/

/-- An offering of a candidate fits a demand: the candidate has the labels and the amounts that are
asked for, and the offering can be bought at a price and has the labels as well. -/
structure Fitting (d : Demand) (candidates : List InstanceType) (t : InstanceType) (o : Offering)
    (price : Binary64) : Prop where
  candidate : t ∈ candidates
  typeLabels : t.requirements.compatible d.requirements = true
  cpu : d.resources.cpu ≤ t.capacity.cpu
  memory : d.resources.memoryMib ≤ t.capacity.memoryMib
  disk : d.resources.diskGib ≤ t.capacity.diskGib
  offering : o ∈ t.offerings
  available : o.available = true
  priced : o.price = some price
  labels : o.requirements.compatible d.requirements = true

theorem fitting_iff : Fitting d candidates t o p ↔
    (t ∈ candidates ∧ t.requirements.compatible d.requirements = true ∧ meets d t = true) ∧
      o ∈ t.offerings ∧ fits d o = true ∧ o.price = some p := by
  constructor
  · intro h
    refine ⟨⟨h.candidate, h.typeLabels, ?_⟩, h.offering, ?_, h.priced⟩
    · simp [meets, h.cpu, h.memory, h.disk]
    · simp [fits, h.available, h.priced, h.labels]
  · rintro ⟨⟨ht, hlabels, hmeets⟩, ho, hfits, hprice⟩
    simp only [meets, fits, Bool.and_eq_true, decide_eq_true_eq] at hmeets hfits
    exact ⟨ht, hlabels, hmeets.1.1, hmeets.1.2, hmeets.2, ho, hfits.1.1, hprice, hfits.2⟩

theorem Fitting.perm {candidates' : List InstanceType} (h : Fitting d candidates t o p)
    (perm : candidates.Perm candidates') : Fitting d candidates' t o p :=
  { h with candidate := perm.mem_iff.1 h.candidate }

theorem mem_eligible_iff : (p, t) ∈ eligible d candidates ↔
    (t ∈ candidates ∧ t.requirements.compatible d.requirements = true ∧ meets d t = true) ∧
      t.cheapest? (fits d) = some p := by
  simp [eligible, and_assoc]

/-- The better of two instance types with their prices is the lesser by price and then by name. -/
theorem better_iff {a b : Binary64 × InstanceType} : better a b = true ↔
    a.1.compare b.1 = .lt ∨ a.1 = b.1 ∧ a.2.name ≤ b.2.name := by
  rw [better, Ordering.isLE_then_iff_or, isLE_compare_iff, Std.LawfulEqCmp.compare_eq_iff_eq]

/-- Compares instance types with their prices by price and then by name. -/
def order (a b : Binary64 × InstanceType) : Ordering :=
  (a.1.compare b.1).then (compare a.2.name b.2.name)

instance : Std.TransCmp order :=
  inferInstanceAs (Std.TransCmp (compareLex (compareOn fun a : Binary64 × InstanceType => a.1.rank)
    (compareOn fun a : Binary64 × InstanceType => a.2.name)))

/-- Some instance type with its price is better than all others. -/
theorem exists_best? {l : List (Binary64 × InstanceType)} (ne : l ≠ []) :
    ∃ a, best? l = some a ∧ a ∈ l ∧ ∀ b ∈ l, better a b = true := by
  refine exists_least order best? (fun _ => rfl) (fun a b l hb => ?_) ne
  rw [best?, hb]
  by_cases hab : better a b = true
  · exact .inl ⟨by simp [hab], hab⟩
  · exact .inr ⟨by simp [hab], isLE_of_not_isLE order hab⟩

/-! ### The best choice -/

/-- The offerings of an instance type that fit a demand at a price. -/
def tied (d : Demand) (t : InstanceType) (p : Binary64) : List Offering :=
  t.offerings.filter fun o => fits d o && o.price == some p

/-- The offerings that are tied at a price and report as many free addresses as any of them. -/
def left (d : Demand) (t : InstanceType) (p : Binary64) : List Offering :=
  (tied d t p).filter fun o => (tied d t p).all o.roomyAs

theorem mem_tied_iff : o ∈ tied d t p ↔ o ∈ t.offerings ∧ fits d o = true ∧ o.price = some p := by
  simp [tied]

/-- A choice is a best one at a price.  Its offering fits; no offering that fits is cheaper; no
instance type with one at that price comes earlier by name; no such offering of the instance type
has more free addresses; and of those that are left it is the one that the rule picks, or the first
where the rule picks none. -/
structure Best (rule : TieBreak) (candidates : List InstanceType) (d : Demand) (x : Selection)
    (p : Binary64) : Prop where
  fitting : Fitting d candidates x.instanceType x.offering p
  cheapest : ∀ t o q, Fitting d candidates t o q → (p.compare q).isLE = true
  first : ∀ t o, Fitting d candidates t o p → x.instanceType.name ≤ t.name
  roomiest : ∀ o, Fitting d candidates x.instanceType o p → x.offering.roomyAs o = true
  picked : (left d x.instanceType p)[rule (left d x.instanceType p)]? = some x.offering ∨
    (left d x.instanceType p).length ≤ rule (left d x.instanceType p) ∧
      (left d x.instanceType p).head? = some x.offering

theorem Best.perm {candidates' : List InstanceType} (h : Best rule candidates d x p)
    (perm : candidates.Perm candidates') : Best rule candidates' d x p where
  fitting := h.fitting.perm perm
  cheapest t o q hfitting := h.cheapest t o q (hfitting.perm perm.symm)
  first t o hfitting := h.first t o (hfitting.perm perm.symm)
  roomiest o hfitting := h.roomiest o (hfitting.perm perm.symm)
  picked := h.picked

/-- Among candidates of distinct names there is only one best choice. -/
theorem Best.eq {q : Binary64} (distinct : (candidates.map (·.name)).Nodup)
    (hx : Best rule candidates d x p) (hy : Best rule candidates d y q) : x = y := by
  have hprice : p = q := Std.LawfulEqCmp.eq_of_compare (Std.OrientedCmp.isLE_antisymm
    (hx.cheapest _ _ _ hy.fitting) (hy.cheapest _ _ _ hx.fitting))
  subst hprice
  have hname : x.instanceType.name = y.instanceType.name :=
    String.le_antisymm (hx.first _ _ hy.fitting) (hy.first _ _ hx.fitting)
  have htype : x.instanceType = y.instanceType :=
    List.inj_on_of_nodup_map distinct hx.fitting.candidate hy.fitting.candidate hname
  have hoffering : x.offering = y.offering := by
    have hpx := pick_eq_some_iff.2 hx.picked
    have hpy := pick_eq_some_iff.2 hy.picked
    rw [htype] at hpx
    exact Option.some.inj (hpx.symm.trans hpy)
  cases x
  cases y
  cases htype
  cases hoffering
  rfl

/-- An instance type that is better than all eligible ones, with its price: no offering that fits is
cheaper, and none at that price is of an instance type that comes earlier by name. -/
theorem le_of_better {a : Binary64 × InstanceType}
    (better : ∀ b ∈ eligible d candidates, better a b = true) (h : Fitting d candidates t o p) :
    (a.1.compare p).isLE = true ∧ (p = a.1 → a.2.name ≤ t.name) := by
  obtain ⟨hcandidate, ho, hfits, hprice⟩ := fitting_iff.1 h
  have havailable : o.available = true := available_of_fits hfits
  obtain ⟨r, hr⟩ := (t.exists_cheapest?_iff (fits d)).2 ⟨o, ho, havailable, hfits, p, hprice⟩
  have hleast := (InstanceType.cheapest?_eq_some_iff.1 hr).least o (List.mem_filter.2 ⟨ho, hfits⟩)
  have hrp : (r.compare p).isLE = true :=
    Binary64.isLE_compare_iff_not_below.2 (hleast havailable p hprice)
  rcases better_iff.1 (better _ (mem_eligible_iff.2 ⟨hcandidate, hr⟩)) with hlt | ⟨heq, hname⟩
  · have hlt : a.1.compare p = .lt := Std.TransCmp.lt_of_lt_of_isLE hlt hrp
    refine ⟨by rw [hlt]; rfl, fun hp => ?_⟩
    have heq : a.1.compare a.1 = .eq := Std.ReflCmp.compare_self
    rw [hp, heq] at hlt
    cases hlt
  · exact ⟨heq ▸ hrp, fun _ => hname⟩

theorem select_eq_ok (best : best? (eligible d candidates) = some (p, t))
    (picked : pick rule (left d t p) = some o) : select rule candidates d = .ok ⟨t, o⟩ := by
  unfold left at picked
  rw [← roomiest_eq, tied] at picked
  unfold select
  simp only [best, picked]

/-- Where something fits, a best choice is chosen. -/
theorem exists_best (rule : TieBreak) (h : Fitting d candidates t o p) :
    ∃ x q, select rule candidates d = .ok x ∧ Best rule candidates d x q := by
  obtain ⟨hcandidate, ho, hfits, hprice⟩ := fitting_iff.1 h
  obtain ⟨_, hcheapest⟩ := (t.exists_cheapest?_iff (fits d)).2
    ⟨o, ho, available_of_fits hfits, hfits, p, hprice⟩
  obtain ⟨⟨q, t'⟩, hbest, hmem, hbetter⟩ :=
    exists_best? (List.ne_nil_of_mem (mem_eligible_iff.2 ⟨hcandidate, hcheapest⟩))
  obtain ⟨hcandidate', hleast⟩ := mem_eligible_iff.1 hmem
  obtain ⟨least, hleast, -, hprice'⟩ := (InstanceType.cheapest?_eq_some_iff.1 hleast).offered
  obtain ⟨hleast, hfits'⟩ := List.mem_filter.1 hleast
  have hleft : left d t' q ≠ [] := by
    rw [left, ← roomiest_eq]
    exact roomiest_ne_nil (List.ne_nil_of_mem (mem_tied_iff.2 ⟨hleast, hfits', hprice'⟩))
  obtain ⟨o', hpick⟩ := exists_pick rule hleft
  obtain ⟨htied, hroomy⟩ := List.mem_filter.1 (mem_of_pick hpick)
  refine ⟨⟨t', o'⟩, q, select_eq_ok hbest hpick, ?_⟩
  constructor
  case fitting => exact fitting_iff.2 ⟨hcandidate', mem_tied_iff.1 htied⟩
  case cheapest => exact fun t o q' hfitting => (le_of_better hbetter hfitting).1
  case first => exact fun t o hfitting => (le_of_better hbetter hfitting).2 rfl
  case roomiest =>
    intro o hfitting
    exact List.all_eq_true.1 hroomy o (mem_tied_iff.2 (fitting_iff.1 hfitting).2)
  case picked => exact pick_eq_some_iff.1 hpick

/-- Where nothing fits, nothing is chosen. -/
theorem select_eq_error (h : ∀ t o p, ¬ Fitting d candidates t o p) :
    select rule candidates d = .error (.noCompatibleOffering candidates.length) := by
  have hnil : eligible d candidates = [] := by
    refine List.eq_nil_iff_forall_not_mem.2 fun ⟨q, t⟩ hmem => ?_
    obtain ⟨hcandidate, hleast⟩ := mem_eligible_iff.1 hmem
    obtain ⟨o, ho, -, hprice⟩ := (InstanceType.cheapest?_eq_some_iff.1 hleast).offered
    obtain ⟨ho, hfits⟩ := List.mem_filter.1 ho
    exact h t o q (fitting_iff.2 ⟨hcandidate, ho, hfits, hprice⟩)
  unfold select
  rw [hnil, best?]

theorem select_eq_error_iff {e : SelectionError} : select rule candidates d = .error e ↔
    e = .noCompatibleOffering candidates.length ∧ ∀ t o p, ¬ Fitting d candidates t o p := by
  constructor
  · intro h
    have hnone : ∀ t o p, ¬ Fitting d candidates t o p := fun t o p hfitting => by
      obtain ⟨x, q, hx, -⟩ := exists_best rule hfitting
      cases h.symm.trans hx
    exact ⟨Except.error.inj (h.symm.trans (select_eq_error hnone)), hnone⟩
  · rintro ⟨rfl, hnone⟩
    exact select_eq_error hnone

/-- What is chosen is a best choice. -/
theorem exists_best_of_select (h : select rule candidates d = .ok x) :
    ∃ p, Best rule candidates d x p := by
  obtain ⟨hcandidate, hlabels, hmeets, ho, hfits⟩ := exists_of_select h
  have hpriced : x.offering.price.isSome = true := by
    simp only [fits, Bool.and_eq_true] at hfits
    exact hfits.1.2
  obtain ⟨p, hprice⟩ := Option.isSome_iff_exists.1 hpriced
  obtain ⟨y, q, hy, hbest⟩ := exists_best rule
    (fitting_iff.2 ⟨⟨hcandidate, hlabels, hmeets⟩, ho, hfits, hprice⟩)
  cases h.symm.trans hy
  exact ⟨q, hbest⟩

/-- The rule of the least zone takes an offering in the least zone of those that are left. -/
theorem Best.zone_le (h : Best .lexical candidates d x p) (ho : o ∈ left d x.instanceType p) :
    x.offering.zone ≤ o.zone := by
  obtain ⟨least, hleast, hle⟩ := TieBreak.exists_lexical (List.ne_nil_of_mem ho)
  have hpick := pick_eq_some_iff.2 h.picked
  rw [pick_eq_some_iff.2 (.inl hleast)] at hpick
  rw [← Option.some.inj hpick]
  exact hle o ho

/-- Choices are optimal.  Nothing is chosen exactly where nothing fits, and the number of candidates
is told; what is chosen is a best choice, and in the least zone if the rule is to take the least;
among candidates of distinct names their order does not matter. -/
theorem select_optimal (rule : TieBreak) (candidates : List InstanceType) (d : Demand) :
    (∀ e, select rule candidates d = .error e ↔
      e = .noCompatibleOffering candidates.length ∧ ∀ t o p, ¬ Fitting d candidates t o p) ∧
    (∀ x, select rule candidates d = .ok x → ∃ p, Best rule candidates d x p ∧
      (rule = .lexical → ∀ o ∈ left d x.instanceType p, x.offering.zone ≤ o.zone)) ∧
    ((candidates.map (·.name)).Nodup → ∀ candidates', candidates'.Perm candidates →
      select rule candidates' d = select rule candidates d) := by
  refine ⟨fun e => select_eq_error_iff, fun x hx => ?_, fun distinct candidates' perm => ?_⟩
  · obtain ⟨p, hbest⟩ := exists_best_of_select hx
    refine ⟨p, hbest, ?_⟩
    rintro rfl o ho
    exact hbest.zone_le ho
  · cases hx : select rule candidates d with
    | error e =>
      obtain ⟨rfl, hnone⟩ := select_eq_error_iff.1 hx
      rw [← perm.length_eq]
      exact select_eq_error fun t o p hfitting => hnone t o p (hfitting.perm perm)
    | ok x =>
      obtain ⟨p, hbest⟩ := exists_best_of_select hx
      obtain ⟨y, q, hy, hbest'⟩ := exists_best rule (hbest.fitting.perm perm.symm)
      rw [hy, (hbest.eq distinct (hbest'.perm perm))]

/-- An instance type with two cores whose nodes may have any labels. -/
def twoCores (name : String) (offerings : List Offering) : InstanceType where
  shape := ⟨"standard-v3", .full, 2, 4096⟩
  name
  requirements := .empty
  capacity := ⟨2, 4096, 10⟩
  reserve := .ofCapacity ⟨2, 4096, 10⟩
  platformDiscountable := true
  offerings

/-- An offering of `second` in a zone that can be bought at minus zero. -/
def atMinusZero (zone : Zone) (kind : CapacityType) (ips : Option UInt64) : Offering :=
  ⟨"second", zone, kind, some ⟨0x8000000000000000⟩, ips, true⟩

/-- Minus zero is less than zero, a zone that is not asked for does not count however roomy, and of
two offerings in the roomiest zone the first is taken. -/
theorem select_optimal_of_zeros :
    let first := twoCores "first" [⟨"first", "b", .onDemand, some ⟨0⟩, none, true⟩]
    let second := twoCores "second" [atMinusZero "a" .onDemand (some 9),
      atMinusZero "b" .onDemand none, atMinusZero "c" .onDemand (some 3),
      atMinusZero "c" .spot (some 3)]
    let d : Demand := ⟨.of [(Label.zone, ["b", "c"])], ⟨2, 4096, 0⟩⟩
    let x : Selection := ⟨second, atMinusZero "c" .onDemand (some 3)⟩
    ([first, second].map (·.name)).Nodup ∧ [second, first].Perm [first, second] ∧
      select .lexical [first, second] d = .ok x ∧ select .lexical [second, first] d = .ok x ∧
      ∃ p, Best .lexical [first, second] d x p ∧
        ∀ o ∈ left d x.instanceType p, x.offering.zone ≤ o.zone := by
  intro first second d x
  have distinct : ([first, second].map (·.name)).Nodup := by decide
  have hselect : select .lexical [first, second] d = .ok x := by cbv
  obtain ⟨-, chosen, unordered⟩ := select_optimal .lexical [first, second] d
  have hswap := unordered distinct [second, first] (.swap ..)
  obtain ⟨p, hbest, hzone⟩ := chosen x hselect
  exact ⟨distinct, .swap .., hselect, hswap.trans hselect, p, hbest, hzone rfl⟩

end Selection

end NodeSupply
