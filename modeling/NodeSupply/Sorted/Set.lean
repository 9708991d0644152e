/-!
# Sorted sets

A finite set is the strictly ascending list of its members, so equal sets are equal values and a
set is listed in one order only.

## Main definitions

* `SortedSet` : a strictly ascending list.
* `SortedSet.ofList` : the members of a list, sorted and without repetitions.

## Main statements

* `SortedSet.mem_ofList` : the set of a list has the members of the list.
-/

namespace NodeSupply

/-- A finite set, as the strictly ascending list of its members. -/
structure SortedSet (α : Type) [Ord α] where
  /-- The members, in ascending order. -/
  toList : List α
  /-- Each member is less than every later one. -/
  ascending : toList.Pairwise fun a b => compare a b = .lt

namespace SortedSet

section

variable {α : Type} [Ord α]

/-- A sorted list without the members equal to the one after them. -/
def dropRepeats : List α → List α
  | [] => []
  | [a] => [a]
  | a :: b :: l =>
    if compare a b = .eq then dropRepeats (b :: l) else a :: dropRepeats (b :: l)

variable [Std.TransOrd α] [Std.LawfulEqOrd α]

omit [Std.TransOrd α] in
@[simp] theorem mem_dropRepeats {x : α} {l : List α} : x ∈ dropRepeats l ↔ x ∈ l := by
  fun_induction dropRepeats l with
  | case1 => rfl
  | case2 => rfl
  | case3 a b l h ih =>
    have hab : a = b := Std.LawfulEqOrd.eq_of_compare h
    simp [ih, hab]
  | case4 a b l h ih => simp [ih]

theorem pairwise_dropRepeats {l : List α}
    (h : l.Pairwise fun a b => (compare a b).isLE = true) :
    (dropRepeats l).Pairwise fun a b => compare a b = .lt := by
  fun_induction dropRepeats l with
  | case1 => exact .nil
  | case2 => simp
  | case3 a b l hab ih => exact ih (List.pairwise_cons.1 h).2
  | case4 a b l hab ih =>
    obtain ⟨first, rest⟩ := List.pairwise_cons.1 h
    refine List.pairwise_cons.2 ⟨fun x hx => ?_, ih rest⟩
    have hlt : compare a b = .lt := by
      have := first b (by simp)
      cases hc : compare a b <;> simp_all [Ordering.isLE]
    rcases List.mem_cons.1 (mem_dropRepeats.1 hx) with rfl | hx
    · exact hlt
    · have hbx : (compare b x).isLE = true := (List.pairwise_cons.1 rest).1 x hx
      exact Std.TransCmp.lt_of_lt_of_isLE hlt hbx

/-- The members of a list, as a set. -/
def ofList (l : List α) : SortedSet α where
  toList := dropRepeats (l.mergeSort fun a b => (compare a b).isLE)
  ascending := pairwise_dropRepeats <| List.pairwise_mergeSort
    (fun _ _ _ => Std.TransCmp.isLE_trans)
    (fun a b => by
      have swap : compare a b = (compare b a).swap := Std.OrientedCmp.eq_swap
      cases h : compare b a <;> simp [swap, h]) l

@[simp] theorem mem_ofList {x : α} {l : List α} : x ∈ (ofList l).toList ↔ x ∈ l := by
  simp [ofList, (List.mergeSort_perm l _).mem_iff]

end

variable {α : Type} [Ord α]

/-- The set without members. -/
def empty : SortedSet α := ⟨[], .nil⟩

instance : Inhabited (SortedSet α) := ⟨empty⟩

instance [DecidableEq α] : DecidableEq (SortedSet α) := fun s t =>
  decidable_of_iff (s.toList = t.toList) ⟨fun h => by cases s; cases t; simp_all, fun h => h ▸ rfl⟩

/-- Whether a value is a member. -/
def contains [BEq α] (s : SortedSet α) (a : α) : Bool := s.toList.contains a

/-- Whether two sets share no member. -/
def disjoint [BEq α] (s t : SortedSet α) : Bool := !s.toList.any t.contains

end SortedSet

end NodeSupply
