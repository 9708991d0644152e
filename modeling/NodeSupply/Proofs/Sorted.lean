import Mathlib.Data.List.Nodup
import NodeSupply.Sorted.Map
import NodeSupply.Sorted.Set

/-!
# What sorted maps hold

The view of a sorted map is `SortedMap.get?`, and the values of a map are those that the view shows.
A set is its members.

## Main statements

* `find?_key_eq_some_iff` : what a list with distinct keys holds under a key.
* `SortedMap.mem_values_iff` : the values.
* `SortedMap.get?_filter_eq_some_iff`, `SortedMap.get?_erase_eq_some_iff`, `SortedMap.get?_ofList`,
  `SortedMap.get?_extend` : the view of a filtered map, of a map without a key, of the map of a
  list, and of a map written over another.
* `SortedMap.eq_of_get?_eq` : a map is determined by its view.
* `SortedSet.eq_of_mem_iff` : a set is determined by its members.
* `exists_least` : what is found by going through a list for its least member.
-/

namespace NodeSupply

/-! ### The least of a list -/

theorem isLE_compare_iff {a b : String} : (compare a b).isLE = true ↔ a ≤ b :=
  isLE_compareOfLessAndEq String.le_antisymm String.not_le String.le_total

theorem compare_eq_lt_iff {a b : String} : compare a b = .lt ↔ a < b :=
  compareOfLessAndEq_eq_lt

theorem isLE_of_not_isLE {α : Type} (cmp : α → α → Ordering) [Std.OrientedCmp cmp] {a b : α}
    (h : ¬ (cmp a b).isLE = true) : (cmp b a).isLE = true := by
  have hgt : cmp a b = .gt := by simpa using h
  rw [Std.OrientedCmp.gt_iff_lt.1 hgt]
  rfl

/-- What keeps the first member of a list or what was found among the others, whichever is no
greater, finds a least member. -/
theorem exists_least {α : Type} (cmp : α → α → Ordering) [Std.TransCmp cmp]
    (least? : List α → Option α) (single : ∀ a, least? [a] = some a)
    (cons : ∀ a b l, least? l = some b → least? (a :: l) = some a ∧ (cmp a b).isLE = true ∨
      least? (a :: l) = some b ∧ (cmp b a).isLE = true)
    {l : List α} (ne : l ≠ []) :
    ∃ a, least? l = some a ∧ a ∈ l ∧ ∀ b ∈ l, (cmp a b).isLE = true := by
  have hrefl : ∀ a, (cmp a a).isLE = true := fun a => by
    have heq : cmp a a = .eq := Std.ReflCmp.compare_self
    rw [heq]
    rfl
  induction l with
  | nil => exact absurd rfl ne
  | cons a l ih =>
    by_cases hl : l = []
    · subst hl
      exact ⟨a, single a, List.mem_cons_self, fun b hb => List.mem_singleton.1 hb ▸ hrefl a⟩
    obtain ⟨b, hb, hmem, hleast⟩ := ih hl
    rcases cons a b l hb with ⟨ha, hab⟩ | ⟨hb, hba⟩
    · exact ⟨a, ha, List.mem_cons_self, List.forall_mem_cons.2
        ⟨hrefl a, fun c hc => Std.TransCmp.isLE_trans hab (hleast c hc)⟩⟩
    · exact ⟨b, hb, List.mem_cons_of_mem _ hmem, List.forall_mem_cons.2 ⟨hba, hleast⟩⟩

/-! ### Keys, maps and sets -/

/-- In a list with distinct keys, looking for a key finds what has it. -/
theorem find?_key_eq_some_iff {α κ : Type} [BEq κ] [LawfulBEq κ] {key : α → κ} {l : List α}
    (distinct : (l.map key).Nodup) {k : κ} {a : α} :
    l.find? (key · == k) = some a ↔ a ∈ l ∧ key a = k := by
  constructor
  · intro ha
    exact ⟨List.mem_of_find?_eq_some ha, by simpa using List.find?_some ha⟩
  · rintro ⟨ha, rfl⟩
    obtain ⟨b, hb⟩ : ∃ b, l.find? (key · == key a) = some b :=
      Option.isSome_iff_exists.1 (List.find?_isSome.2 ⟨a, ha, by simp⟩)
    have hkey : key b = key a := by simpa using List.find?_some hb
    rw [hb, List.inj_on_of_nodup_map distinct (List.mem_of_find?_eq_some hb) ha hkey]

namespace SortedMap

variable {κ ν : Type} [Ord κ] [Std.TransOrd κ] [Std.LawfulEqOrd κ]

omit [Std.TransOrd κ] in
theorem mem_values_iff {m : SortedMap κ ν} {v : ν} : v ∈ m.values ↔ ∃ k, m.get? k = some v := by
  simp only [values, List.mem_map, Prod.exists, exists_eq_right, mem_entries_iff]

omit [Std.TransOrd κ] in
theorem get?_filter_eq_some_iff {m : SortedMap κ ν} {p : κ → ν → Bool} {k : κ} {v : ν} :
    (m.filter p).get? k = some v ↔ m.get? k = some v ∧ p k v = true := by
  rw [← mem_entries_iff, ← mem_entries_iff]
  exact List.mem_filter

omit [Std.TransOrd κ] in
theorem get?_erase_eq_some_iff {m : SortedMap κ ν} {k j : κ} {v : ν} :
    (m.erase k).get? j = some v ↔ j ≠ k ∧ m.get? j = some v := by
  have hne : (compare k j != .eq) = true ↔ j ≠ k := by
    rw [bne_iff_ne, ne_eq, Std.LawfulEqOrd.compare_eq_iff_eq, eq_comm]
  rw [erase, get?_filter_eq_some_iff, hne, and_comm]

omit [Std.TransOrd κ] [Std.LawfulEqOrd κ] in
theorem eq_of_entries_eq {m n : SortedMap κ ν} (h : m.entries = n.entries) : m = n := by
  cases m
  cases n
  cases h
  rfl

/-! ### Maps of lists -/

theorem get?_foldl_insert_of_not_mem {l : List (κ × ν)} {k : κ} (h : k ∉ l.map Prod.fst)
    (m : SortedMap κ ν) : (l.foldl (fun m e => m.insert e.1 e.2) m).get? k = m.get? k := by
  induction l generalizing m with
  | nil => rfl
  | cons e l ih =>
    obtain ⟨he, hl⟩ := not_or.1 fun hm => h (List.mem_cons.2 hm)
    rw [List.foldl_cons, ih hl, get?_insert_of_ne _ _ he]

/-- The last entry of a key counts. -/
theorem get?_ofList [BEq κ] [LawfulBEq κ] (l : List (κ × ν)) (k : κ) :
    (ofList l).get? k = ((l.filter (·.1 == k)).map (·.2)).getLast? := by
  suffices ∀ m : SortedMap κ ν, (l.foldl (fun m e => m.insert e.1 e.2) m).get? k =
      (((l.filter (·.1 == k)).map (·.2)).getLast?).or (m.get? k) by
    rw [ofList, this, get?_empty, Option.or_none]
  induction l with
  | nil => exact fun m => rfl
  | cons e l ih =>
    intro m
    rw [List.foldl_cons, ih, List.filter_cons]
    by_cases he : e.1 = k
    · rw [← he, get?_insert_self, if_pos (beq_self_eq_true _), List.map_cons, List.getLast?_cons]
      cases ((l.filter (·.1 == e.1)).map (·.2)).getLast? <;> rfl
    · rw [get?_insert_of_ne _ _ (Ne.symm he), if_neg (mt beq_iff_eq.1 he)]

theorem get?_foldl_insert_of_mem {l : List (κ × ν)} (distinct : (l.map Prod.fst).Nodup) {k : κ}
    {v : ν} (h : (k, v) ∈ l) (m : SortedMap κ ν) :
    (l.foldl (fun m e => m.insert e.1 e.2) m).get? k = some v := by
  induction l generalizing m with
  | nil => cases h
  | cons e l ih =>
    obtain ⟨hfirst, hrest⟩ := List.nodup_cons.1 distinct
    rw [List.foldl_cons]
    rcases List.mem_cons.1 h with rfl | h
    · rw [get?_foldl_insert_of_not_mem hfirst, get?_insert_self]
    · exact ih hrest h _

/-- Where the keys of a list are distinct, its map holds each of its entries. -/
theorem get?_ofList_of_mem {l : List (κ × ν)} (distinct : (l.map Prod.fst).Nodup) {k : κ} {v : ν}
    (h : (k, v) ∈ l) : (ofList l).get? k = some v := get?_foldl_insert_of_mem distinct h empty

omit [Std.LawfulEqOrd κ] in
theorem nodup_keys (m : SortedMap κ ν) : (m.entries.map Prod.fst).Nodup :=
  List.pairwise_map.2 (m.ascending.imp fun hab heq => by
    simp [heq, Std.ReflCmp.compare_self] at hab)

omit [Std.TransOrd κ] in
theorem mem_keys_iff {m : SortedMap κ ν} {k : κ} : k ∈ m.keys ↔ (m.get? k).isSome = true := by
  simp only [keys, List.mem_map, Prod.exists, exists_and_right, exists_eq_right, mem_entries_iff,
    Option.isSome_iff_exists]

/-- What entries are written over a map counts before what the map holds. -/
theorem get?_extend (m n : SortedMap κ ν) (k : κ) :
    (m.extend n).get? k = (n.get? k).or (m.get? k) := by
  cases h : n.get? k with
  | some v => exact get?_foldl_insert_of_mem n.nodup_keys (mem_entries_iff.2 h) m
  | none =>
    refine get?_foldl_insert_of_not_mem (fun hk => ?_) m
    obtain ⟨e, he, rfl⟩ := List.mem_map.1 hk
    cases h.symm.trans (mem_entries_iff.1 he)

/-- A map is determined by what its keys hold. -/
theorem eq_of_get?_eq {m n : SortedMap κ ν} (h : ∀ k, m.get? k = n.get? k) : m = n := by
  have hmem : ∀ e, e ∈ m.entries ↔ e ∈ n.entries := fun e => by
    rw [mem_entries_iff (k := e.1), mem_entries_iff (k := e.1), h]
  have hnodup : ∀ m : SortedMap κ ν, m.entries.Nodup := fun m =>
    List.Pairwise.of_map Prod.fst (fun _ _ hne heq => hne (congrArg Prod.fst heq)) m.nodup_keys
  refine eq_of_entries_eq (List.Perm.eq_of_pairwise ?_ m.ascending n.ascending
    ((List.perm_ext_iff_of_nodup (hnodup m) (hnodup n)).2 hmem))
  intro a b _ _ hab hba
  exact absurd (Std.TransCmp.lt_trans hab hba) (by simp [Std.ReflCmp.compare_self])

/-- The map of the entries of a map is that map. -/
theorem ofList_entries (m : SortedMap κ ν) : ofList m.entries = m :=
  eq_of_get?_eq fun k => by
    rw [ofList, ← extend, get?_extend, get?_empty, Option.or_none]

end SortedMap

namespace SortedSet

variable {α : Type} [Ord α]

theorem eq_of_toList_eq {s t : SortedSet α} (h : s.toList = t.toList) : s = t := by
  cases s
  cases t
  cases h
  rfl

theorem contains_iff [BEq α] [LawfulBEq α] {s : SortedSet α} {a : α} :
    s.contains a = true ↔ a ∈ s.toList := List.contains_iff_mem

/-- Two sets are not disjoint if they share a member. -/
theorem disjoint_eq_false_iff [BEq α] [LawfulBEq α] {s t : SortedSet α} :
    s.disjoint t = false ↔ ∃ a ∈ s.toList, a ∈ t.toList := by
  simp [disjoint, contains_iff]

variable [Std.TransOrd α] [Std.LawfulEqOrd α]

omit [Std.LawfulEqOrd α] in
/-- A set has each member once. -/
theorem nodup (s : SortedSet α) : s.toList.Nodup :=
  s.ascending.imp fun hab heq => by simp [heq, Std.ReflCmp.compare_self] at hab

omit [Std.LawfulEqOrd α] in
/-- A set is determined by its members. -/
theorem eq_of_mem_iff {s t : SortedSet α} (members : ∀ a, a ∈ s.toList ↔ a ∈ t.toList) : s = t := by
  refine eq_of_toList_eq (List.Perm.eq_of_pairwise ?_ s.ascending t.ascending
    ((List.perm_ext_iff_of_nodup s.nodup t.nodup).2 members))
  intro a b _ _ hab hba
  exact absurd (Std.TransCmp.lt_trans hab hba) (by simp [Std.ReflCmp.compare_self])

/-- Lists with the same members have the same set. -/
theorem ofList_eq_iff {l m : List α} : ofList l = ofList m ↔ ∀ a, a ∈ l ↔ a ∈ m := by
  constructor
  · intro h a
    rw [← mem_ofList, h, mem_ofList]
  · intro h
    refine eq_of_mem_iff fun a => ?_
    rw [mem_ofList, mem_ofList, h]

/-- The set of a list that is strictly ascending is that list. -/
theorem ofList_of_ascending {l : List α} (h : l.Pairwise fun a b => compare a b = .lt) :
    ofList l = ⟨l, h⟩ := eq_of_mem_iff fun _ => mem_ofList

theorem ofList_singleton (a : α) : ofList [a] = ⟨[a], List.pairwise_singleton ..⟩ :=
  ofList_of_ascending _

end SortedSet

end NodeSupply
