/-!
# Sorted maps

A finite map is the list of its entries in strictly ascending order of their keys, so equal maps
are equal values and a map is listed in one order only.

## Main definitions

* `SortedMap` : entries in strictly ascending order of their keys.
* `SortedMap.get?`, `SortedMap.insert`, `SortedMap.filter`, `SortedMap.mapValues`.

## Main statements

* `SortedMap.get?_insert` : what a map holds after a write.
* `SortedMap.mem_entries_iff` : the entries are what the keys hold.
-/

namespace NodeSupply

/-- A finite map, as its entries in strictly ascending order of their keys. -/
structure SortedMap (κ ν : Type) [Ord κ] where
  /-- The entries, by ascending key. -/
  entries : List (κ × ν)
  /-- Each key is less than every later one. -/
  ascending : entries.Pairwise fun a b => compare a.1 b.1 = .lt

namespace SortedMap

variable {κ ν ω : Type} [Ord κ]

/-- The map without entries. -/
def empty : SortedMap κ ν := ⟨[], .nil⟩

instance : Inhabited (SortedMap κ ν) := ⟨empty⟩

instance [DecidableEq κ] [DecidableEq ν] : DecidableEq (SortedMap κ ν) := fun m n =>
  decidable_of_iff (m.entries = n.entries)
    ⟨fun h => by cases m; cases n; simp_all, fun h => h ▸ rfl⟩

/-- The value of the first entry under a key. -/
def find (k : κ) : List (κ × ν) → Option ν
  | [] => none
  | e :: l => if compare k e.1 = .eq then some e.2 else find k l

/-- The value under a key. -/
def get? (m : SortedMap κ ν) (k : κ) : Option ν := find k m.entries

/-- Whether there is a value under a key. -/
def contains (m : SortedMap κ ν) (k : κ) : Bool := (m.get? k).isSome

/-- The keys, in ascending order. -/
def keys (m : SortedMap κ ν) : List κ := m.entries.map (·.1)

/-- The values, by ascending key. -/
def values (m : SortedMap κ ν) : List ν := m.entries.map (·.2)

/-- The number of entries. -/
def size (m : SortedMap κ ν) : Nat := m.entries.length

/-- Entries with one more at its place, or in place of the one with its key. -/
def place (k : κ) (v : ν) : List (κ × ν) → List (κ × ν)
  | [] => [(k, v)]
  | e :: l =>
    match compare k e.1 with
    | .lt => (k, v) :: e :: l
    | .eq => (k, v) :: l
    | .gt => e :: place k v l

theorem mem_place {k : κ} {v : ν} {e : κ × ν} {l : List (κ × ν)} (h : e ∈ place k v l) :
    e = (k, v) ∨ e ∈ l := by
  induction l with
  | nil => simpa [place] using h
  | cons f l ih =>
    rw [place] at h
    split at h <;> simp only [List.mem_cons] at h ⊢
    · exact h
    · rcases h with h | h <;> simp [h]
    · rcases h with h | h
      · simp [h]
      · rcases ih h with h | h <;> simp [h]

/-- The entries that satisfy a test. -/
def filter (p : κ → ν → Bool) (m : SortedMap κ ν) : SortedMap κ ν where
  entries := m.entries.filter fun e => p e.1 e.2
  ascending := m.ascending.filter _

/-- The map without the entry under a key. -/
def erase (m : SortedMap κ ν) (k : κ) : SortedMap κ ν := m.filter fun j _ => compare k j != .eq

/-- The map with each value replaced. -/
def mapValues (f : ν → ω) (m : SortedMap κ ν) : SortedMap κ ω where
  entries := m.entries.map fun e => (e.1, f e.2)
  ascending := List.pairwise_map.2 m.ascending

@[simp] theorem get?_empty (k : κ) : (empty : SortedMap κ ν).get? k = none := rfl

@[simp] theorem find_map (f : ν → ω) (k : κ) (l : List (κ × ν)) :
    find k (l.map fun e => (e.1, f e.2)) = (find k l).map f := by
  induction l with
  | nil => rfl
  | cons e l ih => by_cases h : compare k e.1 = .eq <;> simp [find, h, ih]

@[simp] theorem get?_mapValues (f : ν → ω) (m : SortedMap κ ν) (k : κ) :
    (m.mapValues f).get? k = (m.get? k).map f := find_map f k m.entries

variable [Std.TransOrd κ] [Std.LawfulEqOrd κ]

theorem pairwise_place {k : κ} {v : ν} {l : List (κ × ν)}
    (h : l.Pairwise fun a b => compare a.1 b.1 = .lt) :
    (place k v l).Pairwise fun a b => compare a.1 b.1 = .lt := by
  induction l with
  | nil => simp [place]
  | cons e l ih =>
    obtain ⟨first, rest⟩ := List.pairwise_cons.1 h
    rw [place]
    split
    next hk =>
      refine List.pairwise_cons.2 ⟨fun x hx => ?_, h⟩
      rcases List.mem_cons.1 hx with rfl | hx
      · exact hk
      · exact Std.TransCmp.lt_trans hk (first x hx)
    next hk =>
      have hke : k = e.1 := Std.LawfulEqOrd.eq_of_compare hk
      exact List.pairwise_cons.2 ⟨fun x hx => hke ▸ first x hx, rest⟩
    next hk =>
      refine List.pairwise_cons.2 ⟨fun x hx => ?_, ih rest⟩
      rcases mem_place hx with rfl | hx
      · exact Std.OrientedCmp.gt_iff_lt.1 hk
      · exact first x hx

/-- The map with a value written under a key. -/
def insert (m : SortedMap κ ν) (k : κ) (v : ν) : SortedMap κ ν where
  entries := place k v m.entries
  ascending := pairwise_place m.ascending

/-- The map of some entries; the last one under a key counts. -/
def ofList (l : List (κ × ν)) : SortedMap κ ν := l.foldl (fun m e => m.insert e.1 e.2) empty

/-- The first map with the entries of the second written over it. -/
def extend (m n : SortedMap κ ν) : SortedMap κ ν :=
  n.entries.foldl (fun m e => m.insert e.1 e.2) m

omit [Std.TransOrd κ] in
theorem find_place (k j : κ) (v : ν) (l : List (κ × ν)) :
    find j (place k v l) = if compare j k = .eq then some v else find j l := by
  induction l with
  | nil => simp [place, find]
  | cons e l ih =>
    rw [place]
    split
    next => simp [find]
    next hk =>
      have hke : k = e.1 := Std.LawfulEqOrd.eq_of_compare hk
      simp only [find, ← hke]
      split <;> rfl
    next hk =>
      rw [find, find, ih]
      by_cases hj : compare j k = .eq
      · have hjk : j = k := Std.LawfulEqOrd.eq_of_compare hj
        simp [hjk, hk]
      · simp [hj]

/-- What a map holds after a write. -/
theorem get?_insert (m : SortedMap κ ν) (k j : κ) (v : ν) :
    (m.insert k v).get? j = if compare j k = .eq then some v else m.get? j :=
  find_place k j v m.entries

@[simp] theorem get?_insert_self (m : SortedMap κ ν) (k : κ) (v : ν) :
    (m.insert k v).get? k = some v := by simp [get?_insert, Std.ReflCmp.compare_self]

theorem get?_insert_of_ne (m : SortedMap κ ν) {k j : κ} (v : ν) (h : j ≠ k) :
    (m.insert k v).get? j = m.get? j := by
  rw [get?_insert, if_neg fun hc => h (Std.LawfulEqOrd.eq_of_compare hc)]

omit [Std.TransOrd κ] in
theorem find_eq_some_iff {k : κ} {v : ν} {l : List (κ × ν)}
    (h : l.Pairwise fun a b => compare a.1 b.1 = .lt) : find k l = some v ↔ (k, v) ∈ l := by
  induction l with
  | nil => simp [find]
  | cons e l ih =>
    obtain ⟨first, rest⟩ := List.pairwise_cons.1 h
    rw [find, List.mem_cons, ← ih rest]
    by_cases hk : compare k e.1 = .eq
    · have hke : k = e.1 := Std.LawfulEqOrd.eq_of_compare hk
      have absent : (k, v) ∉ l := fun hm => by
        have hlt : compare e.1 k = .lt := first _ hm
        rw [← hke] at hlt
        exact absurd (Std.ReflCmp.compare_self.symm.trans hlt) (by decide)
      rw [if_pos hk]
      constructor
      · rintro h
        exact .inl (Prod.ext hke (Option.some.inj h).symm)
      · rintro (h | h)
        · rw [← h]
        · exact absurd ((ih rest).1 h) absent
    · have hne : k ≠ e.1 := fun h => hk (by rw [h]; exact Std.ReflCmp.compare_self)
      rw [if_neg hk]
      exact ⟨.inr, fun h => h.resolve_left fun h => hne (congrArg Prod.fst h)⟩

omit [Std.TransOrd κ] in
/-- The entries of a map are what its keys hold. -/
theorem mem_entries_iff {m : SortedMap κ ν} {k : κ} {v : ν} :
    (k, v) ∈ m.entries ↔ m.get? k = some v := (find_eq_some_iff m.ascending).symm

end SortedMap

end NodeSupply
