import NodeSupply.Json.Decode
import NodeSupply.Proofs.Sorted

/-!
# Parts of JSON values

A record is read strictly: it fails as a whole if one of its members does.  What is said to be
written in a document is said about single parts of it, whether or not the rest can be read; where
the rest can be read as well, those parts are what was read.

## Main definitions

* `Json.last?`, `Json.part?` : the value under a key, and the value of a member of a record.

## Main statements

* `Json.at?_of_record?` : a member of a record that was read is the part of its name.
* `Json.get?_of_stringMap?` : a key of a map that was read has the string that was last under it.
* `Json.record?_perm` : a record may have its members in any order.
-/

namespace NodeSupply.Json

/-- The value that is last under a key. -/
def last? (members : List (String × Json)) (key : String) : Option Json :=
  ((members.filter (·.1 == key)).map (·.2)).getLast?

/-- The value that is last under a key of an object, or the item at a place of a list. -/
def part? (place : Nat) (key : String) : Json → Option Json
  | object members => last? members key
  | array items => items[place]?
  | _ => none

theorem head?_eq_getLast?_of_length_le {α : Type} {l : List α} (h : l.length ≤ 1) :
    l.head? = l.getLast? := by
  match l with
  | [] => rfl
  | [_] => rfl
  | _ :: _ :: _ => simp at h

theorem head?_eq_of_perm_of_length_le {α : Type} {l l' : List α} (h : l.Perm l')
    (single : l.length ≤ 1) : l.head? = l'.head? := by
  match l with
  | [] => rw [h.nil_eq]
  | [_] => rw [h.singleton_eq]
  | _ :: _ :: _ => simp at single

/-- An object is read as a record alike in whatever order its members stand. -/
theorem record?_perm {members members' : List (String × Json)} (h : members.Perm members')
    (names : List String) :
    (object members).record? names = (object members').record? names := by
  have hperm : ∀ name, ((members.filter (·.1 == name)).map (·.2)).Perm
      ((members'.filter (·.1 == name)).map (·.2)) := fun name => (h.filter _).map _
  have hrepeated : (names.map fun name => (members.filter (·.1 == name)).map (·.2)).any
      (1 < ·.length) = (names.map fun name => (members'.filter (·.1 == name)).map (·.2)).any
        (1 < ·.length) := by
    rw [List.any_map, List.any_map]
    congr 1
    funext name
    simp only [Function.comp_apply, (hperm name).length_eq]
  simp only [record?, ← hrepeated]
  split
  next => rfl
  next single =>
    simp only [List.map_map]
    congr 2
    refine List.map_congr_left fun name hname => ?_
    have hle : ((members.filter (·.1 == name)).map (·.2)).length ≤ 1 := by
      simpa using mt (fun h => List.any_eq_true.2 ⟨_, List.mem_map.2 ⟨name, hname, rfl⟩, h⟩) single
    exact head?_eq_of_perm_of_length_le (hperm name) hle

/-- A member of a record that was read is the part of its name. -/
theorem at?_of_record? {names : List String} {value : Json} {members : Members}
    (read : value.record? names = some members) {place : Nat} {key : String}
    (named : names[place]? = some key) : members.at? place = value.part? place key := by
  cases value with
  | object entries =>
    simp only [record?] at read
    split at read
    next => cases read
    next single =>
      cases read
      have hle : ((entries.filter (·.1 == key)).map (·.2)).length ≤ 1 := by
        have hmem : ((entries.filter (·.1 == key)).map (·.2)) ∈
            names.map fun name => (entries.filter (·.1 == name)).map (·.2) :=
          List.mem_map.2 ⟨key, List.mem_of_getElem? named, rfl⟩
        simpa using mt (fun h => List.any_eq_true.2 ⟨_, hmem, h⟩) single
      simp only [Members.at?, part?, last?, List.getElem?_map, named, Option.map_some,
        Option.join_some]
      exact head?_eq_getLast?_of_length_le hle
  | array items =>
    simp only [record?] at read
    split at read
    next => cases read
    next =>
      cases read
      have hplace : place < names.length := (List.getElem?_eq_some_iff.1 named).1
      simp only [Members.at?, part?]
      rcases Nat.lt_or_ge place items.length with h | h
      · rw [List.getElem?_append_left (by simpa using h), List.getElem?_map,
          List.getElem?_eq_getElem h]
        rfl
      · rw [List.getElem?_append_right (by simpa using h), List.getElem?_eq_none h,
          List.getElem?_replicate]
        split <;> rfl
  | _ => cases read

/-- The value of a member that is present, as it was read. -/
theorem decode_of_optional {members : Members} {place : Nat} {α : Type} {default_ a : α}
    {decode : Json → Option α} (read : members.optional place default_ decode = some a)
    {value : Json} (present : members.at? place = some value) : decode value = some a := by
  simpa only [Members.optional, present] using read

theorem eq_map_of_mapM_string? {members : List (String × Json)} {pairs : List (String × String)}
    (read : members.mapM (fun (key, value) => value.string?.map (key, ·)) = some pairs) :
    members = pairs.map fun e => (e.1, text e.2) := by
  induction members generalizing pairs with
  | nil =>
    cases read
    rfl
  | cons e members ih =>
    rw [List.mapM_cons] at read
    obtain ⟨pair, hpair, read⟩ := Option.bind_eq_some_iff.1 read
    obtain ⟨rest, hrest, read⟩ := Option.bind_eq_some_iff.1 read
    cases read
    obtain ⟨key, value⟩ := e
    obtain ⟨s, hs, rfl⟩ := Option.map_eq_some_iff.1 hpair
    cases value with
    | text s' =>
      cases hs
      rw [ih hrest, List.map_cons]
    | _ => cases hs

/-- Strings are read back from the object that they are the members of. -/
theorem stringMembers?_text (pairs : List (String × String)) :
    (object (pairs.map fun e => (e.1, text e.2))).stringMembers? = some pairs := by
  induction pairs with
  | nil => rfl
  | cons e pairs ih =>
    rw [stringMembers?] at ih ⊢
    rw [List.map_cons, List.mapM_cons, ih]
    rfl

/-- A key of a map that was read has the string that was last under it. -/
theorem get?_of_stringMap? {members : List (String × Json)} {m : SortedMap String String}
    (read : (object members).stringMap? = some m) {key s : String}
    (last : last? members key = some (text s)) : m.get? key = some s := by
  obtain ⟨pairs, hpairs, rfl⟩ := Option.map_eq_some_iff.1 read
  cases eq_map_of_mapM_string? hpairs
  have hlast : (((pairs.filter (·.1 == key)).map (·.2)).getLast?).map text = some (text s) := by
    rw [← last, last?, List.filter_map, List.map_map, ← List.getLast?_map, List.map_map]
    rfl
  obtain ⟨s', hs', htext⟩ := Option.map_eq_some_iff.1 hlast
  cases htext
  rw [SortedMap.get?_ofList, hs']

end NodeSupply.Json
