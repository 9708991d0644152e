import Mathlib.Data.Option.Basic
import NodeSupply.Json.Decode

/-!
# Records that differ in one member

Two records may be alike but for what stands for one member, or for whether anything does.  Then
they are read alike: both or neither of them is a record, and all their other members are the same.

## Main definitions

* `Json.Varies` : two values are alike but for one member.
* `Json.Members.Alike` : the members of two records are alike but for one.

## Main statements

* `Json.Varies.rel_record?` : how records that vary in one member are read.
* `Json.Varies.bind_record?` : what does not tell the member apart does not tell the records apart.
-/

namespace NodeSupply.Json

/-- Two values are alike but for the member of a key, which as an item of a list has a place.  What
stands for it in one and in the other is related; where a member is left out, the key does not stand
anywhere else, and the item was the last. -/
inductive Varies (place : Nat) (key : String) (related : Option Json → Option Json → Prop) :
    Json → Json → Prop where
  | member (before after : List (String × Json)) {v v' : Json} (h : related (some v) (some v')) :
      Varies place key related (.object (before ++ (key, v) :: after))
        (.object (before ++ (key, v') :: after))
  | leftOut (before after : List (String × Json)) {v : Json}
      (single : ∀ e ∈ before ++ after, e.1 ≠ key) (h : related (some v) none) :
      Varies place key related (.object (before ++ (key, v) :: after)) (.object (before ++ after))
  | item {before : List Json} (after : List Json) {v v' : Json} (placed : before.length = place)
      (h : related (some v) (some v')) :
      Varies place key related (.array (before ++ v :: after)) (.array (before ++ v' :: after))
  | cut {before : List Json} {v : Json} (placed : before.length = place)
      (h : related (some v) none) :
      Varies place key related (.array (before ++ [v])) (.array before)

/-- The members of two records are alike but for the one at a place. -/
structure Members.Alike (place : Nat) (related : Option Json → Option Json → Prop)
    (m m' : Members) : Prop where
  elsewhere : ∀ p, p ≠ place → m.at? p = m'.at? p
  here : related (m.at? place) (m'.at? place)

/-! ### Reading -/

/-- The values under a key, in the order of the document. -/
def valuesOf (members : List (String × Json)) (key : String) : List Json :=
  (members.filter (·.1 == key)).map (·.2)

theorem valuesOf_append (before after : List (String × Json)) (key : String) :
    valuesOf (before ++ after) key = valuesOf before key ++ valuesOf after key := by
  rw [valuesOf, List.filter_append, List.map_append, valuesOf, valuesOf]

theorem valuesOf_cons_self (key : String) (v : Json) (members : List (String × Json)) :
    valuesOf ((key, v) :: members) key = v :: valuesOf members key := by
  rw [valuesOf, List.filter_cons_of_pos (by simp), List.map_cons, valuesOf]

theorem valuesOf_cons_of_ne {key name : String} (h : name ≠ key) (v : Json)
    (members : List (String × Json)) :
    valuesOf ((key, v) :: members) name = valuesOf members name := by
  rw [valuesOf, List.filter_cons_of_neg (by simpa using Ne.symm h), valuesOf]

theorem valuesOf_eq_nil {members : List (String × Json)} {key : String}
    (h : ∀ e ∈ members, e.1 ≠ key) : valuesOf members key = [] := by
  rw [valuesOf, List.filter_eq_nil_iff.2 fun e he => by simpa using h e he, List.map_nil]

theorem record?_object (members : List (String × Json)) (names : List String) :
    (object members).record? names =
      if ∀ name ∈ names, (valuesOf members name).length ≤ 1 then
        some ⟨false, names.map fun name => (valuesOf members name).head?⟩
      else none := by
  have hrepeated : ((names.map (valuesOf members)).any (1 < ·.length) = true) ↔
      ¬ ∀ name ∈ names, (valuesOf members name).length ≤ 1 := by
    simp
  change (if (names.map (valuesOf members)).any (1 < ·.length) = true then none
    else some (Members.mk false ((names.map (valuesOf members)).map List.head?))) = _
  rw [List.map_map]
  by_cases h : ∀ name ∈ names, (valuesOf members name).length ≤ 1
  · rw [if_pos h, if_neg (mt hrepeated.1 (not_not_intro h))]
    rfl
  · rw [if_neg h, if_pos (hrepeated.2 h)]

theorem at?_object (members : List (String × Json)) (names : List String) (p : Nat) :
    Members.at? ⟨false, names.map fun name => (valuesOf members name).head?⟩ p =
      names[p]?.bind fun name => (valuesOf members name).head? := by
  rw [Members.at?, List.getElem?_map]
  cases names[p]? <;> rfl

theorem at?_array (items : List Json) (n p : Nat) :
    Members.at? ⟨true, items.map some ++ List.replicate n none⟩ p = items[p]? := by
  rw [Members.at?]
  rcases Nat.lt_or_ge p items.length with h | h
  · rw [List.getElem?_append_left (by simpa using h), List.getElem?_map, List.getElem?_eq_getElem h]
    rfl
  · rw [List.getElem?_append_right (by simpa using h), List.getElem?_eq_none h,
      List.getElem?_replicate]
    split <;> rfl

section

variable {place : Nat} {key : String} {related : Option Json → Option Json → Prop}
  {names : List String}

/-- Objects that have the same values under every other key. -/
theorem rel_record?_object {l l' : List (String × Json)} (distinct : names.Nodup)
    (named : names[place]? = some key)
    (other : ∀ name, name ≠ key → valuesOf l name = valuesOf l' name)
    (single : (valuesOf l key).length ≤ 1 ↔ (valuesOf l' key).length ≤ 1)
    (here : (valuesOf l key).length ≤ 1 →
      related (valuesOf l key).head? (valuesOf l' key).head?) :
    Option.Rel (Members.Alike place related) ((object l).record? names)
      ((object l').record? names) := by
  have hmem : key ∈ names := List.mem_of_getElem? named
  have hreads : (∀ name ∈ names, (valuesOf l name).length ≤ 1) ↔
      ∀ name ∈ names, (valuesOf l' name).length ≤ 1 := by
    refine forall₂_congr fun name _ => ?_
    by_cases hname : name = key
    · rw [hname, single]
    · rw [other name hname]
  rw [record?_object, record?_object]
  by_cases h : ∀ name ∈ names, (valuesOf l name).length ≤ 1
  · rw [if_pos h, if_pos (hreads.1 h)]
    refine .some ⟨fun p hp => ?_, ?_⟩
    · rw [at?_object, at?_object]
      cases hname : names[p]? with
      | none => rfl
      | some name =>
        have hne : name ≠ key := fun heq => by
          have hplace : p < names.length := (List.getElem?_eq_some_iff.1 hname).1
          rw [heq] at hname
          exact hp ((List.getElem?_inj hplace distinct).1 (hname.trans named.symm))
        rw [Option.bind_some, Option.bind_some, other name hne]
    · rw [at?_object, at?_object, named]
      exact here (h key hmem)
  · rw [if_neg h, if_neg (mt hreads.2 h)]
    exact .none

/-- Lists that have the same items at every other place. -/
theorem rel_record?_array {items items' : List Json}
    (length : names.length < items.length ↔ names.length < items'.length)
    (other : ∀ p, p ≠ place → items[p]? = items'[p]?)
    (here : related items[place]? items'[place]?) :
    Option.Rel (Members.Alike place related) ((array items).record? names)
      ((array items').record? names) := by
  simp only [record?]
  by_cases h : names.length < items.length
  · rw [if_pos h, if_pos (length.1 h)]
    exact .none
  · rw [if_neg h, if_neg (mt length.2 h)]
    refine .some ⟨fun p hp => ?_, ?_⟩
    · rw [at?_array, at?_array, other p hp]
    · rw [at?_array, at?_array]
      exact here

/-- Two values that are alike but for one member are read as records that are, or not at all. -/
theorem Varies.rel_record? {value value' : Json} (h : Varies place key related value value')
    (distinct : names.Nodup) (named : names[place]? = some key) :
    Option.Rel (Members.Alike place related) (value.record? names) (value'.record? names) := by
  cases h with
  | @member before after v v' h =>
    refine rel_record?_object distinct named (fun name hname => ?_) ?_ fun hsingle => ?_
    · rw [valuesOf_append, valuesOf_append, valuesOf_cons_of_ne hname, valuesOf_cons_of_ne hname]
    · simp only [valuesOf_append, valuesOf_cons_self, List.length_append, List.length_cons]
    · simp only [valuesOf_append, valuesOf_cons_self, List.length_append, List.length_cons]
        at hsingle
      have hbefore : valuesOf before key = [] := List.length_eq_zero_iff.1 (by omega)
      rw [valuesOf_append, valuesOf_append, valuesOf_cons_self, valuesOf_cons_self, hbefore]
      exact h
  | @leftOut before after v single h =>
    have hnone := valuesOf_eq_nil single
    rw [valuesOf_append, List.append_eq_nil_iff] at hnone
    refine rel_record?_object distinct named (fun name hname => ?_) ?_ fun _ => ?_
    · rw [valuesOf_append, valuesOf_append, valuesOf_cons_of_ne hname]
    · simp [valuesOf_append, valuesOf_cons_self, hnone]
    · simpa [valuesOf_append, valuesOf_cons_self, hnone] using h
  | @item before after v v' placed h =>
    refine rel_record?_array (by simp) (fun p hp => ?_) ?_
    · rcases Nat.lt_or_ge p before.length with hlt | hge
      · rw [List.getElem?_append_left hlt, List.getElem?_append_left hlt]
      · obtain ⟨q, hq⟩ : ∃ q, p - before.length = q + 1 := ⟨p - before.length - 1, by omega⟩
        rw [List.getElem?_append_right hge, List.getElem?_append_right hge, hq,
          List.getElem?_cons_succ, List.getElem?_cons_succ]
    · subst placed
      simpa using h
  | @cut before v placed h =>
    have hplace : place < names.length := (List.getElem?_eq_some_iff.1 named).1
    subst placed
    refine rel_record?_array ?_ (fun p hp => ?_) ?_
    · rw [List.length_append, List.length_singleton]
      omega
    · rcases Nat.lt_or_ge p before.length with hlt | hge
      · rw [List.getElem?_append_left hlt]
      · rw [List.getElem?_eq_none hge, List.getElem?_eq_none (by simp; omega)]
    · simpa using h

/-- What is read of two values that are alike but for one member is the same if it is the same of
all records that are alike but for it. -/
theorem Varies.bind_record? {α : Type} {value value' : Json}
    (h : Varies place key related value value') (distinct : names.Nodup)
    (named : names[place]? = some key) {decode : Members → Option α}
    (alike : ∀ m m', Members.Alike place related m m' → decode m = decode m') :
    (value.record? names).bind decode = (value'.record? names).bind decode := by
  have hread := h.rel_record? distinct named
  generalize value.record? names = o, value'.record? names = o' at hread ⊢
  cases hread with
  | some halike => exact alike _ _ halike
  | none => rfl

namespace Members.Alike

variable {m m' : Members} (h : Members.Alike place related m m') {α : Type}

include h

/-- Another member is decoded alike. -/
theorem optional_of_ne {p : Nat} (ne : p ≠ place) (default_ : α) (decode : Json → Option α) :
    m.optional p default_ decode = m'.optional p default_ decode := by
  rw [Members.optional, h.elsewhere p ne, Members.optional]

theorem required_of_ne {p : Nat} (ne : p ≠ place) (decode : Json → Option α) :
    m.required p decode = m'.required p decode := by
  rw [Members.required, h.elsewhere p ne, Members.required]

/-- The member itself is decoded alike if what stands for it means the same. -/
theorem optional_self {default_ : α} {decode : Json → Option α}
    (same : ∀ o o', related o o' → o.elim (some default_) decode = o'.elim (some default_) decode) :
    m.optional place default_ decode = m'.optional place default_ decode := by
  have helim : ∀ m : Members, m.optional place default_ decode =
      (m.at? place).elim (some default_) decode := fun m => by
    rw [Members.optional]
    cases m.at? place <;> rfl
  rw [helim, helim]
  exact same _ _ h.here

end Members.Alike

end

end NodeSupply.Json
