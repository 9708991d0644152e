import Mathlib.Logic.Function.Basic
import NodeSupply.Proofs.Lock.Keyed

/-!
# Places at keyed locks

Whoever asked for a key and neither gave up nor let go of it has a place in the slot that it was
sent to.  The clients of the slots are those that have a place, and whoever holds a key is the first
client of its slot.

## Main definitions

* `Seated` : the clients of keyed locks are those that have a place.

## Main statements

* `Seated.enter`, `Seated.leave`, `Seated.hold` : what happens at locks keeps everybody seated.
* `Seated.eq_of_holds` : a key has one holder.
-/

namespace NodeSupply

variable {κ : Type}

/-- A place at a lock. -/
structure Place (κ : Type) where
  /-- The slot. -/
  slot : Nat
  /-- The key that is held or awaited. -/
  key : κ
  /-- Whether the key is held. -/
  holds : Bool
deriving DecidableEq

/-- The clients of keyed locks are those that have a place, and whoever holds a key comes first. -/
structure Seated (locks : KeyedLock κ Nat) (place? : Nat → Option (Place κ)) : Prop where
  sound : locks.Sound
  nodup : ∀ q, (locks.clients q).Nodup
  client_iff : ∀ n q, n ∈ locks.clients q ↔ ∃ p, place? n = some p ∧ p.slot = q
  key : ∀ n p, place? n = some p → locks.key? p.slot = some p.key
  first : ∀ n p, place? n = some p → p.holds = true → (locks.clients p.slot).head? = some n

namespace Seated

variable {locks : KeyedLock κ Nat} {place? : Nat → Option (Place κ)}

theorem empty : Seated (.empty : KeyedLock κ Nat) fun _ => none where
  sound := KeyedLock.sound_empty
  nodup _ := .nil
  client_iff n q := by simp [KeyedLock.clients, KeyedLock.slot?, KeyedLock.empty]
  key := nofun
  first := nofun

theorem clients_ne_nil (h : Seated locks place?) {n : Nat} {p : Place κ} (hp : place? n = some p) :
    locks.clients p.slot ≠ [] :=
  List.ne_nil_of_mem ((h.client_iff n p.slot).2 ⟨p, hp, rfl⟩)

/-- The places for one key are in one slot. -/
theorem slot_eq (h : Seated locks place?) {n m : Nat} {p q : Place κ} (hp : place? n = some p)
    (hq : place? m = some q) (key : p.key = q.key) : p.slot = q.slot := by
  have hkey : locks.key? p.slot = locks.key? q.slot := by
    rw [h.key n p hp, h.key m q hq, key]
  exact h.sound.slot_unique (h.clients_ne_nil hp) (h.clients_ne_nil hq) hkey

/-- Two holders of a key are the same. -/
theorem eq_of_holds (h : Seated locks place?) {n m : Nat} {p q : Place κ} (hp : place? n = some p)
    (hq : place? m = some q) (key : p.key = q.key) (pholds : p.holds = true)
    (qholds : q.holds = true) : n = m := by
  have hn := h.first n p hp pholds
  have hm := h.first m q hq qholds
  rw [h.slot_eq hp hq key, hm] at hn
  exact (Option.some.inj hn).symm

/-- Somebody without a place is in no slot. -/
theorem not_mem_clients (h : Seated locks place?) {n : Nat} (absent : place? n = none) (q : Nat) :
    n ∉ locks.clients q := fun hmem => by
  obtain ⟨p, hp, -⟩ := (h.client_iff n q).1 hmem
  cases absent.symm.trans hp

/-- Somebody with a place is in its slot only. -/
theorem eq_slot_of_mem_clients (h : Seated locks place?) {n q : Nat} {p : Place κ}
    (hp : place? n = some p) (hmem : n ∈ locks.clients q) : q = p.slot := by
  obtain ⟨p', hp', rfl⟩ := (h.client_iff n q).1 hmem
  cases hp.symm.trans hp'
  rfl

/-- Somebody without a place asks for a key. -/
theorem enter [BEq κ] [LawfulBEq κ] (h : Seated locks place?) {n : Nat}
    (absent : place? n = none) (key : κ) :
    Seated (locks.enter key n).1
      (Function.update place? n (some ⟨(locks.enter key n).2, key, false⟩)) where
  sound := h.sound.enter key n
  nodup q := by
    have habsent := h.not_mem_clients absent q
    rw [h.sound.clients_enter]
    split
    next => exact (h.nodup q).append (List.nodup_singleton n) (by simpa using habsent)
    next => exact h.nodup q
  client_iff m q := by
    rw [h.sound.clients_enter]
    by_cases hm : m = n
    · subst hm
      have habsent := h.not_mem_clients absent q
      rw [Function.update_self]
      split
      next hq => simp [hq]
      next hq => simp [habsent, Ne.symm hq]
    · rw [Function.update_of_ne hm, ← h.client_iff]
      split <;> simp [hm]
  key m p hp := by
    by_cases hm : m = n
    · subst hm
      rw [Function.update_self] at hp
      cases hp
      exact h.sound.key?_enter_self key m
    · rw [Function.update_of_ne hm] at hp
      rw [h.sound.key?_enter key n (h.clients_ne_nil hp)]
      exact h.key m p hp
  first m p hp holds := by
    by_cases hm : m = n
    · subst hm
      rw [Function.update_self] at hp
      cases hp
      cases holds
    · rw [Function.update_of_ne hm] at hp
      exact h.sound.head?_enter (h.first m p hp holds) key n

/-- Somebody gives a place up. -/
theorem leave (h : Seated locks place?) {n : Nat} {p : Place κ} (hp : place? n = some p) :
    Seated (locks.leave p.slot n) (Function.update place? n none) where
  sound := h.sound.leave p.slot n
  nodup q := by
    rw [h.sound.clients_leave]
    split
    next => exact (h.nodup q).erase n
    next => exact h.nodup q
  client_iff m q := by
    rw [h.sound.clients_leave]
    by_cases hm : m = n
    · subst hm
      have hgone : m ∉ if q = p.slot then (locks.clients q).erase m else locks.clients q := by
        split
        next => exact (h.nodup q).not_mem_erase
        next hq => exact mt (h.eq_slot_of_mem_clients hp) hq
      simp [hgone]
    · rw [Function.update_of_ne hm, ← h.client_iff]
      split
      next => exact List.mem_erase_of_ne hm
      next => rfl
  key m p' hp' := by
    rw [KeyedLock.key?_leave]
    by_cases hm : m = n
    · simp [hm] at hp'
    · exact h.key m p' ((Function.update_of_ne hm _ _).symm.trans hp')
  first m p' hp' holds := by
    by_cases hm : m = n
    · simp [hm] at hp'
    · rw [Function.update_of_ne hm] at hp'
      exact h.sound.head?_leave (h.first m p' hp' holds) hm p.slot

/-- Somebody who comes first holds the key from now on. -/
theorem hold (h : Seated locks place?) {n : Nat} {p : Place κ} (hp : place? n = some p)
    (first : (locks.clients p.slot).head? = some n) (holds : Bool) :
    Seated locks (Function.update place? n (some { p with holds })) where
  sound := h.sound
  nodup := h.nodup
  client_iff m q := by
    rw [h.client_iff]
    by_cases hm : m = n
    · subst hm
      simp [hp]
    · rw [Function.update_of_ne hm]
  key m p' hp' := by
    by_cases hm : m = n
    · subst hm
      rw [Function.update_self] at hp'
      cases hp'
      exact h.key m p hp
    · exact h.key m p' ((Function.update_of_ne hm _ _).symm.trans hp')
  first m p' hp' hholds := by
    by_cases hm : m = n
    · subst hm
      rw [Function.update_self] at hp'
      cases hp'
      exact first
    · exact h.first m p' ((Function.update_of_ne hm _ _).symm.trans hp') hholds

/-- Somebody gives up the place that there is, if any. -/
theorem leave? (h : Seated locks place?) (n : Nat) :
    Seated (((place? n).map (·.slot)).elim locks fun q => locks.leave q n)
      (Function.update place? n none) := by
  cases hp : place? n with
  | none =>
    rw [← hp, Function.update_eq_self]
    simpa [hp] using h
  | some p => exact h.leave hp

end Seated

end NodeSupply
