import Mathlib.Tactic.ByContra
import Mathlib.Tactic.Tauto
import NodeSupply.Lock.Keyed
import NodeSupply.Proofs.Sorted

/-!
# Keyed locks keep keys apart

The view of a keyed lock is, for each slot number, the clients of the slot and the key that it was
made for.  Clearing idle slots away does not change who is a client of what, and no key ever has
clients in two slots, so that two clients of one key meet in one queue.

## Main definitions

* `KeyedLock.clients`, `KeyedLock.key?` : the view.
* `KeyedLock.Sound` : the table and the slots fit together.

## Main statements

* `KeyedLock.Sound.enter`, `KeyedLock.Sound.leave` : both operations keep a keyed lock sound.
* `KeyedLock.Sound.clients_enter`, `KeyedLock.clients_leave` : what they do to the clients.
* `KeyedLock.Sound.slot_unique` : a key has clients in one slot only.
-/

namespace NodeSupply.KeyedLock

variable {κ τ : Type}

/-- The clients of the slot of a number, the holder first; none where there is no such slot. -/
def clients (k : KeyedLock κ τ) (number : Nat) : List τ :=
  (k.slot? number).elim [] (·.lock.clients)

/-- The key that the slot of a number was made for. -/
def key? (k : KeyedLock κ τ) (number : Nat) : Option κ := (k.slot? number).map (·.key)

/-- The table and the slots fit together: slot numbers are used once, a key is listed once and
under its own slot, and every slot with clients is listed. -/
structure Sound (k : KeyedLock κ τ) : Prop where
  numbers : (k.slots.map (·.number)).Nodup
  slots_lt : ∀ s ∈ k.slots, s.number < k.next
  table_lt : ∀ e ∈ k.table, e.2 < k.next
  keys : (k.table.map (·.1)).Nodup
  agrees : ∀ e ∈ k.table, ∀ s ∈ k.slots, s.number = e.2 → s.key = e.1
  listed : ∀ s ∈ k.slots, s.lock.clients ≠ [] → (s.key, s.number) ∈ k.table

theorem sound_empty : (empty : KeyedLock κ τ).Sound := by
  constructor <;> simp [empty]

/-! ### The view -/

theorem Sound.slot?_eq_some_iff {k : KeyedLock κ τ} (h : k.Sound) {number : Nat}
    {s : LockSlot κ τ} : k.slot? number = some s ↔ s ∈ k.slots ∧ s.number = number :=
  find?_key_eq_some_iff h.numbers

theorem Sound.exists_of_clients_ne_nil {k : KeyedLock κ τ} (h : k.Sound) {number : Nat}
    (busy : k.clients number ≠ []) :
    ∃ s ∈ k.slots, s.number = number ∧ k.slot? number = some s ∧
      k.clients number = s.lock.clients := by
  cases hs : k.slot? number with
  | none => exact absurd (by simp [clients, hs]) busy
  | some s =>
    obtain ⟨hmem, hnumber⟩ := h.slot?_eq_some_iff.1 hs
    exact ⟨s, hmem, hnumber, rfl, by simp [clients, hs]⟩

/-- A key has clients in one slot only. -/
theorem Sound.slot_unique {k : KeyedLock κ τ} (h : k.Sound) {p q : Nat} (hp : k.clients p ≠ [])
    (hq : k.clients q ≠ []) (key : k.key? p = k.key? q) : p = q := by
  obtain ⟨s, hs, rfl, hslot, hclients⟩ := h.exists_of_clients_ne_nil hp
  obtain ⟨t, ht, rfl, htslot, htclients⟩ := h.exists_of_clients_ne_nil hq
  have hkey : s.key = t.key := by simpa [key?, hslot, htslot] using key
  have hs' := h.listed s hs (hclients ▸ hp)
  have ht' := h.listed t ht (htclients ▸ hq)
  exact congrArg Prod.snd (List.inj_on_of_nodup_map h.keys hs' ht' hkey)

theorem isActive_iff {k : KeyedLock κ τ} {number : Nat} :
    k.isActive number = true ↔ k.clients number ≠ [] := by
  unfold isActive clients
  cases k.slot? number <;> simp [FairLock.isIdle]

/-- A slot with clients that is listed under a key is the slot of the key. -/
theorem Sound.key?_of_mem_table {k : KeyedLock κ τ} (h : k.Sound) {e : κ × Nat}
    (listed : e ∈ k.table) (busy : k.clients e.2 ≠ []) : k.key? e.2 = some e.1 := by
  obtain ⟨s, hs, hnumber, hslot, -⟩ := h.exists_of_clients_ne_nil busy
  rw [key?, hslot, Option.map_some, h.agrees e listed s hs hnumber]

/-- A slot with clients is listed under its key. -/
theorem Sound.mem_table {k : KeyedLock κ τ} (h : k.Sound) {key : κ} {number : Nat}
    (busy : k.clients number ≠ []) (hkey : k.key? number = some key) : (key, number) ∈ k.table := by
  obtain ⟨s, hs, rfl, hslot, hclients⟩ := h.exists_of_clients_ne_nil busy
  rw [key?, hslot, Option.map_some] at hkey
  obtain rfl := Option.some.inj hkey
  exact h.listed s hs (hclients ▸ busy)

theorem Sound.numberOf?_of_mem_table [BEq κ] [LawfulBEq κ] {k : KeyedLock κ τ} (h : k.Sound)
    {e : κ × Nat} (listed : e ∈ k.table) : k.numberOf? e.1 = some e.2 := by
  rw [numberOf?, (find?_key_eq_some_iff h.keys).2 ⟨listed, rfl⟩, Option.map_some]

theorem isHeldBy_iff [BEq τ] [LawfulBEq τ] {k : KeyedLock κ τ} {number : Nat} {t : τ} :
    k.isHeldBy number t = true ↔ (k.clients number).head? = some t := by
  unfold isHeldBy clients
  cases k.slot? number <;> simp [FairLock.isHeldBy, FairLock.holder?]

/-! ### Clearing idle slots away -/

theorem Sound.slot?_prune {k : KeyedLock κ τ} (h : k.Sound) (number : Nat) :
    k.prune.slot? number = (k.slot? number).filter fun s => !s.lock.isIdle := by
  ext s
  have hprune : k.prune.slot? number = some s ↔ s ∈ k.prune.slots ∧ s.number = number :=
    find?_key_eq_some_iff (h.numbers.sublist (List.filter_sublist.map _))
  rw [hprune, Option.filter_eq_some_iff, h.slot?_eq_some_iff, KeyedLock.prune, List.mem_filter]
  tauto

theorem Sound.prune {k : KeyedLock κ τ} (h : k.Sound) : k.prune.Sound where
  numbers := h.numbers.sublist (List.filter_sublist.map _)
  slots_lt s hs := h.slots_lt s (List.mem_filter.1 hs).1
  table_lt e he := h.table_lt e (List.mem_filter.1 he).1
  keys := h.keys.sublist (List.filter_sublist.map _)
  agrees e he s hs := h.agrees e (List.mem_filter.1 he).1 s (List.mem_filter.1 hs).1
  listed s hs hbusy := by
    obtain ⟨hmem, hidle⟩ := List.mem_filter.1 hs
    refine List.mem_filter.2 ⟨h.listed s hmem hbusy, ?_⟩
    simpa [isActive, h.slot?_eq_some_iff.2 ⟨hmem, rfl⟩] using hidle

theorem Sound.clients_prune {k : KeyedLock κ τ} (h : k.Sound) (number : Nat) :
    k.prune.clients number = k.clients number := by
  unfold clients
  rw [h.slot?_prune]
  cases hs : k.slot? number with
  | none => rfl
  | some s =>
    cases hidle : s.lock.isIdle with
    | false => simp [Option.filter, hidle]
    | true =>
      have hnil : s.lock.clients = [] := by simpa [FairLock.isIdle] using hidle
      simp [Option.filter, hidle, hnil]

theorem Sound.key?_prune {k : KeyedLock κ τ} (h : k.Sound) {number : Nat}
    (busy : k.clients number ≠ []) : k.prune.key? number = k.key? number := by
  obtain ⟨s, -, -, hslot, hclients⟩ := h.exists_of_clients_ne_nil busy
  have hbusy : s.lock.isIdle = false := by
    simpa [FairLock.isIdle] using hclients ▸ busy
  simp [key?, h.slot?_prune, hslot, Option.filter, hbusy]

/-! ### Changing one slot -/

theorem slot?_modify (k : KeyedLock κ τ) (number p : Nat) (f : FairLock τ → FairLock τ) :
    (k.modify number f).slot? p = (k.slot? p).map fun s =>
      if s.number = number then { s with lock := f s.lock } else s := by
  unfold slot? modify
  rw [List.find?_map]
  congr 2
  funext s
  simp only [Function.comp_apply]
  split <;> rfl

theorem key?_modify (k : KeyedLock κ τ) (number p : Nat) (f : FairLock τ → FairLock τ) :
    (k.modify number f).key? p = k.key? p := by
  unfold key?
  rw [slot?_modify, Option.map_map]
  congr 1
  funext s
  simp only [Function.comp_apply]
  split <;> rfl

theorem Sound.clients_modify {k : KeyedLock κ τ} (h : k.Sound) (number p : Nat)
    (f : FairLock τ → FairLock τ) : (k.modify number f).clients p =
      (k.slot? p).elim [] fun s => if p = number then (f s.lock).clients else s.lock.clients := by
  unfold clients
  rw [slot?_modify]
  cases hs : k.slot? p with
  | none => rfl
  | some s =>
    have hnumber : s.number = p := (h.slot?_eq_some_iff.1 hs).2
    simp only [Option.map_some, Option.elim_some, hnumber]
    split <;> rfl

/-- A change of one slot keeps a keyed lock sound if it gives no clients to an idle slot. -/
theorem Sound.modify {k : KeyedLock κ τ} (h : k.Sound) (number : Nat) {f : FairLock τ → FairLock τ}
    (busy : ∀ s ∈ k.slots, s.number = number → (f s.lock).clients ≠ [] → s.lock.clients ≠ []) :
    (k.modify number f).Sound := by
  have hslots : ∀ s' ∈ (k.modify number f).slots, ∃ s ∈ k.slots, s'.number = s.number ∧
      s'.key = s.key ∧ (s'.lock.clients ≠ [] → s.lock.clients ≠ []) := by
    intro s' hs'
    obtain ⟨s, hs, rfl⟩ := List.mem_map.1 hs'
    refine ⟨s, hs, ?_⟩
    by_cases hnumber : s.number = number
    · rw [if_pos hnumber]
      exact ⟨rfl, rfl, busy s hs hnumber⟩
    · rw [if_neg hnumber]
      exact ⟨rfl, rfl, id⟩
  have hmap : (k.modify number f).slots.map (·.number) = k.slots.map (·.number) := by
    unfold KeyedLock.modify
    rw [List.map_map]
    refine List.map_congr_left fun s _ => ?_
    simp only [Function.comp_apply]
    split <;> rfl
  constructor
  · rw [hmap]
    exact h.numbers
  · intro s' hs'
    obtain ⟨s, hs, hnumber, -, -⟩ := hslots s' hs'
    exact hnumber ▸ h.slots_lt s hs
  · exact h.table_lt
  · exact h.keys
  · intro e he s' hs' hnumber'
    obtain ⟨s, hs, hnumber, hkey, -⟩ := hslots s' hs'
    exact hkey.trans (h.agrees e he s hs (hnumber ▸ hnumber'))
  · intro s' hs' hbusy
    obtain ⟨s, hs, hnumber, hkey, hclients⟩ := hslots s' hs'
    rw [hnumber, hkey]
    exact h.listed s hs (hclients hbusy)

/-! ### Leaving -/

section

variable [BEq τ]

theorem Sound.leave {k : KeyedLock κ τ} (h : k.Sound) (number : Nat) (t : τ) :
    (k.leave number t).Sound :=
  h.modify number fun _ _ _ hbusy hnil => hbusy (by simp [FairLock.leave, hnil])

theorem Sound.clients_leave {k : KeyedLock κ τ} (h : k.Sound) (number p : Nat) (t : τ) :
    (k.leave number t).clients p =
      if p = number then (k.clients p).erase t else k.clients p := by
  unfold KeyedLock.leave
  rw [h.clients_modify]
  unfold clients
  cases k.slot? p with
  | none => split <;> rfl
  | some s => rfl

/-- Whoever is first stays first when somebody else leaves. -/
theorem Sound.head?_leave [LawfulBEq τ] {k : KeyedLock κ τ} (h : k.Sound) {p : Nat} {t u : τ}
    (first : (k.clients p).head? = some u) (other : u ≠ t) (number : Nat) :
    ((k.leave number t).clients p).head? = some u := by
  obtain ⟨rest, hrest⟩ := List.head?_eq_some_iff.1 first
  rw [h.clients_leave, hrest]
  split
  next => rw [List.erase_cons_tail (mt beq_iff_eq.1 other), List.head?_cons]
  next => rfl

theorem key?_leave (k : KeyedLock κ τ) (number p : Nat) (t : τ) :
    (k.leave number t).key? p = k.key? p := key?_modify ..

end

/-! ### Entering -/

variable [BEq κ]

/-- A key that the table still lists after idle slots were cleared away is listed under a slot of
its own that has clients. -/
theorem Sound.of_numberOf?_prune [LawfulBEq κ] {k : KeyedLock κ τ} (h : k.Sound) {key : κ}
    {number : Nat} (listed : k.prune.numberOf? key = some number) :
    k.clients number ≠ [] ∧ k.key? number = some key := by
  obtain ⟨e, he, rfl⟩ := Option.map_eq_some_iff.1 listed
  have hkey : e.1 = key := by simpa using List.find?_some he
  obtain ⟨hmem, hactive⟩ := List.mem_filter.1 (List.mem_of_find?_eq_some he)
  have hbusy := isActive_iff.1 hactive
  exact ⟨hbusy, hkey ▸ h.key?_of_mem_table hmem hbusy⟩

theorem not_mem_of_numberOf?_eq_none [LawfulBEq κ] {k : KeyedLock κ τ} {key : κ}
    (unlisted : k.numberOf? key = none) : key ∉ k.table.map (·.1) := by
  rw [numberOf?, Option.map_eq_none_iff, List.find?_eq_none] at unlisted
  rintro hkey
  obtain ⟨e, he, rfl⟩ := List.mem_map.1 hkey
  exact unlisted e he (by simp)

theorem enter_of_listed {k : KeyedLock κ τ} {key : κ} {number : Nat} (t : τ)
    (listed : k.prune.numberOf? key = some number) :
    k.enter key t = (k.prune.modify number (·.enter t), number) := by
  simp only [KeyedLock.enter, listed]

theorem enter_of_unlisted {k : KeyedLock κ τ} {key : κ} (t : τ)
    (unlisted : k.prune.numberOf? key = none) :
    k.enter key t = (⟨(key, k.next) :: k.prune.table,
      ⟨k.next, key, FairLock.idle.enter t⟩ :: k.prune.slots, k.next + 1⟩, k.next) := by
  simp only [KeyedLock.enter, unlisted]
  rfl

theorem Sound.enter [LawfulBEq κ] {k : KeyedLock κ τ} (h : k.Sound) (key : κ) (t : τ) :
    (k.enter key t).1.Sound := by
  have hp := h.prune
  cases hn : k.prune.numberOf? key with
  | some number =>
    rw [enter_of_listed t hn]
    refine hp.modify number (f := (·.enter t)) fun s hs hnumber _ hnil => ?_
    have hidle := (List.mem_filter.1 hs).2
    simp [FairLock.isIdle, hnil] at hidle
  | none =>
    have hfresh := not_mem_of_numberOf?_eq_none hn
    have hslots : ∀ s ∈ k.prune.slots, s.number < k.next := hp.slots_lt
    have htable : ∀ e ∈ k.prune.table, e.2 < k.next := hp.table_lt
    rw [enter_of_unlisted t hn]
    constructor
    · refine List.nodup_cons.2 ⟨fun hmem => ?_, hp.numbers⟩
      obtain ⟨s, hs, hnumber⟩ := List.mem_map.1 hmem
      exact absurd (hslots s hs) (by simp [hnumber])
    · intro s hs
      rcases List.mem_cons.1 hs with rfl | hs
      · exact Nat.lt_succ_self _
      · exact Nat.lt_succ_of_lt (hslots s hs)
    · intro e he
      rcases List.mem_cons.1 he with rfl | he
      · exact Nat.lt_succ_self _
      · exact Nat.lt_succ_of_lt (htable e he)
    · exact List.nodup_cons.2 ⟨hfresh, hp.keys⟩
    · intro e he s hs hnumber
      rcases List.mem_cons.1 he with rfl | he <;> rcases List.mem_cons.1 hs with rfl | hs
      · rfl
      · exact absurd (hslots s hs) (by simp [hnumber])
      · exact absurd (htable e he) (by simp [← hnumber])
      · exact hp.agrees e he s hs hnumber
    · intro s hs hbusy
      rcases List.mem_cons.1 hs with rfl | hs
      · exact List.mem_cons_self
      · exact List.mem_cons_of_mem _ (hp.listed s hs hbusy)

/-- Whoever enters is the last client of the slot it is sent to; no other slot changes. -/
theorem Sound.clients_enter [LawfulBEq κ] {k : KeyedLock κ τ} (h : k.Sound) (key : κ) (t : τ)
    (p : Nat) : (k.enter key t).1.clients p =
      if p = (k.enter key t).2 then k.clients p ++ [t] else k.clients p := by
  cases hn : k.prune.numberOf? key with
  | some number =>
    rw [enter_of_listed t hn, h.prune.clients_modify, ← h.clients_prune]
    by_cases hp : p = number
    · subst hp
      have hbusy : k.prune.clients p ≠ [] := by
        rw [h.clients_prune]
        exact (h.of_numberOf?_prune hn).1
      obtain ⟨s, -, -, hslot, hclients⟩ := h.prune.exists_of_clients_ne_nil hbusy
      simp [hslot, hclients, FairLock.enter]
    · simp only [if_neg hp, clients]
  | none =>
    rw [enter_of_unlisted t hn]
    by_cases hp : p = k.next
    · subst hp
      have hnil : k.clients k.next = [] := by
        by_contra hbusy
        obtain ⟨s, hs, hnumber, -, -⟩ := h.exists_of_clients_ne_nil hbusy
        exact Nat.ne_of_lt (h.slots_lt s hs) hnumber
      rw [if_pos rfl, hnil]
      simp [clients, slot?, FairLock.enter, FairLock.idle]
    · have hskip : (k.next == p) = false := by simpa using Ne.symm hp
      rw [if_neg hp, ← h.clients_prune]
      simp [clients, slot?, hskip]

/-- Whoever is first stays first when somebody enters. -/
theorem Sound.head?_enter [LawfulBEq κ] {k : KeyedLock κ τ} (h : k.Sound) {p : Nat} {u : τ}
    (first : (k.clients p).head? = some u) (key : κ) (t : τ) :
    ((k.enter key t).1.clients p).head? = some u := by
  rw [h.clients_enter]
  split
  next => rw [List.head?_append, first, Option.some_or]
  next => exact first

/-- Whoever is listed once somebody has entered is the slot entered or had clients before. -/
theorem mem_table_enter {k : KeyedLock κ τ} {key : κ} {t : τ} {e : κ × Nat}
    (listed : e ∈ (k.enter key t).1.table) : e.2 = (k.enter key t).2 ∨ k.clients e.2 ≠ [] := by
  cases hn : k.prune.numberOf? key with
  | some number =>
    rw [enter_of_listed t hn] at listed
    exact .inr (isActive_iff.1 (List.mem_filter.1 listed).2)
  | none =>
    rw [enter_of_unlisted t hn] at listed ⊢
    rcases List.mem_cons.1 listed with rfl | listed
    · exact .inl rfl
    · exact .inr (isActive_iff.1 (List.mem_filter.1 listed).2)

/-- Once somebody has entered, every slot listed has clients. -/
theorem Sound.clients_enter_ne_nil [LawfulBEq κ] {k : KeyedLock κ τ} (h : k.Sound) {key : κ} {t : τ}
    {e : κ × Nat} (listed : e ∈ (k.enter key t).1.table) : (k.enter key t).1.clients e.2 ≠ [] := by
  rw [h.clients_enter]
  split
  next => simp
  next hother => exact (mem_table_enter listed).resolve_left hother

/-- Slots stay listed once. -/
theorem Sound.nodup_numbers_enter {k : KeyedLock κ τ} (h : k.Sound)
    (numbers : (k.table.map (·.2)).Nodup) (key : κ) (t : τ) :
    ((k.enter key t).1.table.map (·.2)).Nodup := by
  have hpruned : (k.prune.table.map (·.2)).Nodup := numbers.sublist (List.filter_sublist.map _)
  cases hn : k.prune.numberOf? key with
  | some number =>
    rw [enter_of_listed t hn]
    exact hpruned
  | none =>
    rw [enter_of_unlisted t hn]
    refine List.nodup_cons.2 ⟨fun hmem => ?_, hpruned⟩
    obtain ⟨e, he, hnumber⟩ := List.mem_map.1 hmem
    have hlt : e.2 < k.next := h.prune.table_lt e he
    exact absurd hnumber (Nat.ne_of_lt hlt)

theorem Sound.key?_enter_self [LawfulBEq κ] {k : KeyedLock κ τ} (h : k.Sound) (key : κ) (t : τ) :
    (k.enter key t).1.key? (k.enter key t).2 = some key := by
  cases hn : k.prune.numberOf? key with
  | some number =>
    obtain ⟨hbusy, hkey⟩ := h.of_numberOf?_prune hn
    rw [enter_of_listed t hn, key?_modify, h.key?_prune hbusy, hkey]
  | none =>
    rw [enter_of_unlisted t hn]
    simp [key?, slot?]

/-- Slots with clients keep their keys. -/
theorem Sound.key?_enter {k : KeyedLock κ τ} (h : k.Sound) (key : κ) (t : τ) {p : Nat}
    (busy : k.clients p ≠ []) : (k.enter key t).1.key? p = k.key? p := by
  rw [← h.key?_prune busy]
  cases hn : k.prune.numberOf? key with
  | some number => rw [enter_of_listed t hn, key?_modify]
  | none =>
    obtain ⟨s, hs, rfl, -, -⟩ := h.exists_of_clients_ne_nil busy
    have hskip : (k.next == s.number) = false := by
      simpa using Nat.ne_of_gt (h.slots_lt s hs)
    rw [enter_of_unlisted t hn]
    simp [key?, slot?, hskip]

end NodeSupply.KeyedLock
