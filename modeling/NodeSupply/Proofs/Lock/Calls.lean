import NodeSupply.Proofs.Lock.Places

/-!
# Calls for keyed locks

Tasks call for the locks of keys.  A call is sent to a slot when it starts, takes the lock when its
turn comes, and ends when its holder lets go of the lock, or is given up before that.  Calls are
numbered in the order in which they start, and the steps of different calls may come in any order.
Whatever that order is, a key has one holder, its callers meet in one slot, and they are served in
the order in which they came.

## Main definitions

* `KeyedLock.Calls` : keyed locks with the calls that hold or await a key.
* `KeyedLock.Calls.Step`, `KeyedLock.Calls.Run` : the steps of calls, and what comes of them.
* `KeyedLock.Calls.Orderly` : what every step keeps.
* `KeyedLock.Calls.Fair` : what callers may rely on.

## Main statements

* `KeyedLock.Calls.Run.orderly` : calls are orderly after any run.
* `KeyedLock.Calls.Run.accounted` : what became of each call that started.
* `KeyedLock.Calls.Run.fair` : callers get what they may rely on after any run.
-/

namespace NodeSupply.KeyedLock

variable {κ : Type}

/-- Keyed locks with the calls that hold or await a key. -/
structure Calls (κ : Type) where
  /-- The locks. -/
  locks : KeyedLock κ Nat
  /-- The places of the calls that hold or await a key. -/
  place? : Nat → Option (Place κ)
  /-- The number of the next call. -/
  next : Nat

namespace Calls

/-- A step of a call. -/
inductive Event (κ : Type) where
  /-- A call for a key started. -/
  | started (number : Nat) (key : κ)
  /-- A call took the lock. -/
  | took (number : Nat) (key : κ)
  /-- A call let go of the lock. -/
  | dropped (number : Nat) (key : κ)
  /-- A call was given up before it took the lock. -/
  | gaveUp (number : Nat) (key : κ)
deriving DecidableEq

/-- The number of the call whose step it is. -/
def Event.number : Event κ → Nat
  | .started n _ => n
  | .took n _ => n
  | .dropped n _ => n
  | .gaveUp n _ => n

/-- Nobody has called yet. -/
def idle : Calls κ := ⟨.empty, fun _ => none, 0⟩

/-- With one more call, for a key. -/
def start [BEq κ] (c : Calls κ) (key : κ) : Calls κ where
  locks := (c.locks.enter key c.next).1
  place? := Function.update c.place? c.next (some ⟨(c.locks.enter key c.next).2, key, false⟩)
  next := c.next + 1

/-- With a call that holds its lock from now on. -/
def take (c : Calls κ) (number : Nat) (p : Place κ) : Calls κ :=
  { c with place? := Function.update c.place? number (some { p with holds := true }) }

/-- Without a call, which gives its place up. -/
def leave (c : Calls κ) (number : Nat) (p : Place κ) : Calls κ :=
  { c with
    locks := c.locks.leave p.slot number
    place? := Function.update c.place? number none }

/-- One step of one call. -/
inductive Step [BEq κ] (c : Calls κ) : Event κ → Calls κ → Prop
  | start (key : κ) : c.Step (.started c.next key) (c.start key)
  | take {n : Nat} {p : Place κ} (place : c.place? n = some p) (waits : p.holds = false)
      (turn : c.locks.isHeldBy p.slot n = true) : c.Step (.took n p.key) (c.take n p)
  | drop {n : Nat} {p : Place κ} (place : c.place? n = some p) (holds : p.holds = true) :
      c.Step (.dropped n p.key) (c.leave n p)
  | giveUp {n : Nat} {p : Place κ} (place : c.place? n = some p) (waits : p.holds = false) :
      c.Step (.gaveUp n p.key) (c.leave n p)

/-- What steps lead to from where nobody has called, the latest step first. -/
inductive Run [BEq κ] : List (Event κ) → Calls κ → Prop
  | idle : Run [] idle
  | step {past : List (Event κ)} {c c' : Calls κ} {e : Event κ} (run : Run past c)
      (h : c.Step e c') : Run (e :: past) c'

/-! ### What steps keep -/

/-- Calls are seated in the order of their numbers, and every slot is listed once. -/
structure Orderly (c : Calls κ) : Prop where
  seated : Seated c.locks c.place?
  lt_next : ∀ n p, c.place? n = some p → n < c.next
  ascending : ∀ q, (c.locks.clients q).Pairwise (· < ·)
  numbers : (c.locks.table.map (·.2)).Nodup

namespace Orderly

variable {c : Calls κ}

theorem idle : (idle : Calls κ).Orderly where
  seated := .empty
  lt_next := nofun
  ascending _ := .nil
  numbers := .nil

theorem lt_of_mem_clients (h : c.Orderly) {n q : Nat} (hn : n ∈ c.locks.clients q) :
    n < c.next := by
  obtain ⟨p, hp, -⟩ := (h.seated.client_iff n q).1 hn
  exact h.lt_next n p hp

theorem place?_next (h : c.Orderly) : c.place? c.next = none := by
  cases hp : c.place? c.next with
  | none => rfl
  | some p => exact absurd (h.lt_next _ _ hp) (Nat.lt_irrefl _)

/-- Another place for a call, or none, makes no call later than the last one. -/
theorem lt_next_of_update (h : c.Orderly) {n m : Nat} {p p' : Place κ} {place : Option (Place κ)}
    (hp : c.place? n = some p) (hm : Function.update c.place? n place m = some p') :
    m < c.next := by
  by_cases hmn : m = n
  · exact hmn ▸ h.lt_next n p hp
  · exact h.lt_next m p' ((Function.update_of_ne hmn _ _).symm.trans hm)

theorem start [BEq κ] [LawfulBEq κ] (h : c.Orderly) (key : κ) : (c.start key).Orderly where
  seated := h.seated.enter h.place?_next key
  lt_next n p hp := by
    by_cases hn : n = c.next
    · exact hn ▸ Nat.lt_succ_self _
    · exact Nat.lt_succ_of_lt (h.lt_next n p ((Function.update_of_ne hn _ _).symm.trans hp))
  ascending q := by
    simp only [Calls.start, h.seated.sound.clients_enter]
    split
    next =>
      refine List.pairwise_append.2 ⟨h.ascending q, List.pairwise_singleton .., fun n hn m hm => ?_⟩
      exact List.mem_singleton.1 hm ▸ h.lt_of_mem_clients hn
    next => exact h.ascending q
  numbers := h.seated.sound.nodup_numbers_enter h.numbers key c.next

theorem take (h : c.Orderly) {n : Nat} {p : Place κ} (place : c.place? n = some p)
    (turn : c.locks.isHeldBy p.slot n = true) : (c.take n p).Orderly where
  seated := h.seated.hold place (isHeldBy_iff.1 turn) true
  lt_next _ _ := h.lt_next_of_update place
  ascending := h.ascending
  numbers := h.numbers

theorem leave (h : c.Orderly) {n : Nat} {p : Place κ} (place : c.place? n = some p) :
    (c.leave n p).Orderly where
  seated := h.seated.leave place
  lt_next _ _ := h.lt_next_of_update place
  ascending q := by
    simp only [Calls.leave, h.seated.sound.clients_leave]
    split
    next => exact (h.ascending q).sublist List.erase_sublist
    next => exact h.ascending q
  numbers := h.numbers

end Orderly

/-- Every step keeps calls orderly. -/
theorem Step.orderly [BEq κ] [LawfulBEq κ] {c c' : Calls κ} {e : Event κ} (h : c.Step e c')
    (orderly : c.Orderly) : c'.Orderly := by
  cases h with
  | start key => exact orderly.start key
  | take place waits turn => exact orderly.take place turn
  | drop place holds => exact orderly.leave place
  | giveUp place waits => exact orderly.leave place

/-- Calls are orderly after any run. -/
theorem Run.orderly [BEq κ] [LawfulBEq κ] {past : List (Event κ)} {c : Calls κ}
    (run : Run past c) : c.Orderly := by
  induction run with
  | idle => exact .idle
  | step _ h ih => exact h.orderly ih

/-! ### Callers -/

/-- What refers to a slot: entries of the table, and each call with a place in it. -/
def references (c : Calls κ) (slot : Nat) : Nat :=
  (c.locks.table.map (·.2)).count slot +
    ((List.range c.next).filter fun n => (c.place? n).any (·.slot == slot)).length

namespace Orderly

variable {c : Calls κ}

/-- The slot of a call is listed under its key. -/
theorem mem_table (h : c.Orderly) {n : Nat} {p : Place κ} (hp : c.place? n = some p) :
    (p.key, p.slot) ∈ c.locks.table :=
  h.seated.sound.mem_table (h.seated.clients_ne_nil hp) (h.seated.key n p hp)

/-- A slot that is listed under a key and has clients has calls for the key. -/
theorem exists_place (h : c.Orderly) {e : κ × Nat} (listed : e ∈ c.locks.table)
    (busy : c.locks.clients e.2 ≠ []) :
    ∃ n p, c.place? n = some p ∧ p.slot = e.2 ∧ p.key = e.1 := by
  obtain ⟨n, hn⟩ := List.exists_mem_of_ne_nil _ busy
  obtain ⟨p, hp, hslot⟩ := (h.seated.client_iff n e.2).1 hn
  have hkey := h.seated.sound.key?_of_mem_table listed busy
  rw [← hslot, h.seated.key n p hp] at hkey
  exact ⟨n, p, hp, hslot, Option.some.inj hkey⟩

/-- Whoever has the turn came before everybody else with a place for the key. -/
theorem le_of_turn (h : c.Orderly) {n m : Nat} {p q : Place κ} (hp : c.place? n = some p)
    (turn : c.locks.isHeldBy p.slot n = true) (hq : c.place? m = some q) (key : q.key = p.key) :
    n ≤ m := by
  have hm : m ∈ c.locks.clients p.slot :=
    (h.seated.client_iff m _).2 ⟨q, hq, h.seated.slot_eq hq hp key⟩
  obtain ⟨rest, hrest⟩ := List.head?_eq_some_iff.1 (isHeldBy_iff.1 turn)
  have hsorted := h.ascending p.slot
  rw [hrest] at hm hsorted
  rcases List.mem_cons.1 hm with rfl | hm
  · exact Nat.le_refl _
  · exact Nat.le_of_lt ((List.pairwise_cons.1 hsorted).1 m hm)

/-- The active keys are those that calls hold or await. -/
theorem exists_keys (h : c.Orderly) : ∃ keys : List κ, keys.Nodup ∧
    (∀ key, key ∈ keys ↔ ∃ n p, c.place? n = some p ∧ p.key = key) ∧
      c.locks.activeKeys = keys.length := by
  refine ⟨(c.locks.table.filter fun e => c.locks.isActive e.2).map (·.1),
    h.seated.sound.keys.sublist (List.filter_sublist.map _), fun key => ⟨fun hkey => ?_, ?_⟩,
    by rw [List.length_map]; rfl⟩
  · obtain ⟨e, he, rfl⟩ := List.mem_map.1 hkey
    obtain ⟨hlisted, hactive⟩ := List.mem_filter.1 he
    obtain ⟨n, p, hp, -, hkey⟩ := h.exists_place hlisted (isActive_iff.1 hactive)
    exact ⟨n, p, hp, hkey⟩
  · rintro ⟨n, p, hp, rfl⟩
    have hactive := isActive_iff.2 (h.seated.clients_ne_nil hp)
    exact List.mem_map.2 ⟨_, List.mem_filter.2 ⟨h.mem_table hp, hactive⟩, rfl⟩

/-- A listed slot has clients if something besides the table refers to it. -/
theorem isActive_eq (h : c.Orderly) {e : κ × Nat} (listed : e ∈ c.locks.table) :
    c.locks.isActive e.2 = decide (1 < c.references e.2) := by
  have hlisted : (c.locks.table.map (·.2)).count e.2 = 1 :=
    List.count_eq_one_of_mem h.numbers (List.mem_map.2 ⟨e, listed, rfl⟩)
  rw [Bool.eq_iff_iff, isActive_iff, decide_eq_true_iff, references, hlisted,
    Nat.lt_add_right_iff_pos, List.length_pos_iff_exists_mem]
  constructor
  · intro hbusy
    obtain ⟨n, p, hp, hslot, -⟩ := h.exists_place listed hbusy
    exact ⟨n, List.mem_filter.2 ⟨List.mem_range.2 (h.lt_next n p hp), by simp [hp, hslot]⟩⟩
  · rintro ⟨n, hn⟩
    obtain ⟨p, hp, hslot⟩ := (Option.any_eq_true ..).1 (List.mem_filter.1 hn).2
    exact beq_iff_eq.1 hslot ▸ h.seated.clients_ne_nil hp

/-- Clearing idle slots away keeps those that something besides the table refers to. -/
theorem table_prune (h : c.Orderly) :
    c.locks.prune.table = c.locks.table.filter fun e => 1 < c.references e.2 :=
  List.filter_congr fun _ he => h.isActive_eq he

/-- Where nobody can take a lock, a key with a caller has a holder. -/
theorem exists_holder [BEq κ] (h : c.Orderly)
    (settled : ∀ n key c', ¬ c.Step (.took n key) c') {n : Nat} {p : Place κ}
    (hp : c.place? n = some p) :
    ∃ m q, c.place? m = some q ∧ q.key = p.key ∧ q.holds = true := by
  have hbusy := h.seated.clients_ne_nil hp
  obtain ⟨m, rest, hrest⟩ := List.exists_cons_of_ne_nil hbusy
  have hfirst : (c.locks.clients p.slot).head? = some m := by rw [hrest, List.head?_cons]
  obtain ⟨q, hq, hslot⟩ := (h.seated.client_iff m p.slot).1 (hrest ▸ List.mem_cons_self)
  have hkey := h.seated.key m q hq
  rw [hslot, h.seated.key n p hp] at hkey
  refine ⟨m, q, hq, (Option.some.inj hkey).symm, ?_⟩
  cases hholds : q.holds with
  | true => rfl
  | false =>
    exact absurd (.take hq hholds (isHeldBy_iff.2 (hslot ▸ hfirst))) (settled m q.key _)

end Orderly

/-! ### Fairness -/

variable [BEq κ]

/-- A step changes the place of no other call. -/
theorem Step.place?_of_ne {c c' : Calls κ} {e : Event κ} (h : c.Step e c') {n : Nat}
    (hn : n ≠ e.number) : c'.place? n = c.place? n := by
  cases h <;> exact Function.update_of_ne hn _ _

/-- What a step does to a call that waits: it takes the lock, is given up, or waits on. -/
theorem Step.of_waits {c c' : Calls κ} {e : Event κ} (h : c.Step e c') (orderly : c.Orderly)
    {n : Nat} {p : Place κ} (hp : c.place? n = some p) (waits : p.holds = false) :
    e = .took n p.key ∨ e = .gaveUp n p.key ∨ c'.place? n = some p := by
  by_cases hn : n = e.number
  · subst hn
    cases h with
    | start key => cases orderly.place?_next.symm.trans hp
    | take place _ turn =>
      cases place.symm.trans hp
      exact .inl rfl
    | drop place holds =>
      cases place.symm.trans hp
      cases waits.symm.trans holds
    | giveUp place _ =>
      cases place.symm.trans hp
      exact .inr (.inl rfl)
  · exact .inr (.inr ((h.place?_of_ne hn).trans hp))

variable [LawfulBEq κ]

/-- A call that started took the lock, or was given up before, or waits. -/
theorem Run.accounted {past : List (Event κ)} {c : Calls κ} (run : Run past c) {n : Nat} {key : κ}
    (started : .started n key ∈ past) : .took n key ∈ past ∨ .gaveUp n key ∈ past ∨
      ∃ p, c.place? n = some p ∧ p.key = key ∧ p.holds = false := by
  induction run with
  | idle => cases started
  | step run h ih =>
    rcases List.mem_cons.1 started with rfl | started
    · cases h
      exact .inr (.inr ⟨_, Function.update_self .., rfl, rfl⟩)
    · rcases ih started with htook | hgaveUp | ⟨p, hp, rfl, waits⟩
      · exact .inl (List.mem_cons_of_mem _ htook)
      · exact .inr (.inl (List.mem_cons_of_mem _ hgaveUp))
      · rcases h.of_waits run.orderly hp waits with rfl | rfl | hp'
        · exact .inl List.mem_cons_self
        · exact .inr (.inl List.mem_cons_self)
        · exact .inr (.inr ⟨p, hp', rfl, waits⟩)

/-- What callers may rely on. -/
structure Fair (past : List (Event κ)) (c : Calls κ) : Prop where
  /-- A key has one holder. -/
  exclusive : ∀ n m p q, c.place? n = some p → c.place? m = some q → p.key = q.key →
    p.holds = true → q.holds = true → n = m
  /-- Whoever holds or awaits a key is a client of the one slot that the table has for it. -/
  together : ∀ n p, c.place? n = some p →
    c.locks.numberOf? p.key = some p.slot ∧ n ∈ c.locks.clients p.slot
  /-- Slots are cleared away where nothing but the table refers to them. -/
  cleared : c.locks.prune.table = c.locks.table.filter fun e => 1 < c.references e.2
  /-- Where nobody can take a lock, a key with a caller has a holder. -/
  granted : (∀ n key c', ¬ c.Step (.took n key) c') → ∀ n p, c.place? n = some p →
    ∃ m q, c.place? m = some q ∧ q.key = p.key ∧ q.holds = true
  /-- Whoever takes a lock was preceded by all that came before and were not given up. -/
  in_order : ∀ n key c', c.Step (.took n key) c' → ∀ m < n, .started m key ∈ past →
    .took m key ∈ past ∨ .gaveUp m key ∈ past
  /-- The active keys are the different keys that calls hold or await. -/
  counted : ∃ keys : List κ, keys.Nodup ∧
    (∀ key, key ∈ keys ↔ ∃ n p, c.place? n = some p ∧ p.key = key) ∧
      c.locks.activeKeys = keys.length
  /-- Right after a call has started, every slot in the table is held or awaited. -/
  swept : ∀ n key c', c.Step (.started n key) c' → ∀ e ∈ c'.locks.table,
    ∃ m p, c'.place? m = some p ∧ p.slot = e.2 ∧ p.key = e.1

/-- Callers get what they may rely on after any run. -/
theorem Run.fair {past : List (Event κ)} {c : Calls κ} (run : Run past c) : c.Fair past where
  exclusive _ _ _ _ hp hq key pholds qholds :=
    run.orderly.seated.eq_of_holds hp hq key pholds qholds
  together n p hp :=
    ⟨run.orderly.seated.sound.numberOf?_of_mem_table (run.orderly.mem_table hp),
      (run.orderly.seated.client_iff n _).2 ⟨p, hp, rfl⟩⟩
  cleared := run.orderly.table_prune
  granted settled _ _ hp := run.orderly.exists_holder settled hp
  in_order n key c' h m hm started := by
    cases h with
    | @take n p place waits turn =>
      rcases run.accounted started with htook | hgaveUp | ⟨q, hq, hkey, -⟩
      · exact .inl htook
      · exact .inr hgaveUp
      · exact absurd (run.orderly.le_of_turn place turn hq hkey) (Nat.not_le_of_lt hm)
  counted := run.orderly.exists_keys
  swept n key c' h e he := by
    have horderly := h.orderly run.orderly
    cases h with
    | start key =>
      exact horderly.exists_place he (run.orderly.seated.sound.clients_enter_ne_nil he)

/-- Two calls for one key and one for another: when the first lets go, the second takes over. -/
theorem fair_of_three_calls :
    ∃ c : Calls String, Run [.dropped 0 "a", .took 2 "b", .took 0 "a", .started 2 "b",
        .started 1 "a", .started 0 "a"] c ∧
      c.Fair [.dropped 0 "a", .took 2 "b", .took 0 "a", .started 2 "b", .started 1 "a",
        .started 0 "a"] ∧
      c.locks.activeKeys = 2 ∧ ∃ c', c.Step (.took 1 "a") c' := by
  have h := ((Run.idle.step (.start "a")).step (.start "a")).step (.start "b")
  have h := h.step (.take (n := 0) (p := ⟨0, "a", false⟩) rfl rfl rfl)
  have h := h.step (.take (n := 2) (p := ⟨1, "b", false⟩) rfl rfl rfl)
  have h := h.step (.drop (n := 0) (p := ⟨0, "a", true⟩) rfl rfl)
  exact ⟨_, h, h.fair, rfl, _, .take (n := 1) (p := ⟨0, "a", false⟩) rfl rfl rfl⟩

end Calls

end NodeSupply.KeyedLock
