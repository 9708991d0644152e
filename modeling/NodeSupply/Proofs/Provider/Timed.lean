import NodeSupply.Provider.Memory
import NodeSupply.Rest.Client

/-!
# Calls that take their time

A call may take any time, and some calls are never answered.  Whoever waits for one waits only so
long, and takes it for a failure if no answer is there by then.

## Main definitions

* `Provider.Timed` : a call waits until a time of its own, or for ever.
* `Provider.Ends` : what comes of a call that may take only so long.
* `Script` : a provider that takes any time and gives any answer.

## Main statements

* `Provider.Ends.unique` : the provider settles what comes of a call.
* `Memory.timed`, `Rest.timed`, `Script.timed` : the calls of the provider in memory, and the look
  for an instance at the service and by a script.
-/

namespace NodeSupply

namespace Provider

/-- A call waits until a time of its own, or for ever if it has none, and is finished from that time
on. -/
structure Timed (σ : Type) [Provider σ] (r : Request) : Prop where
  finished : ∀ (provider : σ) (now : Instant) (pending : Pending σ r) (time : Instant),
    due? pending = some time → time ≤ now →
      ∃ outcome after, look provider now r pending = .finished outcome after
  waiting : ∀ (provider : σ) (now : Instant) (pending : Pending σ r),
    (∀ time, due? pending = some time → now < time) → look provider now r pending = .waiting

variable {σ : Type} [Provider σ]

/-- What comes of a call that was started at some time and may take only so long: when it is over,
what it is taken for, and the provider after it.  An answer that is there when the time is up
counts. -/
inductive Ends (provider : σ) (started : Instant) (r : Request) (limit : Duration) :
    Instant → r.Outcome → σ → Prop where
  /-- It is answered. -/
  | answered {time : Instant} {outcome : r.Outcome} {after : σ}
      (due : due? (start provider started r).1 = some time) (inTime : time ≤ started + limit)
      (looked : look (start provider started r).2 (max started time) r
        (start provider started r).1 = .finished outcome after) :
      Ends provider started r limit (max started time) outcome after
  /-- It is given up. -/
  | cutOff (late : ∀ time, due? (start provider started r).1 = some time → started + limit < time) :
      Ends provider started r limit (started + limit) (.error (.timedOut r.title))
        (abandon (start provider started r).2 (start provider started r).1)

variable {provider after : σ} {started ended : Instant} {r : Request} {limit : Duration}
  {outcome : r.Outcome}

theorem Ends.started_le (h : Ends provider started r limit ended outcome after) :
    started ≤ ended := by
  cases h with
  | answered due inTime looked => exact Nat.le_max_left ..
  | cutOff late => exact Nat.le_add_right ..

theorem Ends.ended_le (h : Ends provider started r limit ended outcome after) :
    ended ≤ started + limit := by
  cases h with
  | answered due inTime looked => exact Nat.max_le.2 ⟨Nat.le_add_right .., inTime⟩
  | cutOff late => exact Nat.le_refl _

/-- The provider settles what comes of a call. -/
theorem Ends.unique (h : Ends provider started r limit ended outcome after) {ended' : Instant}
    {outcome' : r.Outcome} {after' : σ}
    (h' : Ends provider started r limit ended' outcome' after') :
    ended = ended' ∧ outcome = outcome' ∧ after = after' := by
  cases h with
  | answered due inTime looked =>
    cases h' with
    | answered due' inTime' looked' =>
      cases due.symm.trans due'
      cases looked.symm.trans looked'
      exact ⟨rfl, rfl, rfl⟩
    | cutOff late => exact absurd inTime (Nat.not_le.2 (late _ due))
  | cutOff late =>
    cases h' with
    | answered due inTime looked => exact absurd inTime (Nat.not_le.2 (late _ due))
    | cutOff late' => exact ⟨rfl, rfl, rfl⟩

end Provider

/-! ### Providers whose calls take their time -/

/-- Every call of the provider in memory ends at its time. -/
theorem Memory.timed (r : Request) : Provider.Timed Memory r where
  finished m now pending time due passed := by
    obtain rfl : pending.due = time := Option.some.inj due
    change ∃ outcome after, Memory.look m now r pending = .finished outcome after
    rw [Memory.look, if_neg (Nat.not_lt.2 passed)]
    cases pending.failure with
    | none => exact ⟨_, _, rfl⟩
    | some e => exact ⟨_, _, rfl⟩
  waiting m now pending early := by
    change Memory.look m now r pending = .waiting
    rw [Memory.look, if_pos (early _ rfl)]

/-- The service is asked once for an instance, and what it answers is the end of the call. -/
theorem Rest.timed (id : NodeGroupId) : Provider.Timed Rest (.instanceOf id) where
  finished s now pending time due passed := by
    match pending with
    | .reading x () =>
      obtain rfl : x.due = time := Option.some.inj due
      change ∃ outcome after, Rest.look s now _ (.reading x ()) = .finished outcome after
      rw [Rest.look, if_neg (Nat.not_lt.2 passed)]
      exact ⟨_, _, rfl⟩
  waiting s now pending early := by
    match pending with
    | .reading x () =>
      change Rest.look s now _ (.reading x ()) = .waiting
      rw [Rest.look, if_pos (early _ rfl)]

/-- A provider that answers looks for instances by a script, and no other call. -/
structure Script where
  /-- How long each look takes, if it is answered at all, and its answer. -/
  looks : Nat → Option Duration × Except ProviderError (Option String)
  /-- The number of looks so far. -/
  count : Nat

namespace Script

/-- Starts a call: when it is answered, if at all, is settled now. -/
def start (s : Script) (now : Instant) :
    (r : Request) → (Option Instant × r.Outcome) × Script
  | .instanceOf _ =>
    (((s.looks s.count).1.map (now + ·), (s.looks s.count).2), { s with count := s.count + 1 })
  | _ => ((none, .error (.transport "")), s)

instance : Provider Script where
  Pending r := Option Instant × r.Outcome
  start := start
  look s now _ pending := if pending.1.any (· ≤ now) then .finished pending.2 s else .waiting
  due? pending := pending.1
  abandon s _ := s

/-- Every call ends at the time of the script. -/
theorem timed (r : Request) : Provider.Timed Script r where
  finished s now pending time due passed := by
    have hdue : pending.1.any (· ≤ now) = true := by
      change pending.1 = some time at due
      simpa [due] using passed
    exact ⟨_, _, if_pos hdue⟩
  waiting s now pending early := by
    refine if_neg fun hpassed => ?_
    obtain ⟨time, hdue, htime⟩ := (Option.any_eq_true _ _).1 hpassed
    exact Nat.not_le.2 (early time hdue) (of_decide_eq_true htime)

/-- A look for an instance that is answered in time. -/
theorem ends_of_looks {s : Script} {id : NodeGroupId} {started time : Instant} {limit : Duration}
    {outcome : Except ProviderError (Option String)} (later : started ≤ time)
    (looks : s.looks s.count = (some (time - started), outcome)) (inTime : time ≤ started + limit) :
    Provider.Ends s started (.instanceOf id) limit time outcome
      { s with count := s.count + 1 } := by
  have hdue : Provider.due? (Provider.start s started (.instanceOf id)).1 = some time := by
    change (s.looks s.count).1.map (started + ·) = some time
    rw [looks, Option.map_some, Nat.add_sub_cancel' later]
  have hpending : (Provider.start s started (.instanceOf id)).1 = (some time, outcome) := by
    refine Prod.ext hdue ?_
    change (s.looks s.count).2 = outcome
    rw [looks]
  have hlooked : Provider.look (Provider.start s started (.instanceOf id)).2 (max started time)
      (.instanceOf id) (Provider.start s started (.instanceOf id)).1 =
        .finished outcome { s with count := s.count + 1 } := by
    rw [hpending]
    exact if_pos (decide_eq_true (Nat.le_max_right ..))
  have hends := Provider.Ends.answered hdue inTime hlooked
  rwa [Nat.max_eq_right later] at hends

end Script

end NodeSupply
