import NodeSupply.Proofs.Provider.Timed
import NodeSupply.Proofs.Session.Move
import NodeSupply.Session.Run

/-!
# A task on its own

Tasks that run together are looked at in rounds, and the clock is set on when none of them can take
a step.  A task that runs on its own waits in no other way: it begins to wait, the clock is set to
the time at which it gets what it waits for, and it goes on.  Here looks and rounds are done away
with once.

## Main definitions

* `Session.Leads` : running a task on its own leads from one session to another.
* `Session.Over` : a task is over.
* `Session.Gets` : a task gets what it waits for at some time.

## Main statements

* `Session.leads_of_ready`, `Session.Gets.leads` : how a task begins and goes on.
* `Session.gets_pause`, `Session.exists_gets_call` : what it gets from a pause and from a call.
* `Session.Leads.exists_runTasks` : running a task comes to where it is over.
-/

namespace NodeSupply.Session

variable {σ : Type} [Provider σ] {s s' s'' : Session σ} {number : Nat}

/-! ### Running a task on its own -/

/-- Running a task on its own leads from one session to another after some looks, whether or not it
took a step in this round before. -/
def Leads (number : Nat) (s s' : Session σ) : Prop :=
  ∀ moved, ∃ looks moved', ∀ fuel,
    s.runTasks (fuel + looks) [number] [number] moved = s'.runTasks fuel [number] [number] moved'

theorem Leads.refl (number : Nat) (s : Session σ) : Leads number s s :=
  fun moved => ⟨0, moved, fun _ => rfl⟩

theorem Leads.trans (h : Leads number s s') (h' : Leads number s' s'') : Leads number s s'' := by
  intro moved
  obtain ⟨looks, moved', hlooks⟩ := h moved
  obtain ⟨looks', moved'', hlooks'⟩ := h' moved'
  refine ⟨looks' + looks, moved'', fun fuel => ?_⟩
  rw [← Nat.add_assoc, hlooks, hlooks']

theorem leads_of_step? (h : s.step? number = some s') : Leads number s s' := by
  intro moved
  refine ⟨1, true, fun fuel => ?_⟩
  rw [runTasks, h]

/-- A round in which the task takes no step. -/
theorem runTasks_round_of_step?_none (h : s.step? number = none) (fuel : Nat) (moved : Bool) :
    s.runTasks (fuel + 1) [number] [number] moved = s.runTasks fuel [number] [] moved := by
  rw [runTasks, h]

/-- One more round shows that the task takes no step. -/
theorem exists_runTasks_of_step?_none (h : s.step? number = none) (moved : Bool) :
    ∃ looks, ∀ fuel, s.runTasks (fuel + looks) [number] [number] moved =
      s.runTasks fuel [number] [] false := by
  cases moved with
  | false => exact ⟨1, fun fuel => runTasks_round_of_step?_none h fuel false⟩
  | true =>
    refine ⟨3, fun fuel => ?_⟩
    rw [runTasks_round_of_step?_none h (fuel + 2), runTasks, if_pos rfl,
      runTasks_round_of_step?_none h]

/-- If the task only waits for time to pass, the clock is set on. -/
theorem leads_of_due? {time : Instant} (h : s.step? number = none)
    (due : s.due? number = some time) (later : s.now ≤ time) :
    Leads number s { s with now := time } := by
  intro moved
  obtain ⟨looks, hlooks⟩ := exists_runTasks_of_step?_none h moved
  refine ⟨1 + looks, false, fun fuel => ?_⟩
  have hclock : max s.now time = time := Nat.max_eq_right later
  rw [← Nat.add_assoc, hlooks, runTasks, if_neg Bool.false_ne_true]
  simp only [List.map_cons, List.map_nil, List.foldl_cons, List.foldl_nil, due, earlier, hclock]

/-- The task of a number takes no step any more, and waits for nothing. -/
def Over (s : Session σ) (number : Nat) : Prop := s.step? number = none ∧ s.due? number = none

theorem over_of_finished {j : Job} {cancelAt : Option Instant} {result : j.Result}
    (task : s.tasks.get? number = some ⟨j, cancelAt, .finished result⟩) : s.Over number := by
  refine ⟨?_, ?_⟩
  · rw [step?, task]
  · rw [due?, task]

theorem over_of_crashed {j : Job} {cancelAt : Option Instant}
    (task : s.tasks.get? number = some ⟨j, cancelAt, .crashed⟩) : s.Over number := by
  refine ⟨?_, ?_⟩
  · rw [step?, task]
  · rw [due?, task]

/-- Running a task comes to a session in which the task is over, and stays there. -/
theorem Leads.exists_runTasks (h : Leads number s s') (hover : s'.Over number) :
    ∃ looks, ∀ fuel, s.runTasks (fuel + looks) [number] [number] false = s' := by
  obtain ⟨hstep, hdue⟩ := hover
  obtain ⟨looks, moved, hlooks⟩ := h false
  obtain ⟨looks', hlooks'⟩ := exists_runTasks_of_step?_none hstep moved
  refine ⟨1 + looks' + looks, fun fuel => ?_⟩
  rw [← Nat.add_assoc, hlooks, ← Nat.add_assoc, hlooks', runTasks, if_neg Bool.false_ne_true]
  simp only [List.map_cons, List.map_nil, List.foldl_cons, List.foldl_nil, hdue, earlier]

/-! ### Beginning and going on -/

/-- A task begins as its job says. -/
theorem leads_of_ready {j : Job} {cancelAt : Option Instant} {next : Next j.Point j.Result}
    {cache : VerdictCache} (task : s.tasks.get? number = some ⟨j, cancelAt, .ready⟩)
    (started : j.start (s.setup.brief number) s.now (s.desk j.worker).cache = (next, cache)) :
    Leads number s ((s.keepCache j.worker cache).proceed number j cancelAt none next) :=
  leads_of_step? (step?_of_ready task started)

/-- A task gets what it waits for at some time: it is there by then, and only time is needed for
it to come. -/
structure Gets (s : Session σ) (w : Worker) (number : Nat) {a : Await} (hold : Hold σ a)
    (time : Instant) (answer : a.Answer) (provider : σ) : Prop where
  now_le : s.now ≤ time
  waits : s.now < time → s.look w number a hold = .waiting ∧ hold.due? = some time
  looked : { s with now := time }.look w number a hold = .finished answer provider

/-- A task that nobody gives up goes on as its job says when it gets what it waits for. -/
theorem Gets.leads {j : Job} {point : j.Point} {hold : Hold σ (j.awaits point)}
    {slot : Option Nat} {time : Instant} {answer : (j.awaits point).Answer} {provider : σ}
    {next : Next j.Point j.Result} {cache : VerdictCache}
    (gets : s.Gets j.worker number hold time answer provider)
    (task : s.tasks.get? number = some ⟨j, none, .waiting point hold slot⟩)
    (resumed : j.resume (s.setup.brief number) time (s.desk j.worker).cache point answer =
      (next, cache)) :
    Leads number s
      (({ s with now := time, provider }.keepCache j.worker cache).proceed number j none slot
        next) := by
  have harrive : Leads number { s with now := time }
      (({ s with now := time, provider }.keepCache j.worker cache).proceed number j none slot
        next) := by
    have hdesk : ({ s with now := time } : Session σ).desk j.worker = s.desk j.worker := by
      cases j.worker <;> rfl
    refine leads_of_step? (step?_of_look task gets.looked ?_)
    rw [hdesk]
    exact resumed
  rcases Nat.eq_or_lt_of_le gets.now_le with hnow | hlater
  · rwa [← hnow] at harrive ⊢
  · obtain ⟨hwaits, hdue⟩ := gets.waits hlater
    have hstep : s.step? number = none := by
      simp only [step?, task, hwaits]
      rfl
    have hnext : s.due? number = some time := by
      simp only [due?, task, hdue, earlier]
    exact (leads_of_due? hstep hnext gets.now_le).trans harrive

/-- A pause is over at its time. -/
theorem gets_pause (w : Worker) (number : Nat) {d : Duration} {until_ : Instant}
    (later : s.now ≤ until_) :
    s.Gets w number (.pause until_ : Hold σ (.pause d)) until_ () s.provider where
  now_le := later
  waits early := ⟨by rw [look, if_neg (Nat.not_le.2 early)], rfl⟩
  looked := by rw [look, if_pos (Nat.le_refl _)]

section

variable (w : Worker) (number : Nat) {r : Request} {limit : Limit}
  {pending : Provider.Pending σ r} {deadline : Instant}

theorem look_call_of_waiting (looked : Provider.look s.provider s.now r pending = .waiting)
    (early : s.now < deadline) :
    s.look w number (.call r limit) (.call pending (some deadline)) = .waiting := by
  have hopen : ¬ (some deadline).any (· ≤ s.now) = true := by
    simpa using early
  rw [look, looked]
  exact if_neg hopen

theorem look_call_of_late (looked : Provider.look s.provider s.now r pending = .waiting)
    (late : deadline ≤ s.now) :
    s.look w number (.call r limit) (.call pending (some deadline)) =
      .finished (.error (.timedOut r.title)) (Provider.abandon s.provider pending) := by
  have hclosed : (some deadline).any (· ≤ s.now) = true := by
    simpa using late
  rw [look, looked]
  exact if_pos hclosed

/-- A call that is answered when its time is up, or before, is waited for until it is answered. -/
theorem gets_call_of_due (timed : Provider.Timed σ r) {time : Instant} {outcome : r.Outcome}
    {after : σ} (due : Provider.due? pending = some time) (inTime : time ≤ deadline)
    (looked : Provider.look s.provider (max s.now time) r pending = .finished outcome after) :
    s.Gets w number (.call pending (some deadline) : Hold σ (.call r limit)) (max s.now time)
      outcome after where
  now_le := Nat.le_max_left ..
  waits hlater := by
    have hnow : s.now < time := Nat.lt_of_not_le fun h => by
      rw [Nat.max_eq_left h] at hlater
      exact Nat.lt_irrefl _ hlater
    have hwaits : Provider.look s.provider s.now r pending = .waiting :=
      timed.waiting s.provider s.now pending fun t ht => by
        rw [due] at ht
        rwa [← Option.some.inj ht]
    refine ⟨look_call_of_waiting w number hwaits (Nat.lt_of_lt_of_le hnow inTime), ?_⟩
    rw [Hold.due?, due, earlier, Nat.min_eq_left inTime, Nat.max_eq_right (Nat.le_of_lt hnow)]
  looked := look_call_of_finished w number _ looked

/-- A call that is not answered in time is waited for until its time is up. -/
theorem gets_call_of_late (timed : Provider.Timed σ r) (open_ : s.now ≤ deadline)
    (late : ∀ time, Provider.due? pending = some time → deadline < time) :
    s.Gets w number (.call pending (some deadline) : Hold σ (.call r limit)) deadline
      (.error (.timedOut r.title)) (Provider.abandon s.provider pending) where
  now_le := open_
  waits hlater := by
    have hwaits : Provider.look s.provider s.now r pending = .waiting :=
      timed.waiting s.provider s.now pending fun t ht => Nat.lt_trans hlater (late t ht)
    refine ⟨look_call_of_waiting w number hwaits hlater, ?_⟩
    rw [Hold.due?]
    cases hdue : Provider.due? pending with
    | none => rfl
    | some time => rw [earlier, Nat.min_eq_right (Nat.le_of_lt (late time hdue))]
  looked := look_call_of_late (s := { s with now := deadline }) w number
    (timed.waiting s.provider deadline pending late) (Nat.le_refl _)

/-- A call that was just started comes to its end. -/
theorem exists_gets_call (timed : Provider.Timed σ r) {provider : σ}
    (started : s.provider = (Provider.start provider s.now r).2) (d : Duration) :
    ∃ ended outcome after, Provider.Ends provider s.now r d ended outcome after ∧
      s.Gets w number
        (.call (Provider.start provider s.now r).1 (some (s.now + d)) : Hold σ (.call r limit))
        ended outcome after := by
  by_cases hcomes : ∃ time,
      Provider.due? (Provider.start provider s.now r).1 = some time ∧ time ≤ s.now + d
  · obtain ⟨time, hdue, hin⟩ := hcomes
    obtain ⟨outcome, after, hlook⟩ := timed.finished s.provider (max s.now time)
      (Provider.start provider s.now r).1 time hdue (Nat.le_max_right ..)
    exact ⟨_, _, _, .answered hdue hin (started ▸ hlook),
      gets_call_of_due w number timed hdue hin hlook⟩
  · have hlate : ∀ time, Provider.due? (Provider.start provider s.now r).1 = some time →
        s.now + d < time := fun time hdue => Nat.not_le.1 fun hin => hcomes ⟨time, hdue, hin⟩
    refine ⟨_, _, _, .cutOff hlate, ?_⟩
    rw [← started]
    exact gets_call_of_late w number timed (Nat.le_add_right s.now d) hlate

end

end NodeSupply.Session
