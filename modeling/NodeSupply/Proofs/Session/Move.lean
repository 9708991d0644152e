import NodeSupply.Proofs.Sorted
import NodeSupply.Session.Basic

/-!
# Moves of a session

A session goes on by moves: a job is submitted, a task takes a step or is given up, time passes, or
somebody else changes the provider.  Here it is said once what each of them can do to the tasks and
to the provider; later proofs rest on that and not on how a step is taken.

## Main definitions

* `Session.Surroundings` : what may come from outside.
* `Session.Move` : one move.
* `Session.Took` : all that a step of a task can be.
* `Session.standing?` : the point that a task waits at, or the result that it has.
* `Session.Arrives`, `Session.Effect` : what a move does.

## Main statements

* `Session.Move.effect` : one task goes on by a step of its own, or none does.
* `Session.Move.job?`, `Session.Move.standing?_done` : jobs and results stay.
-/

namespace NodeSupply.Session

variable {σ : Type} [Provider σ]

/-! ### Moves -/

/-- What may come from outside of a session: jobs, and changes of the provider. -/
structure Surroundings (σ : Type) where
  /-- The jobs that may be submitted. -/
  asks : Job → Prop
  /-- The changes that others may make to the provider. -/
  changes : σ → σ → Prop

/-- What made a session go on. -/
inductive Cause where
  /-- A job was submitted and became the task of a number. -/
  | submitted (number : Nat)
  /-- A task took a step. -/
  | stepped (number : Nat)
  /-- A task was given up. -/
  | cancelled (number : Nat)
  /-- Time passed. -/
  | passed
  /-- Somebody else changed the provider. -/
  | meddled
deriving Repr, DecidableEq

/-- One way for a session to go on. -/
inductive Move (w : Surroundings σ) (s : Session σ) : Cause → Session σ → Prop where
  | submit {j : Job} (cancelAfter : Option Duration) (asked : w.asks j) :
      Move w s (.submitted s.next) (s.submit j cancelAfter).2
  | step {number : Nat} {s' : Session σ} (taken : s.step? number = some s') :
      Move w s (.stepped number) s'
  | cancel (number : Nat) : Move w s (.cancelled number) (s.cancel number)
  | pass (d : Duration) : Move w s .passed (s.advance d)
  | meddle {provider : σ} (changed : w.changes s.provider provider) :
      Move w s .meddled { s with provider }

/-! ### Desks -/

@[simp] theorem desk_modifyDesk (s : Session σ) (f : Desk → Desk) (w w' : Worker) :
    (s.modifyDesk f w').desk w = if w = w' then f (s.desk w) else s.desk w := by
  cases w <;> cases w' <;> rfl

@[simp] theorem tasks_modifyDesk (s : Session σ) (f : Desk → Desk) (w : Worker) :
    (s.modifyDesk f w).tasks = s.tasks := by cases w <;> rfl

@[simp] theorem provider_modifyDesk (s : Session σ) (f : Desk → Desk) (w : Worker) :
    (s.modifyDesk f w).provider = s.provider := by cases w <;> rfl

@[simp] theorem setup_modifyDesk (s : Session σ) (f : Desk → Desk) (w : Worker) :
    (s.modifyDesk f w).setup = s.setup := by cases w <;> rfl

@[simp] theorem now_modifyDesk (s : Session σ) (f : Desk → Desk) (w : Worker) :
    (s.modifyDesk f w).now = s.now := by cases w <;> rfl

@[simp] theorem next_modifyDesk (s : Session σ) (f : Desk → Desk) (w : Worker) :
    (s.modifyDesk f w).next = s.next := by cases w <;> rfl

@[simp] theorem desk_setTask (s : Session σ) (number : Nat) (t : Task σ) (w : Worker) :
    (s.setTask number t).desk w = s.desk w := by cases w <;> rfl

@[simp] theorem desk_withProvider (s : Session σ) (provider : σ) (w : Worker) :
    { s with provider }.desk w = s.desk w := by cases w <;> rfl

theorem get?_tasks_setTask_self (s : Session σ) (number : Nat) (t : Task σ) :
    (s.setTask number t).tasks.get? number = some t := SortedMap.get?_insert_self ..

theorem get?_tasks_setTask_of_ne (s : Session σ) {number k : Nat} (t : Task σ) (h : k ≠ number) :
    (s.setTask number t).tasks.get? k = s.tasks.get? k := SortedMap.get?_insert_of_ne _ _ h

theorem get?_tasks_submit_self (s : Session σ) (j : Job) (cancelAfter : Option Duration) :
    (s.submit j cancelAfter).2.tasks.get? s.next =
      some ⟨j, cancelAfter.map (s.now + ·), .ready⟩ := SortedMap.get?_insert_self ..

theorem get?_tasks_submit_of_ne (s : Session σ) (j : Job) (cancelAfter : Option Duration) {k : Nat}
    (h : k ≠ s.next) : (s.submit j cancelAfter).2.tasks.get? k = s.tasks.get? k :=
  SortedMap.get?_insert_of_ne _ _ h

/-! ### Leaving and waiting -/

@[simp] theorem tasks_leave (s : Session σ) (w : Worker) (number : Nat) (slot : Option Nat) :
    (s.leave w number slot).tasks = s.tasks := by
  cases slot <;> simp [leave]

@[simp] theorem provider_leave (s : Session σ) (w : Worker) (number : Nat) (slot : Option Nat) :
    (s.leave w number slot).provider = s.provider := by
  cases slot <;> simp [leave]

@[simp] theorem setup_leave (s : Session σ) (w : Worker) (number : Nat) (slot : Option Nat) :
    (s.leave w number slot).setup = s.setup := by
  cases slot <;> simp [leave]

@[simp] theorem now_leave (s : Session σ) (w : Worker) (number : Nat) (slot : Option Nat) :
    (s.leave w number slot).now = s.now := by
  cases slot <;> simp [leave]

@[simp] theorem next_leave (s : Session σ) (w : Worker) (number : Nat) (slot : Option Nat) :
    (s.leave w number slot).next = s.next := by
  cases slot <;> simp [leave]

@[simp] theorem tasks_beginWait (s : Session σ) (w : Worker) (number : Nat) (slot : Option Nat)
    (a : Await) : (s.beginWait w number slot a).2.2.tasks = s.tasks := by
  cases a <;> simp [beginWait]

@[simp] theorem setup_beginWait (s : Session σ) (w : Worker) (number : Nat) (slot : Option Nat)
    (a : Await) : (s.beginWait w number slot a).2.2.setup = s.setup := by
  cases a <;> simp [beginWait]

@[simp] theorem now_beginWait (s : Session σ) (w : Worker) (number : Nat) (slot : Option Nat)
    (a : Await) : (s.beginWait w number slot a).2.2.now = s.now := by
  cases a <;> simp [beginWait]

@[simp] theorem next_beginWait (s : Session σ) (w : Worker) (number : Nat) (slot : Option Nat)
    (a : Await) : (s.beginWait w number slot a).2.2.next = s.next := by
  cases a <;> simp [beginWait]

/-- The provider once a task has begun to wait: it has been told of a call. -/
def told (provider : σ) (now : Instant) : Await → σ
  | .call r _ => (Provider.start provider now r).2
  | .turn _ => provider
  | .pause _ => provider

@[simp] theorem provider_beginWait (s : Session σ) (w : Worker) (number : Nat) (slot : Option Nat)
    (a : Await) : (s.beginWait w number slot a).2.2.provider = told s.provider s.now a := by
  cases a <;> simp [beginWait, told]

/-- A task that goes on to a point gives its place at a lock up, unless it holds the lock there, and
begins to wait. -/
theorem proceed_goOn (s : Session σ) (number : Nat) (j : Job) (cancelAt : Option Instant)
    (slot : Option Nat) (point : j.Point) :
    ∃ s₁ slot₁, ((j.guards point).isSome = true ∧ s₁ = s ∧ slot₁ = slot ∨
        (j.guards point).isSome = false ∧ s₁ = s.leave j.worker number slot ∧ slot₁ = none) ∧
      s.proceed number j cancelAt slot (.goOn point) =
        (s₁.beginWait j.worker number slot₁ (j.awaits point)).2.2.setTask number
          ⟨j, cancelAt, .waiting point (s₁.beginWait j.worker number slot₁ (j.awaits point)).1
            (s₁.beginWait j.worker number slot₁ (j.awaits point)).2.1⟩ := by
  cases h : (j.guards point).isSome with
  | true => exact ⟨_, _, .inl ⟨rfl, rfl, rfl⟩, by simp only [proceed, h, if_true]⟩
  | false =>
    exact ⟨_, _, .inr ⟨rfl, rfl, rfl⟩, by simp only [proceed, h, Bool.false_eq_true, if_false]⟩

/-! ### Standings -/

/-- A job with the point that it waits at, or with its end. -/
structure Standing where
  /-- The job. -/
  job : Job
  /-- The point, or the end. -/
  next : Next job.Point job.Result

/-- How far a task has come: nothing is known of one that has not begun or was given up. -/
def Task.standing? (t : Task σ) : Option Standing :=
  match t.state with
  | .waiting point _ _ => some ⟨t.job, .goOn point⟩
  | .finished result => some ⟨t.job, .done result⟩
  | .crashed => some ⟨t.job, .crash⟩
  | .ready | .cancelled => none

/-- How far the task of a number has come. -/
def standing? (s : Session σ) (number : Nat) : Option Standing :=
  (s.tasks.get? number).bind Task.standing?

theorem standing?_of_get? {s : Session σ} {number : Nat} {j : Job} {cancelAt : Option Instant}
    {point : j.Point} {hold : Hold σ (j.awaits point)} {slot : Option Nat}
    (task : s.tasks.get? number = some ⟨j, cancelAt, .waiting point hold slot⟩) :
    s.standing? number = some ⟨j, .goOn point⟩ := by
  rw [standing?, task]
  rfl

theorem exists_get?_of_standing? {s : Session σ} {number : Nat} {j : Job} {point : j.Point}
    (h : s.standing? number = some ⟨j, .goOn point⟩) :
    ∃ cancelAt hold slot, s.tasks.get? number = some ⟨j, cancelAt, .waiting point hold slot⟩ := by
  obtain ⟨⟨j', cancelAt, state⟩, task, hstanding⟩ := Option.bind_eq_some_iff.1 h
  cases state with
  | ready => cases hstanding
  | finished result => cases hstanding
  | cancelled => cases hstanding
  | crashed => cases hstanding
  | waiting point' hold slot =>
    cases hstanding
    exact ⟨cancelAt, hold, slot, task⟩

/-- What a task waits on, if it waits. -/
def Task.hold? (t : Task σ) : Option ((a : Await) × Hold σ a) :=
  match t.state with
  | .waiting point hold _ => some ⟨t.job.awaits point, hold⟩
  | .ready | .finished _ | .cancelled | .crashed => none

/-- What the task of a number waits on, if it waits. -/
def hold? (s : Session σ) (number : Nat) : Option ((a : Await) × Hold σ a) :=
  (s.tasks.get? number).bind Task.hold?

theorem hold?_of_get? {s : Session σ} {number : Nat} {j : Job} {cancelAt : Option Instant}
    {point : j.Point} {hold : Hold σ (j.awaits point)} {slot : Option Nat}
    (task : s.tasks.get? number = some ⟨j, cancelAt, .waiting point hold slot⟩) :
    s.hold? number = some ⟨j.awaits point, hold⟩ := by
  rw [hold?, task]
  rfl

theorem exists_get?_of_hold? {s : Session σ} {number : Nat} {x : (a : Await) × Hold σ a}
    (h : s.hold? number = some x) : ∃ (j : Job) (cancelAt : Option Instant) (point : j.Point)
      (hold : Hold σ (j.awaits point)) (slot : Option Nat),
      s.tasks.get? number = some ⟨j, cancelAt, .waiting point hold slot⟩ ∧
        x = ⟨j.awaits point, hold⟩ := by
  obtain ⟨⟨j, cancelAt, state⟩, task, hhold⟩ := Option.bind_eq_some_iff.1 h
  cases state with
  | ready => cases hhold
  | finished result => cases hhold
  | cancelled => cases hhold
  | crashed => cases hhold
  | waiting point hold slot =>
    cases hhold
    exact ⟨j, cancelAt, point, hold, slot, task, rfl⟩

theorem standing?_congr {s s' : Session σ} (h : s.tasks = s'.tasks) (k : Nat) :
    s.standing? k = s'.standing? k := by
  rw [standing?, h, standing?]

theorem standing?_setTask (s : Session σ) (number : Nat) (t : Task σ) (k : Nat) :
    (s.setTask number t).standing? k = if k = number then t.standing? else s.standing? k := by
  unfold standing?
  split
  next h => rw [h, get?_tasks_setTask_self, Option.bind_some]
  next h => rw [get?_tasks_setTask_of_ne _ _ h]

theorem standing?_proceed (s : Session σ) (number : Nat) (j : Job) (cancelAt : Option Instant)
    (slot : Option Nat) (next : Next j.Point j.Result) (k : Nat) :
    (s.proceed number j cancelAt slot next).standing? k =
      if k = number then some ⟨j, next⟩ else s.standing? k := by
  cases next with
  | done result =>
    rw [proceed, standing?_setTask, standing?_congr (tasks_leave ..)]
    rfl
  | crash =>
    rw [proceed, standing?_setTask, standing?_congr (tasks_leave ..)]
    rfl
  | goOn point =>
    obtain ⟨s₁, slot₁, hs₁, hproceed⟩ := proceed_goOn s number j cancelAt slot point
    have htasks : s₁.tasks = s.tasks := by
      rcases hs₁ with ⟨-, rfl, -⟩ | ⟨-, rfl, -⟩ <;> simp
    rw [hproceed, standing?_setTask, standing?_congr ((tasks_beginWait ..).trans htasks)]
    rfl

/-- The provider once a task has gone on. -/
def toldNext (provider : σ) (now : Instant) (j : Job) : Next j.Point j.Result → σ
  | .goOn point => told provider now (j.awaits point)
  | .done _ => provider
  | .crash => provider

theorem provider_proceed (s : Session σ) (number : Nat) (j : Job) (cancelAt : Option Instant)
    (slot : Option Nat) (next : Next j.Point j.Result) :
    (s.proceed number j cancelAt slot next).provider = toldNext s.provider s.now j next := by
  cases next with
  | done result => simp [proceed, setTask, toldNext]
  | crash => simp [proceed, setTask, toldNext]
  | goOn point =>
    obtain ⟨s₁, slot₁, hs₁, hproceed⟩ := proceed_goOn s number j cancelAt slot point
    have hfrom : s₁.provider = s.provider ∧ s₁.now = s.now := by
      rcases hs₁ with ⟨-, rfl, -⟩ | ⟨-, rfl, -⟩ <;> simp
    rw [hproceed]
    simp [setTask, toldNext, hfrom]

theorem setup_next_proceed (s : Session σ) (number : Nat) (j : Job) (cancelAt : Option Instant)
    (slot : Option Nat) (next : Next j.Point j.Result) :
    (s.proceed number j cancelAt slot next).setup = s.setup ∧
      (s.proceed number j cancelAt slot next).next = s.next := by
  cases next with
  | done result => simp [proceed, setTask]
  | crash => simp [proceed, setTask]
  | goOn point =>
    obtain ⟨s₁, slot₁, hs₁, hproceed⟩ := proceed_goOn s number j cancelAt slot point
    rw [hproceed]
    rcases hs₁ with ⟨-, rfl, -⟩ | ⟨-, rfl, -⟩ <;> simp [setTask]

/-! ### Cancelling -/

@[simp] theorem tasks_abandon (s : Session σ) {a : Await} (hold : Hold σ a) :
    (s.abandon hold).tasks = s.tasks := by cases hold <;> rfl

@[simp] theorem setup_abandon (s : Session σ) {a : Await} (hold : Hold σ a) :
    (s.abandon hold).setup = s.setup := by cases hold <;> rfl

@[simp] theorem now_abandon (s : Session σ) {a : Await} (hold : Hold σ a) :
    (s.abandon hold).now = s.now := by cases hold <;> rfl

@[simp] theorem next_abandon (s : Session σ) {a : Await} (hold : Hold σ a) :
    (s.abandon hold).next = s.next := by cases hold <;> rfl

theorem provider_abandon (s : Session σ) {a : Await} (hold : Hold σ a) :
    (s.abandon hold).provider = s.provider ∨
      ∃ (r : Request) (pending : Provider.Pending σ r),
        (s.abandon hold).provider = Provider.abandon s.provider pending := by
  cases hold with
  | call pending deadline => exact .inr ⟨_, pending, rfl⟩
  | turn slot => exact .inl rfl
  | pause until_ => exact .inl rfl

/-- A provider went on with a call while no task learned of it, or a call was given up. -/
inductive Idles (provider : σ) : σ → Prop where
  | same : Idles provider provider
  | abandoned {r : Request} (pending : Provider.Pending σ r) :
      Idles provider (Provider.abandon provider pending)
  | moved {now : Instant} {r : Request} {pending pending' : Provider.Pending σ r} {provider' : σ}
      (looked : Provider.look provider now r pending = .moved pending' provider') :
      Idles provider provider'

/-- A task stands as before, or waited and was given up. -/
def KeptOrDropped (before after : Option Standing) : Prop :=
  after = before ∨ after = none ∧ ∃ (j : Job) (point : j.Point), before = some ⟨j, .goOn point⟩

theorem KeptOrDropped.eq_some {before after : Option Standing} {x : Standing}
    (h : KeptOrDropped before after) (hx : after = some x) : before = some x := by
  rcases h with rfl | ⟨rfl, -⟩
  · exact hx
  · cases hx

theorem cancel_effect (s : Session σ) (number : Nat) :
    (∀ k, KeptOrDropped (s.standing? k) ((s.cancel number).standing? k)) ∧
      Idles s.provider (s.cancel number).provider := by
  unfold cancel
  split
  next j cancelAt task =>
    refine ⟨fun k => .inl ?_, .same⟩
    rw [standing?_setTask]
    split
    next hk => rw [hk, standing?, task]; rfl
    next => rfl
  next j cancelAt point hold slot task =>
    refine ⟨fun k => ?_, ?_⟩
    · rw [standing?_setTask]
      split
      next hk =>
        refine .inr ⟨rfl, j, point, ?_⟩
        rw [hk, standing?, task]
        rfl
      next => exact .inl (standing?_congr (by simp) k)
    · have hprovider := provider_abandon s hold
      simp only [setTask, provider_leave]
      rcases hprovider with h | ⟨r, pending, h⟩ <;> rw [h]
      · exact .same
      · exact .abandoned pending
  next => exact ⟨fun _ => .inl rfl, .same⟩

/-! ### Steps -/

/-- With the kept verdicts of a worker set. -/
def keepCache (s : Session σ) (w : Worker) (cache : VerdictCache) : Session σ :=
  s.modifyDesk (fun d => { d with cache }) w

@[simp] theorem tasks_keepCache (s : Session σ) (w : Worker) (cache : VerdictCache) :
    (s.keepCache w cache).tasks = s.tasks := tasks_modifyDesk ..

@[simp] theorem provider_keepCache (s : Session σ) (w : Worker) (cache : VerdictCache) :
    (s.keepCache w cache).provider = s.provider := provider_modifyDesk ..

@[simp] theorem setup_keepCache (s : Session σ) (w : Worker) (cache : VerdictCache) :
    (s.keepCache w cache).setup = s.setup := setup_modifyDesk ..

@[simp] theorem now_keepCache (s : Session σ) (w : Worker) (cache : VerdictCache) :
    (s.keepCache w cache).now = s.now := now_modifyDesk ..

@[simp] theorem next_keepCache (s : Session σ) (w : Worker) (cache : VerdictCache) :
    (s.keepCache w cache).next = s.next := next_modifyDesk ..

/-- All that a step of a task can be. -/
inductive Took (s : Session σ) (number : Nat) : Session σ → Prop where
  | started {j : Job} {cancelAt : Option Instant}
      (task : s.tasks.get? number = some ⟨j, cancelAt, .ready⟩) :
      Took s number
        ((s.keepCache j.worker
          (j.start (s.setup.brief number) s.now (s.desk j.worker).cache).2).proceed number j
            cancelAt none (j.start (s.setup.brief number) s.now (s.desk j.worker).cache).1)
  | moved {j : Job} {cancelAt : Option Instant} {point : j.Point}
      {hold hold' : Hold σ (j.awaits point)} {slot : Option Nat} {provider : σ}
      (task : s.tasks.get? number = some ⟨j, cancelAt, .waiting point hold slot⟩)
      (looked : s.look j.worker number (j.awaits point) hold = .moved hold' provider) :
      Took s number ({ s with provider }.setTask number ⟨j, cancelAt, .waiting point hold' slot⟩)
  | answered {j : Job} {cancelAt : Option Instant} {point : j.Point}
      {hold : Hold σ (j.awaits point)} {slot : Option Nat} {answer : (j.awaits point).Answer}
      {provider : σ}
      (task : s.tasks.get? number = some ⟨j, cancelAt, .waiting point hold slot⟩)
      (looked : s.look j.worker number (j.awaits point) hold = .finished answer provider) :
      Took s number
        (({ s with provider }.keepCache j.worker
          (j.resume (s.setup.brief number) s.now (s.desk j.worker).cache point answer).2).proceed
            number j cancelAt slot
            (j.resume (s.setup.brief number) s.now (s.desk j.worker).cache point answer).1)
  | dropped : Took s number (s.cancel number)

theorem took_of_step? {s s' : Session σ} {number : Nat} (taken : s.step? number = some s') :
    Took s number s' := by
  unfold step? at taken
  split at taken
  next task =>
    cases taken
    exact .started task
  next task =>
    split at taken
    next looked =>
      cases taken
      exact .moved task looked
    next looked =>
      cases taken
      exact .answered task looked
    next =>
      split at taken <;> cases taken
      exact .dropped
  next => cases taken

/-- A task that has not begun begins as its job says. -/
theorem step?_of_ready {s : Session σ} {number : Nat} {j : Job} {cancelAt : Option Instant}
    {next : Next j.Point j.Result} {cache : VerdictCache}
    (task : s.tasks.get? number = some ⟨j, cancelAt, .ready⟩)
    (started : j.start (s.setup.brief number) s.now (s.desk j.worker).cache = (next, cache)) :
    s.step? number = some ((s.keepCache j.worker cache).proceed number j cancelAt none next) := by
  simp only [step?, task, started]
  rfl

/-- A task that finds what it waited for goes on as its job says. -/
theorem step?_of_look {s : Session σ} {number : Nat} {j : Job} {cancelAt : Option Instant}
    {point : j.Point} {hold : Hold σ (j.awaits point)} {slot : Option Nat}
    {answer : (j.awaits point).Answer} {provider : σ} {next : Next j.Point j.Result}
    {cache : VerdictCache}
    (task : s.tasks.get? number = some ⟨j, cancelAt, .waiting point hold slot⟩)
    (looked : s.look j.worker number (j.awaits point) hold = .finished answer provider)
    (resumed : j.resume (s.setup.brief number) s.now (s.desk j.worker).cache point answer =
      (next, cache)) :
    s.step? number = some
      (({ s with provider }.keepCache j.worker cache).proceed number j cancelAt slot next) := by
  simp only [step?, task, looked, resumed]
  rfl

theorem step?_of_look_moved {s : Session σ} {number : Nat} {j : Job} {cancelAt : Option Instant}
    {point : j.Point} {hold hold' : Hold σ (j.awaits point)} {slot : Option Nat} {provider : σ}
    (task : s.tasks.get? number = some ⟨j, cancelAt, .waiting point hold slot⟩)
    (looked : s.look j.worker number (j.awaits point) hold = .moved hold' provider) :
    s.step? number = some
      ({ s with provider }.setTask number ⟨j, cancelAt, .waiting point hold' slot⟩) := by
  simp only [step?, task, looked]

/-! ### What a move does -/

/-- A step gets a task from its start, or from what it waited for, to a point or to its result; the
last component is the provider that it leaves, before the call of the new point is started. -/
inductive Arrives (s : Session σ) (number : Nat) :
    (j : Job) → Next j.Point j.Result → σ → Prop where
  | start {j : Job} {cancelAt : Option Instant}
      (task : s.tasks.get? number = some ⟨j, cancelAt, .ready⟩) :
      Arrives s number j (j.start (s.setup.brief number) s.now (s.desk j.worker).cache).1 s.provider
  | resume {j : Job} {cancelAt : Option Instant} {point : j.Point} {hold : Hold σ (j.awaits point)}
      {slot : Option Nat} {answer : (j.awaits point).Answer} {provider : σ}
      (task : s.tasks.get? number = some ⟨j, cancelAt, .waiting point hold slot⟩)
      (looked : s.look j.worker number (j.awaits point) hold = .finished answer provider) :
      Arrives s number j
        (j.resume (s.setup.brief number) s.now (s.desk j.worker).cache point answer).1 provider

theorem Arrives.exists {s : Session σ} {number : Nat} {j : Job} {next : Next j.Point j.Result}
    {provider : σ} (arrives : Arrives s number j next provider) :
    (s.standing? number = none ∧
        next = (j.start (s.setup.brief number) s.now (s.desk j.worker).cache).1 ∧
        provider = s.provider) ∨
      ∃ cancelAt point hold slot answer,
        s.tasks.get? number = some ⟨j, cancelAt, .waiting point hold slot⟩ ∧
        s.look j.worker number (j.awaits point) hold = .finished answer provider ∧
        next = (j.resume (s.setup.brief number) s.now (s.desk j.worker).cache point answer).1 := by
  cases arrives with
  | start task =>
    refine .inl ⟨?_, rfl, rfl⟩
    rw [Session.standing?, task]
    rfl
  | resume task looked => exact .inr ⟨_, _, _, _, _, task, looked, rfl⟩

/-- What a move does to the provider and to how far the tasks have come. -/
inductive Effect (w : Surroundings σ) (s : Session σ) : Cause → Session σ → Prop where
  /-- One task goes on. -/
  | arrived {number : Nat} {j : Job} {next : Next j.Point j.Result} {provider : σ} {s' : Session σ}
      (arrives : Arrives s number j next provider)
      (standing : ∀ k, s'.standing? k = if k = number then some ⟨j, next⟩ else s.standing? k)
      (provider_eq : s'.provider = toldNext provider s.now j next) :
      Effect w s (.stepped number) s'
  /-- No task goes on. -/
  | quiet {c : Cause} {s' : Session σ}
      (standing : ∀ k, KeptOrDropped (s.standing? k) (s'.standing? k))
      (idles : Idles s.provider s'.provider) : Effect w s c s'
  /-- Somebody else changed the provider. -/
  | meddled {s' : Session σ} (standing : ∀ k, s'.standing? k = s.standing? k)
      (changed : w.changes s.provider s'.provider) : Effect w s .meddled s'

theorem look_call_moved {s : Session σ} {w : Worker} {number : Nat} {r : Request} {limit : Limit}
    {hold hold' : Hold σ (.call r limit)} {provider : σ}
    (looked : s.look w number (.call r limit) hold = .moved hold' provider) :
    ∃ pending pending' deadline, hold = .call pending deadline ∧ hold' = .call pending' deadline ∧
      Provider.look s.provider s.now r pending = .moved pending' provider := by
  cases hold with
  | call pending deadline =>
    rw [look] at looked
    split at looked
    next hmoved =>
      cases looked
      exact ⟨_, _, _, rfl, rfl, hmoved⟩
    next => cases looked
    next =>
      split at looked <;> cases looked

/-- A call is found to be finished if the provider has answered it, or if its time is up. -/
theorem look_call_finished {s : Session σ} {w : Worker} {number : Nat} {r : Request}
    {limit : Limit} {hold : Hold σ (.call r limit)} {answer : r.Outcome} {provider : σ}
    (looked : s.look w number (.call r limit) hold = .finished answer provider) :
    ∃ pending deadline, hold = .call pending deadline ∧
      (Provider.look s.provider s.now r pending = .finished answer provider ∨
        answer = .error (.timedOut r.title) ∧ provider = Provider.abandon s.provider pending) := by
  cases hold with
  | call pending deadline =>
    refine ⟨_, _, rfl, ?_⟩
    rw [look] at looked
    split at looked
    next => cases looked
    next hfinished =>
      cases looked
      exact .inl hfinished
    next =>
      split at looked <;> cases looked
      exact .inr ⟨rfl, rfl⟩

theorem look_call_of_moved {s : Session σ} (w : Worker) (number : Nat) {r : Request}
    {limit : Limit} {pending pending' : Provider.Pending σ r} (deadline : Option Instant)
    {provider : σ} (moved : Provider.look s.provider s.now r pending = .moved pending' provider) :
    s.look w number (.call r limit) (.call pending deadline) =
      .moved (.call pending' deadline) provider := by
  rw [look, moved]

theorem look_call_of_finished {s : Session σ} (w : Worker) (number : Nat) {r : Request}
    {limit : Limit} {pending : Provider.Pending σ r} (deadline : Option Instant)
    {answer : r.Outcome} {provider : σ}
    (finished : Provider.look s.provider s.now r pending = .finished answer provider) :
    s.look w number (.call r limit) (.call pending deadline) = .finished answer provider := by
  rw [look, finished]

/-- Only a call goes on in parts. -/
theorem exists_call_of_look_eq_moved {s : Session σ} {w : Worker} {number : Nat} {a : Await}
    {hold hold' : Hold σ a} {provider : σ}
    (looked : s.look w number a hold = .moved hold' provider) : ∃ r limit, a = .call r limit := by
  cases hold with
  | call pending deadline => exact ⟨_, _, rfl⟩
  | turn slot =>
    rw [look] at looked
    split at looked <;> cases looked
  | pause until_ =>
    rw [look] at looked
    split at looked <;> cases looked

theorem idles_of_look_eq_moved {s : Session σ} {w : Worker} {number : Nat} {a : Await}
    {hold hold' : Hold σ a} {provider : σ}
    (looked : s.look w number a hold = .moved hold' provider) : Idles s.provider provider := by
  obtain ⟨r, limit, rfl⟩ := exists_call_of_look_eq_moved looked
  obtain ⟨pending, pending', deadline, -, -, hmoved⟩ := look_call_moved looked
  exact .moved hmoved

/-- No task has the number of the next one, or a later one. -/
def Fresh (s : Session σ) : Prop := ∀ k, s.next ≤ k → s.tasks.get? k = none

theorem Took.effect (w : Surroundings σ) {s s' : Session σ} {number : Nat}
    (took : Took s number s') : Effect w s (.stepped number) s' := by
  cases took with
  | started task =>
    refine .arrived (.start task) (fun k => ?_) ?_
    · rw [standing?_proceed, standing?_congr (tasks_keepCache ..)]
    · rw [provider_proceed, provider_keepCache, now_keepCache]
  | moved task looked =>
    refine .quiet (fun k => .inl ?_) (idles_of_look_eq_moved looked)
    rw [standing?_setTask]
    split
    next hk => rw [hk, standing?, task]; rfl
    next => rfl
  | answered task looked =>
    refine .arrived (.resume task looked) (fun k => ?_) ?_
    · rw [standing?_proceed, standing?_congr (tasks_keepCache ..)]
      rfl
    · rw [provider_proceed, provider_keepCache, now_keepCache]
  | dropped => exact .quiet (cancel_effect s number).1 (cancel_effect s number).2

theorem Move.effect {w : Surroundings σ} {s s' : Session σ} {c : Cause} (move : Move w s c s')
    (fresh : s.Fresh) : Effect w s c s' := by
  cases move with
  | @submit j cancelAfter asked =>
    refine .quiet (fun k => .inl ?_) .same
    unfold standing?
    by_cases hk : k = s.next
    · rw [hk, get?_tasks_submit_self, fresh _ (Nat.le_refl _)]
      rfl
    · rw [get?_tasks_submit_of_ne s j cancelAfter hk]
  | step taken => exact (took_of_step? taken).effect w
  | cancel number => exact .quiet (cancel_effect s number).1 (cancel_effect s number).2
  | pass d => exact .quiet (fun _ => .inl rfl) .same
  | meddle changed => exact .meddled (fun _ => rfl) changed

/-! ### The tasks of others -/

theorem get?_tasks_proceed_of_ne (s : Session σ) {number k : Nat} (j : Job)
    (cancelAt : Option Instant) (slot : Option Nat) (next : Next j.Point j.Result)
    (h : k ≠ number) :
    (s.proceed number j cancelAt slot next).tasks.get? k = s.tasks.get? k := by
  cases next with
  | done result => rw [proceed, get?_tasks_setTask_of_ne _ _ h, tasks_leave]
  | crash => rw [proceed, get?_tasks_setTask_of_ne _ _ h, tasks_leave]
  | goOn point =>
    obtain ⟨s₁, slot₁, hs₁, hproceed⟩ := proceed_goOn s number j cancelAt slot point
    have htasks : s₁.tasks = s.tasks := by
      rcases hs₁ with ⟨-, rfl, -⟩ | ⟨-, rfl, -⟩ <;> simp
    rw [hproceed, get?_tasks_setTask_of_ne _ _ h, tasks_beginWait, htasks]

theorem exists_get?_tasks_proceed (s : Session σ) (number : Nat) (j : Job)
    (cancelAt : Option Instant) (slot : Option Nat) (point : j.Point) : ∃ hold slot',
      (s.proceed number j cancelAt slot (.goOn point)).tasks.get? number =
        some ⟨j, cancelAt, .waiting point hold slot'⟩ := by
  obtain ⟨s₁, slot₁, -, hproceed⟩ := proceed_goOn s number j cancelAt slot point
  rw [hproceed]
  exact ⟨_, _, get?_tasks_setTask_self ..⟩

theorem get?_tasks_cancel_of_ne (s : Session σ) {number k : Nat} (h : k ≠ number) :
    (s.cancel number).tasks.get? k = s.tasks.get? k := by
  unfold cancel
  split
  next => exact get?_tasks_setTask_of_ne _ _ h
  next => rw [get?_tasks_setTask_of_ne _ _ h, tasks_leave, tasks_abandon]
  next => rfl

/-- A task that is given up is over, as far as it was not. -/
theorem exists_get?_tasks_cancel {s : Session σ} {number : Nat} {j : Job}
    {cancelAt : Option Instant} {state : TaskState σ j}
    (task : s.tasks.get? number = some ⟨j, cancelAt, state⟩) :
    ∃ state', (s.cancel number).tasks.get? number = some ⟨j, cancelAt, state'⟩ ∧
      (state' = .cancelled ∨ state' = .crashed ∨ ∃ result, state' = .finished result) := by
  cases state with
  | ready =>
    simp only [cancel, task]
    exact ⟨_, get?_tasks_setTask_self .., .inl rfl⟩
  | waiting point hold slot =>
    simp only [cancel, task]
    exact ⟨_, get?_tasks_setTask_self .., .inl rfl⟩
  | finished result =>
    simp only [cancel, task]
    exact ⟨_, rfl, .inr (.inr ⟨result, rfl⟩)⟩
  | cancelled =>
    simp only [cancel, task]
    exact ⟨_, rfl, .inl rfl⟩
  | crashed =>
    simp only [cancel, task]
    exact ⟨_, rfl, .inr (.inl rfl)⟩

/-- Where there is no task a step does what giving it up does. -/
theorem Took.eq_cancel {s s' : Session σ} {number : Nat} (took : Took s number s')
    (absent : s.tasks.get? number = none) : s' = s.cancel number := by
  cases took with
  | started task => cases absent.symm.trans task
  | moved task looked => cases absent.symm.trans task
  | answered task looked => cases absent.symm.trans task
  | dropped => rfl

theorem Took.get?_tasks_of_ne {s s' : Session σ} {number k : Nat} (took : Took s number s')
    (h : k ≠ number) : s'.tasks.get? k = s.tasks.get? k := by
  cases took with
  | started task => rw [get?_tasks_proceed_of_ne _ _ _ _ _ h, tasks_keepCache]
  | moved task looked => exact get?_tasks_setTask_of_ne _ _ h
  | answered task looked => rw [get?_tasks_proceed_of_ne _ _ _ _ _ h, tasks_keepCache]
  | dropped => exact get?_tasks_cancel_of_ne s h

/-- A task changes only by a move of its own, unless it has just been submitted. -/
theorem Move.get?_tasks {w : Surroundings σ} {s s' : Session σ} {c : Cause} (move : Move w s c s')
    (fresh : s.Fresh) {k : Nat} (other : ¬ (c = .stepped k ∨ c = .cancelled k)) :
    s'.tasks.get? k = s.tasks.get? k ∨
      s.tasks.get? k = none ∧ ∃ j cancelAt, s'.tasks.get? k = some ⟨j, cancelAt, .ready⟩ := by
  cases move with
  | @submit j cancelAfter asked =>
    by_cases hk : k = s.next
    · subst hk
      exact .inr ⟨fresh _ (Nat.le_refl _), _, _, get?_tasks_submit_self s j cancelAfter⟩
    · exact .inl (get?_tasks_submit_of_ne s j cancelAfter hk)
  | @step number _ taken =>
    have hk : k ≠ number := fun h => other (.inl (h ▸ rfl))
    exact .inl ((took_of_step? taken).get?_tasks_of_ne hk)
  | cancel number =>
    have hk : k ≠ number := fun h => other (.inr (h ▸ rfl))
    exact .inl (get?_tasks_cancel_of_ne s hk)
  | pass d => exact .inl rfl
  | meddle changed => exact .inl rfl

/-! ### The jobs of tasks -/

/-- The job of the task of a number. -/
def job? (s : Session σ) (number : Nat) : Option Job := (s.tasks.get? number).map (·.job)

theorem job?_of_standing? {s : Session σ} {number : Nat} {x : Standing}
    (h : s.standing? number = some x) : s.job? number = some x.job := by
  obtain ⟨t, ht, hx⟩ := Option.bind_eq_some_iff.1 h
  rw [job?, ht, Option.map_some]
  unfold Task.standing? at hx
  split at hx <;> cases hx <;> rfl

theorem job?_setTask (s : Session σ) (number : Nat) (t : Task σ) (k : Nat) :
    (s.setTask number t).job? k = if k = number then some t.job else s.job? k := by
  unfold job?
  split
  next h => rw [h, get?_tasks_setTask_self, Option.map_some]
  next h => rw [get?_tasks_setTask_of_ne _ _ h]

theorem job?_congr {s s' : Session σ} (h : s.tasks = s'.tasks) (k : Nat) :
    s.job? k = s'.job? k := by
  rw [job?, h, job?]

theorem job?_of_get? {s : Session σ} {number : Nat} {t : Task σ}
    (task : s.tasks.get? number = some t) : s.job? number = some t.job := by
  rw [job?, task, Option.map_some]

/-- A task that is set to another state keeps its job. -/
theorem job?_setTask_of_job? {s s' : Session σ} {number : Nat} {t : Task σ}
    (tasks : s'.tasks = s.tasks) (job : s.job? number = some t.job) (k : Nat) :
    (s'.setTask number t).job? k = s.job? k := by
  rw [job?_setTask, job?_congr tasks]
  split
  next h => rw [h, job]
  next => rfl

theorem job?_proceed {s s' : Session σ} {number : Nat} {j : Job} (tasks : s'.tasks = s.tasks)
    (job : s.job? number = some j) (cancelAt : Option Instant) (slot : Option Nat)
    (next : Next j.Point j.Result) (k : Nat) :
    (s'.proceed number j cancelAt slot next).job? k = s.job? k := by
  cases next with
  | done result =>
    rw [proceed]
    exact job?_setTask_of_job? ((tasks_leave ..).trans tasks) job k
  | crash =>
    rw [proceed]
    exact job?_setTask_of_job? ((tasks_leave ..).trans tasks) job k
  | goOn point =>
    obtain ⟨s₁, slot₁, hs₁, hproceed⟩ := proceed_goOn s' number j cancelAt slot point
    have htasks : s₁.tasks = s.tasks := by
      rcases hs₁ with ⟨-, rfl, -⟩ | ⟨-, rfl, -⟩ <;> simp [tasks]
    rw [hproceed]
    exact job?_setTask_of_job? ((tasks_beginWait ..).trans htasks) job k

theorem job?_cancel (s : Session σ) (number k : Nat) : (s.cancel number).job? k = s.job? k := by
  unfold cancel
  split
  next j cancelAt task =>
    have hjob : s.job? number = some j := job?_of_get? task
    exact job?_setTask_of_job? rfl hjob k
  next j cancelAt point hold slot task =>
    have hjob : s.job? number = some j := job?_of_get? task
    have htasks : ((s.abandon hold).leave j.worker number slot).tasks = s.tasks := by simp
    exact job?_setTask_of_job? htasks hjob k
  next => rfl

theorem Took.job? {s s' : Session σ} {number : Nat} (took : Took s number s') (k : Nat) :
    s'.job? k = s.job? k := by
  cases took with
  | @started j cancelAt task =>
    have hjob : s.job? number = some j := job?_of_get? task
    exact job?_proceed (tasks_keepCache ..) hjob cancelAt none _ k
  | @moved j cancelAt point hold hold' slot provider task looked =>
    have hjob : s.job? number = some j := job?_of_get? task
    exact job?_setTask_of_job? rfl hjob k
  | @answered j cancelAt point hold slot answer provider task looked =>
    have hjob : s.job? number = some j := job?_of_get? task
    exact job?_proceed (tasks_keepCache { s with provider } ..) hjob cancelAt slot _ k
  | dropped => exact job?_cancel s number k

/-- A task keeps its job; only a job that is asked for makes a task. -/
theorem Move.job? {w : Surroundings σ} {s s' : Session σ} {c : Cause} (move : Move w s c s')
    (fresh : s.Fresh) (k : Nat) :
    s'.job? k = s.job? k ∨
      s.job? k = none ∧ c = .submitted k ∧ ∃ j, s'.job? k = some j ∧ w.asks j := by
  cases move with
  | @submit j cancelAfter asked =>
    unfold Session.job?
    by_cases hk : k = s.next
    · subst hk
      rw [get?_tasks_submit_self, fresh _ (Nat.le_refl _)]
      exact .inr ⟨rfl, rfl, j, rfl, asked⟩
    · exact .inl (by rw [get?_tasks_submit_of_ne s j cancelAfter hk])
  | step taken => exact .inl ((took_of_step? taken).job? k)
  | cancel number => exact .inl (job?_cancel s number k)
  | pass d => exact .inl rfl
  | meddle changed => exact .inl rfl

/-! ### What a history keeps -/

/-- A session without tasks. -/
theorem fresh_of_empty {s : Session σ} (h : s.tasks = .empty) : s.Fresh := fun k _ => by
  rw [h, SortedMap.get?_empty]

theorem fresh_begin (setup : Setup) (provider : σ) : (begin setup provider).Fresh :=
  fresh_of_empty rfl

theorem setup_next_cancel (s : Session σ) (number : Nat) :
    (s.cancel number).setup = s.setup ∧ (s.cancel number).next = s.next := by
  unfold cancel
  split <;> simp [setTask]

theorem Took.setup_next {s s' : Session σ} {number : Nat} (took : Took s number s') :
    s'.setup = s.setup ∧ s'.next = s.next := by
  cases took with
  | started task => simp [setup_next_proceed]
  | moved task looked => exact ⟨rfl, rfl⟩
  | answered task looked => simp [setup_next_proceed]
  | dropped => exact setup_next_cancel s number

/-- What the routines are told does not change. -/
theorem Move.setup {w : Surroundings σ} {s s' : Session σ} {c : Cause} (move : Move w s c s') :
    s'.setup = s.setup := by
  cases move with
  | submit cancelAfter asked => rfl
  | step taken => exact (took_of_step? taken).setup_next.1
  | cancel number => exact (setup_next_cancel s number).1
  | pass d => rfl
  | meddle changed => rfl

theorem Move.next_le {w : Surroundings σ} {s s' : Session σ} {c : Cause} (move : Move w s c s') :
    s.next ≤ s'.next ∧ ∀ k, c = .submitted k → k < s'.next := by
  have same : s'.next = s.next → (∀ k, c ≠ .submitted k) →
      s.next ≤ s'.next ∧ ∀ k, c = .submitted k → k < s'.next :=
    fun hnext hc => ⟨Nat.le_of_eq hnext.symm, fun k hk => absurd hk (hc k)⟩
  cases move with
  | submit cancelAfter asked =>
    refine ⟨Nat.le_succ _, fun k hk => ?_⟩
    cases hk
    exact Nat.lt_succ_self _
  | step taken => exact same (took_of_step? taken).setup_next.2 nofun
  | cancel number => exact same (setup_next_cancel s number).2 nofun
  | pass d => exact same rfl nofun
  | meddle changed => exact same rfl nofun

theorem now_proceed (s : Session σ) (number : Nat) (j : Job) (cancelAt : Option Instant)
    (slot : Option Nat) (next : Next j.Point j.Result) :
    (s.proceed number j cancelAt slot next).now = s.now := by
  cases next with
  | done result => simp [proceed, setTask]
  | crash => simp [proceed, setTask]
  | goOn point =>
    obtain ⟨s₁, slot₁, hs₁, hproceed⟩ := proceed_goOn s number j cancelAt slot point
    rw [hproceed]
    rcases hs₁ with ⟨-, rfl, -⟩ | ⟨-, rfl, -⟩ <;> simp [setTask]

theorem now_cancel (s : Session σ) (number : Nat) : (s.cancel number).now = s.now := by
  unfold cancel
  split <;> simp [setTask]

/-- Time never goes back. -/
theorem Move.now_le {w : Surroundings σ} {s s' : Session σ} {c : Cause} (move : Move w s c s') :
    s.now ≤ s'.now := by
  cases move with
  | submit cancelAfter asked => exact Nat.le_refl _
  | step taken =>
    cases took_of_step? taken with
    | started task => simp [now_proceed]
    | moved task looked => exact Nat.le_refl _
    | answered task looked => simp [now_proceed]
    | dropped => exact Nat.le_of_eq (now_cancel ..).symm
  | cancel number => exact Nat.le_of_eq (now_cancel ..).symm
  | pass d => exact Nat.le_add_right ..
  | meddle changed => exact Nat.le_refl _

theorem Move.fresh {w : Surroundings σ} {s s' : Session σ} {c : Cause} (move : Move w s c s')
    (fresh : s.Fresh) : s'.Fresh := by
  obtain ⟨hle, hsubmitted⟩ := move.next_le
  intro k hk
  cases htask : s'.tasks.get? k with
  | none => rfl
  | some t =>
    have hnone : s.job? k = none := by
      rw [Session.job?, fresh k (Nat.le_trans hle hk), Option.map_none]
    rcases move.job? fresh k with hjob | ⟨-, hcause, -⟩
    · rw [hnone, job?_of_get? htask] at hjob
      cases hjob
    · exact absurd (hsubmitted k hcause) (Nat.not_lt.2 hk)

/-- A task that takes a step to somewhere had no result before. -/
theorem Arrives.standing? {s : Session σ} {number : Nat} {j : Job} {next : Next j.Point j.Result}
    {provider : σ} (arrives : Arrives s number j next provider) :
    s.standing? number = none ∨ ∃ point : j.Point, s.standing? number = some ⟨j, .goOn point⟩ := by
  rcases arrives.exists with ⟨hnone, -, -⟩ | ⟨_, point, _, _, _, task, -, -⟩
  · exact .inl hnone
  · exact .inr ⟨point, standing?_of_get? task⟩

theorem Arrives.job? {s : Session σ} {number : Nat} {j : Job} {next : Next j.Point j.Result}
    {provider : σ} (arrives : Arrives s number j next provider) : s.job? number = some j := by
  cases arrives with
  | start task => exact job?_of_get? task
  | resume task looked => exact job?_of_get? task

/-- A result stays. -/
theorem Move.standing?_done {w : Surroundings σ} {s s' : Session σ} {c : Cause}
    (move : Move w s c s') (fresh : s.Fresh) {k : Nat} {j : Job} {result : j.Result}
    (done : s.standing? k = some ⟨j, .done result⟩) :
    s'.standing? k = some ⟨j, .done result⟩ := by
  cases move.effect fresh with
  | @arrived number j' next provider _ arrives standing provider_eq =>
    rw [standing]
    split
    next hk =>
      subst hk
      rcases arrives.standing? with hnone | ⟨point, hpoint⟩
      · cases hnone.symm.trans done
      · cases hpoint.symm.trans done
    next => exact done
  | quiet standing idles =>
    rcases standing k with hkept | ⟨-, j', point, hpoint⟩
    · exact hkept.trans done
    · cases hpoint.symm.trans done
  | meddled standing changed => exact (standing k).trans done

end NodeSupply.Session
