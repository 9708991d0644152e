import NodeSupply.Lock.Keyed
import NodeSupply.Session.Job

/-!
# Sessions

A session does jobs over one provider, any number of them at a time.  It goes on by single steps:
one task gets what it waited for and runs to its next point, a task is given up, or time passes.
What the tasks of a worker share are its kept verdicts and its locks.

## Main definitions

* `Session.Task` : a job under way.
* `Session` : a provider, the time, the workers and the tasks.
* `Session.submit`, `Session.step?`, `Session.cancel`, `Session.advance` : how a session goes on.
-/

namespace NodeSupply

/-- What the tasks of a worker share. -/
structure Desk where
  /-- The kept verdicts. -/
  cache : VerdictCache
  /-- The locks of the gates, and the tasks at each. -/
  locks : KeyedLock Gate Nat
deriving DecidableEq

/-- What a task waits on. -/
inductive Hold (σ : Type) [Provider σ] : Await → Type where
  /-- A call under way, and when it has taken too long. -/
  | call {r : Request} {limit : Limit} (pending : Provider.Pending σ r)
      (deadline : Option Instant) : Hold σ (.call r limit)
  /-- A place at a lock. -/
  | turn {gate : Gate} (slot : Nat) : Hold σ (.turn gate)
  /-- A time. -/
  | pause {d : Duration} (until_ : Instant) : Hold σ (.pause d)

/-- The earlier of two times, if there are any. -/
def earlier : Option Instant → Option Instant → Option Instant
  | some a, some b => some (min a b)
  | some a, none => some a
  | none, b => b

/-- The next time that something waited on may come, if only time is needed. -/
def Hold.due? {σ : Type} [Provider σ] : {a : Await} → Hold σ a → Option Instant
  | _, .call pending deadline => earlier (Provider.due? pending) deadline
  | _, .turn _ => none
  | _, .pause until_ => some until_

/-- How a task stands. -/
inductive TaskState (σ : Type) [Provider σ] (j : Job) where
  /-- It has not begun. -/
  | ready
  /-- It waits at a point, perhaps with a place at a lock. -/
  | waiting (point : j.Point) (hold : Hold σ (j.awaits point)) (slot : Option Nat)
  /-- It is done. -/
  | finished (result : j.Result)
  /-- It was given up. -/
  | cancelled
  /-- It broke off. -/
  | crashed

/-- A job under way. -/
structure Session.Task (σ : Type) [Provider σ] where
  /-- The job. -/
  job : Job
  /-- When it is to be given up, if at all. -/
  cancelAt : Option Instant
  /-- How it stands. -/
  state : TaskState σ job

/-- A provider, the time, the workers and the tasks. -/
structure Session (σ : Type) [Provider σ] where
  /-- What the routines are told. -/
  setup : Setup
  /-- The provider. -/
  provider : σ
  /-- The time. -/
  now : Instant
  /-- What the tasks about classes and groups share. -/
  keeper : Desk
  /-- What the tasks about launching nodes share. -/
  launcher : Desk
  /-- The tasks by number. -/
  tasks : SortedMap Nat (Session.Task σ)
  /-- The number of the next task. -/
  next : Nat

namespace Session

variable {σ : Type} [Provider σ]

/-- A session without tasks. -/
def begin (setup : Setup) (provider : σ) : Session σ :=
  let desk : Desk := ⟨.empty setup.settings.cacheTtl, .empty⟩
  { setup, provider, now := 0, keeper := desk, launcher := desk, tasks := .empty, next := 0 }

/-- What the tasks of a worker share. -/
def desk (s : Session σ) : Worker → Desk
  | .keeper => s.keeper
  | .launcher => s.launcher

/-- With what the tasks of a worker share changed. -/
def modifyDesk (s : Session σ) (f : Desk → Desk) : Worker → Session σ
  | .keeper => { s with keeper := f s.keeper }
  | .launcher => { s with launcher := f s.launcher }

/-- With the state of a task set. -/
def setTask (s : Session σ) (number : Nat) (t : Task σ) : Session σ :=
  { s with tasks := s.tasks.insert number t }

/-- A job becomes a task that is given up after some time, if a time is set. -/
def submit (s : Session σ) (j : Job) (cancelAfter : Option Duration) : Nat × Session σ :=
  (s.next,
    { s with
      tasks := s.tasks.insert s.next ⟨j, cancelAfter.map (s.now + ·), .ready⟩
      next := s.next + 1 })

/-- Time passes. -/
def advance (s : Session σ) (d : Duration) : Session σ := { s with now := s.now + d }

/-- A task gives up its place at a lock, if it has one. -/
def leave (s : Session σ) (w : Worker) (number : Nat) (slot : Option Nat) : Session σ :=
  slot.elim s fun place => s.modifyDesk (fun d => { d with locks := d.locks.leave place number }) w

/-- A task begins to wait: what it waits on, and its place at a lock. -/
def beginWait (s : Session σ) (w : Worker) (number : Nat) (slot : Option Nat) :
    (a : Await) → Hold σ a × Option Nat × Session σ
  | .call r limit =>
    let (pending, provider) := Provider.start s.provider s.now r
    (.call pending ((limit.duration? s.setup.settings).map (s.now + ·)), slot,
      { s with provider })
  | .turn gate =>
    let (locks, place) := (s.desk w).locks.enter gate number
    (.turn place, some place, s.modifyDesk (fun d => { d with locks }) w)
  | .pause d => (.pause (s.now + d), slot, s)

/-- A task goes on to a point, is done, or breaks off; it keeps its place at a lock only while it
holds it. -/
def proceed (s : Session σ) (number : Nat) (j : Job) (cancelAt : Option Instant)
    (slot : Option Nat) : Next j.Point j.Result → Session σ
  | .done result => (s.leave j.worker number slot).setTask number ⟨j, cancelAt, .finished result⟩
  | .crash => (s.leave j.worker number slot).setTask number ⟨j, cancelAt, .crashed⟩
  | .goOn point =>
    let (s, slot) :=
      if (j.guards point).isSome then (s, slot) else (s.leave j.worker number slot, none)
    let (hold, slot, s) := s.beginWait j.worker number slot (j.awaits point)
    s.setTask number ⟨j, cancelAt, .waiting point hold slot⟩

/-- What a task finds when it looks at what it waits on.  A call that is answered counts even if
its time is up. -/
def look (s : Session σ) (w : Worker) (number : Nat) :
    (a : Await) → Hold σ a → Progress σ (Hold σ a) a.Answer
  | .call r _, .call pending deadline =>
    match Provider.look s.provider s.now r pending with
    | .moved pending provider => .moved (.call pending deadline) provider
    | .finished outcome provider => .finished outcome provider
    | .waiting =>
      if deadline.any (· ≤ s.now) then
        .finished (.error (.timedOut r.title)) (Provider.abandon s.provider pending)
      else .waiting
  | .turn _, .turn slot =>
    if (s.desk w).locks.isHeldBy slot number then .finished () s.provider else .waiting
  | .pause _, .pause until_ => if until_ ≤ s.now then .finished () s.provider else .waiting

/-- What is left behind when a task stops waiting. -/
def abandon (s : Session σ) : {a : Await} → Hold σ a → Session σ
  | _, .call pending _ => { s with provider := Provider.abandon s.provider pending }
  | _, .turn _ => s
  | _, .pause _ => s

/-- A task is given up. -/
def cancel (s : Session σ) (number : Nat) : Session σ :=
  match s.tasks.get? number with
  | some ⟨j, cancelAt, .ready⟩ => s.setTask number ⟨j, cancelAt, .cancelled⟩
  | some ⟨j, cancelAt, .waiting _ hold slot⟩ =>
    ((s.abandon hold).leave j.worker number slot).setTask number ⟨j, cancelAt, .cancelled⟩
  | _ => s

/-- A task takes a step, unless it is over or nothing that it waits for has come.  A task that is
to be given up by now is given up when it can take no other step. -/
def step? (s : Session σ) (number : Nat) : Option (Session σ) :=
  match s.tasks.get? number with
  | some ⟨j, cancelAt, .ready⟩ =>
    let (next, cache) := j.start (s.setup.brief number) s.now (s.desk j.worker).cache
    some ((s.modifyDesk (fun d => { d with cache }) j.worker).proceed number j cancelAt none next)
  | some ⟨j, cancelAt, .waiting point hold slot⟩ =>
    match s.look j.worker number (j.awaits point) hold with
    | .moved hold provider =>
      some ({ s with provider }.setTask number ⟨j, cancelAt, .waiting point hold slot⟩)
    | .finished answer provider =>
      let (next, cache) :=
        j.resume (s.setup.brief number) s.now (s.desk j.worker).cache point answer
      let s := { s with provider }.modifyDesk (fun d => { d with cache }) j.worker
      some (s.proceed number j cancelAt slot next)
    | .waiting => if cancelAt.any (· ≤ s.now) then some (s.cancel number) else none
  | _ => none

end Session

end NodeSupply
