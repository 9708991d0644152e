import NodeSupply.Proofs.Lock.Places
import NodeSupply.Proofs.Session.Gates
import NodeSupply.Proofs.Session.History

/-!
# Tasks take turns

What one task at a time may hold is held by one task at a time.  A task that awaits its turn at a
gate, or holds the gate, has a place at the lock of the gate, and the tasks with a place in a slot
are the clients of the slot; whoever holds the gate is the first of them.  This is kept by every
move, also by those that give a task up while it waits or works.

## Main definitions

* `Session.Orderly` : the tasks of each worker are seated at the locks of the worker.

## Main statements

* `Session.Move.orderly` : every move keeps a session orderly.
* `Session.History.orderly` : so sessions are orderly after any history.
* `Session.Orderly.eq_of_guards` : two tasks of a worker that hold the same gate are the same.
* `Session.Orderly.guards_ne_of_turn` : while a task holds a gate it is no other task's turn there.
-/

namespace NodeSupply

/-- The slot that something waited on is about. -/
def Hold.slot? {σ : Type} [Provider σ] : {a : Await} → Hold σ a → Option Nat
  | _, .call .. => none
  | _, .turn slot => some slot
  | _, .pause _ => none

namespace Session

variable {σ : Type} [Provider σ]

/-! ### Tasks and their places -/

/-- The place of a task at a lock of its worker. -/
def Task.place? (t : Task σ) : Option (Place Gate) :=
  match t.state with
  | .waiting point _ slot =>
    slot.bind fun slot => (t.job.gateAt? point).map fun gate =>
      ⟨slot, gate, (t.job.guards point).isSome⟩
  | .ready | .finished _ | .cancelled | .crashed => none

/-- A task has a slot where it holds or awaits a gate, and only there; what it waits on is a turn in
that slot. -/
def Task.Tidy (t : Task σ) : Prop :=
  match t.state with
  | .waiting point hold slot =>
    slot.isSome = (t.job.gateAt? point).isSome ∧ ∀ q, hold.slot? = some q → slot = some q
  | .ready | .finished _ | .cancelled | .crashed => True

/-- The place of the task of a number, if it is a task of a worker. -/
def place? (s : Session σ) (w : Worker) (number : Nat) : Option (Place Gate) :=
  (s.tasks.get? number).bind fun t => if t.job.worker = w then t.place? else none

/-- The tasks of each worker are seated at the locks of the worker. -/
structure Orderly (s : Session σ) : Prop where
  seated : ∀ w, Seated (s.desk w).locks (s.place? w)
  tidy : ∀ n t, s.tasks.get? n = some t → t.Tidy

theorem place?_setTask (s : Session σ) (w : Worker) (number : Nat) (t : Task σ) :
    (s.setTask number t).place? w =
      Function.update (s.place? w) number (if t.job.worker = w then t.place? else none) := by
  funext k
  unfold place?
  by_cases hk : k = number
  · rw [hk, get?_tasks_setTask_self, Function.update_self, Option.bind_some]
  · rw [get?_tasks_setTask_of_ne _ _ hk, Function.update_of_ne hk]

theorem place?_of_tasks_eq {s s' : Session σ} (tasks : s'.tasks = s.tasks) (w : Worker) :
    s'.place? w = s.place? w := by
  funext k
  rw [place?, tasks, place?]

/-- A task is seated anew if all that changes is its own place at the locks of its worker. -/
theorem Orderly.setTask {s s' : Session σ} (h : s.Orderly) {number : Nat} {t : Task σ}
    (tasks : s'.tasks = s.tasks) (tidy : t.Tidy)
    (others : ∀ w, w ≠ t.job.worker →
      s.place? w number = none ∧ (s'.desk w).locks = (s.desk w).locks)
    (seated : Seated (s'.desk t.job.worker).locks
      (Function.update (s.place? t.job.worker) number t.place?)) :
    (s'.setTask number t).Orderly where
  seated w := by
    rw [desk_setTask, place?_setTask, place?_of_tasks_eq tasks]
    by_cases hw : w = t.job.worker
    · rw [hw, if_pos rfl]
      exact seated
    · obtain ⟨hnone, hlocks⟩ := others w hw
      rw [if_neg (Ne.symm hw), ← hnone, Function.update_eq_self, hlocks]
      exact h.seated w
  tidy n t' ht' := by
    by_cases hn : n = number
    · rw [hn, get?_tasks_setTask_self] at ht'
      exact Option.some.inj ht' ▸ tidy
    · rw [get?_tasks_setTask_of_ne _ _ hn, tasks] at ht'
      exact h.tidy n t' ht'

/-! ### Steps and places -/

theorem locks_leave (s : Session σ) (w w' : Worker) (number : Nat) (slot : Option Nat) :
    ((s.leave w number slot).desk w').locks =
      if w' = w then slot.elim (s.desk w').locks fun q => (s.desk w').locks.leave q number
      else (s.desk w').locks := by
  cases slot with
  | none => simp [leave]
  | some q =>
    simp only [leave, Option.elim_some, desk_modifyDesk]
    split <;> rfl

theorem beginWait_turn (s : Session σ) (w : Worker) (number : Nat) (slot : Option Nat) {a : Await}
    {gate : Gate} (h : a = .turn gate) :
    (s.beginWait w number slot a).1.slot? = some ((s.desk w).locks.enter gate number).2 ∧
      (s.beginWait w number slot a).2.1 = some ((s.desk w).locks.enter gate number).2 ∧
      ∀ w', ((s.beginWait w number slot a).2.2.desk w').locks =
        if w' = w then ((s.desk w).locks.enter gate number).1 else (s.desk w').locks := by
  subst h
  refine ⟨rfl, rfl, fun w' => ?_⟩
  simp only [beginWait, desk_modifyDesk]
  split <;> rfl

theorem beginWait_of_ne_turn (s : Session σ) (w : Worker) (number : Nat) (slot : Option Nat)
    {a : Await} (h : ∀ gate, a ≠ .turn gate) :
    (s.beginWait w number slot a).1.slot? = none ∧ (s.beginWait w number slot a).2.1 = slot ∧
      ∀ w', ((s.beginWait w number slot a).2.2.desk w').locks = (s.desk w').locks := by
  cases a with
  | call r limit => exact ⟨rfl, rfl, fun w' => by simp [beginWait]⟩
  | turn gate => exact absurd rfl (h gate)
  | pause d => exact ⟨rfl, rfl, fun _ => rfl⟩

theorem ne_turn_of_guards {j : Job} {p : j.Point} {gate : Gate} (h : j.guards p = some gate)
    (gate' : Gate) : j.awaits p ≠ .turn gate' := by
  intro hturn
  rw [Job.guards_eq_none_of_turn hturn] at h
  cases h

theorem gateAt?_of_ne_turn {j : Job} {p : j.Point} (h : ∀ gate, j.awaits p ≠ .turn gate) :
    j.gateAt? p = j.guards p := by
  unfold Job.gateAt?
  split
  next gate hturn => exact absurd hturn (h gate)
  next => rfl
  next => rfl

theorem gateAt?_of_guards {j : Job} {p : j.Point} {gate : Gate} (h : j.guards p = some gate) :
    j.gateAt? p = some gate := (gateAt?_of_ne_turn (ne_turn_of_guards h)).trans h

theorem gateAt?_of_turn {j : Job} {p : j.Point} {gate : Gate} (h : j.awaits p = .turn gate) :
    j.gateAt? p = some gate := by
  unfold Job.gateAt?
  rw [h]

theorem Task.place?_waiting {j : Job} (cancelAt : Option Instant) (point : j.Point)
    (hold : Hold σ (j.awaits point)) (slot : Option Nat) :
    Task.place? ⟨j, cancelAt, .waiting point hold slot⟩ =
      slot.bind fun slot => (j.gateAt? point).map fun gate =>
        ⟨slot, gate, (j.guards point).isSome⟩ := rfl

/-- A task without a place that goes on to where it holds no gate asks for one at most. -/
theorem Orderly.wait {s s₁ : Session σ} (h : s.Orderly) {number : Nat} {j : Job} {point : j.Point}
    (tasks : s₁.tasks = s.tasks) (unguarded : j.guards point = none)
    (others : ∀ w, w ≠ j.worker →
      s.place? w number = none ∧ (s₁.desk w).locks = (s.desk w).locks)
    (left : Seated (s₁.desk j.worker).locks (Function.update (s.place? j.worker) number none))
    (cancelAt : Option Instant) :
    ((s₁.beginWait j.worker number none (j.awaits point)).2.2.setTask number
      ⟨j, cancelAt, .waiting point (s₁.beginWait j.worker number none (j.awaits point)).1
        (s₁.beginWait j.worker number none (j.awaits point)).2.1⟩).Orderly := by
  have htasks := (tasks_beginWait s₁ j.worker number none (j.awaits point)).trans tasks
  by_cases hturn : ∃ gate, j.awaits point = .turn gate
  · obtain ⟨gate, hturn⟩ := hturn
    obtain ⟨hhold, hslot, hlocks⟩ := beginWait_turn s₁ j.worker number none hturn
    refine h.setTask htasks ⟨?_, ?_⟩ (fun w hw => ⟨(others w hw).1, ?_⟩) ?_
    · rw [hslot, gateAt?_of_turn hturn]
      rfl
    · rw [hslot, hhold]
      exact fun _ => id
    · rw [hlocks, if_neg hw, (others w hw).2]
    · have hentered := left.enter (Function.update_self ..) gate
      rw [Function.update_idem] at hentered
      rw [hlocks, if_pos rfl, Task.place?_waiting, hslot, gateAt?_of_turn hturn, unguarded]
      exact hentered
  · have hturn : ∀ gate, j.awaits point ≠ .turn gate := fun gate heq => hturn ⟨gate, heq⟩
    obtain ⟨hhold, hslot, hlocks⟩ := beginWait_of_ne_turn s₁ j.worker number none hturn
    refine h.setTask htasks ⟨?_, ?_⟩ (fun w hw => ⟨(others w hw).1, ?_⟩) ?_
    · rw [hslot, gateAt?_of_ne_turn hturn, unguarded]
      rfl
    · rw [hhold]
      exact nofun
    · rw [hlocks, (others w hw).2]
    · rw [hlocks, Task.place?_waiting, hslot]
      exact left

/-- A task that goes on is seated anew.  It may go on to hold a gate only if it comes first
there. -/
theorem Orderly.proceed {s s₁ : Session σ} (h : s.Orderly) {number : Nat} {j : Job}
    (tasks : s₁.tasks = s.tasks) (locks : ∀ w, (s₁.desk w).locks = (s.desk w).locks)
    (job : s.job? number = some j) (cancelAt : Option Instant) {slot : Option Nat}
    (slot_eq : slot = (s.place? j.worker number).map (·.slot)) {next : Next j.Point j.Result}
    (entering : ∀ gate, next.Enters j.guards gate → ∃ p, s.place? j.worker number = some p ∧
      p.key = gate ∧ ((s.desk j.worker).locks.clients p.slot).head? = some number) :
    (s₁.proceed number j cancelAt slot next).Orderly := by
  subst slot_eq
  have away : ∀ w, w ≠ j.worker → s.place? w number = none := by
    intro w hw
    obtain ⟨t, ht, rfl⟩ := Option.map_eq_some_iff.1 job
    rw [place?, ht, Option.bind_some, if_neg (Ne.symm hw)]
  have htasks :=
    (tasks_leave s₁ j.worker number ((s.place? j.worker number).map (·.slot))).trans tasks
  have hothers : ∀ w, w ≠ j.worker → s.place? w number = none ∧ ((s₁.leave j.worker number
      ((s.place? j.worker number).map (·.slot))).desk w).locks = (s.desk w).locks :=
    fun w hw => ⟨away w hw, by rw [locks_leave, if_neg hw, locks]⟩
  have hleft : Seated ((s₁.leave j.worker number
      ((s.place? j.worker number).map (·.slot))).desk j.worker).locks
      (Function.update (s.place? j.worker) number none) := by
    rw [locks_leave, if_pos rfl, locks]
    exact (h.seated j.worker).leave? number
  cases next with
  | done result => exact h.setTask htasks trivial hothers hleft
  | crash => exact h.setTask htasks trivial hothers hleft
  | goOn point =>
    obtain ⟨s₂, slot₂, hs₂, hproceed⟩ :=
      proceed_goOn s₁ number j cancelAt ((s.place? j.worker number).map (·.slot)) point
    rw [hproceed]
    rcases hs₂ with ⟨hguards, rfl, rfl⟩ | ⟨hguards, rfl, rfl⟩
    · obtain ⟨gate, hgate⟩ := Option.isSome_iff_exists.1 hguards
      obtain ⟨p, hp, rfl, hfirst⟩ := entering gate ⟨point, rfl, hgate⟩
      obtain ⟨hhold, hslot, hlocks⟩ := beginWait_of_ne_turn s₂ j.worker number
        ((s.place? j.worker number).map (·.slot)) (ne_turn_of_guards hgate)
      refine h.setTask ((tasks_beginWait ..).trans tasks) ⟨?_, ?_⟩
        (fun w hw => ⟨away w hw, (hlocks w).trans (locks w)⟩) ?_
      · rw [hslot, gateAt?_of_guards hgate, hp]
        rfl
      · rw [hhold]
        exact nofun
      · rw [hlocks, locks, Task.place?_waiting, hslot, gateAt?_of_guards hgate, hgate, hp]
        exact (h.seated j.worker).hold hp hfirst true
    · exact h.wait htasks (by simpa using hguards) hothers hleft cancelAt

theorem place?_of_get? {s : Session σ} {number : Nat} {t : Task σ}
    (task : s.tasks.get? number = some t) : s.place? t.job.worker number = t.place? := by
  rw [place?, task, Option.bind_some, if_pos rfl]

theorem place?_of_get?_of_ne {s : Session σ} {w : Worker} {number : Nat} {t : Task σ}
    (task : s.tasks.get? number = some t) (h : w ≠ t.job.worker) : s.place? w number = none := by
  rw [place?, task, Option.bind_some, if_neg (Ne.symm h)]

theorem Orderly.slot_eq {s : Session σ} (h : s.Orderly) {number : Nat} {j : Job}
    {cancelAt : Option Instant} {point : j.Point} {hold : Hold σ (j.awaits point)}
    {slot : Option Nat}
    (task : s.tasks.get? number = some ⟨j, cancelAt, .waiting point hold slot⟩) :
    slot = (s.place? j.worker number).map (·.slot) := by
  have hplace := place?_of_get? task
  have htidy : slot.isSome = (j.gateAt? point).isSome := (h.tidy number _ task).1
  rw [hplace, Task.place?_waiting]
  cases slot with
  | none => rfl
  | some q =>
    obtain ⟨gate, hgate⟩ := Option.isSome_iff_exists.1 htidy.symm
    simp [hgate]

/-- A task that holds or awaits a gate has a place at its lock. -/
theorem Orderly.exists_place? {s : Session σ} (h : s.Orderly) {number : Nat} {j : Job}
    {cancelAt : Option Instant} {point : j.Point} {hold : Hold σ (j.awaits point)}
    {slot : Option Nat} (task : s.tasks.get? number = some ⟨j, cancelAt, .waiting point hold slot⟩)
    {gate : Gate} (at_ : j.gateAt? point = some gate) :
    ∃ q, slot = some q ∧
      s.place? j.worker number = some ⟨q, gate, (j.guards point).isSome⟩ := by
  have hsome : slot.isSome = (j.gateAt? point).isSome := (h.tidy number _ task).1
  rw [at_] at hsome
  obtain ⟨q, rfl⟩ : ∃ q, slot = some q := Option.isSome_iff_exists.1 hsome
  refine ⟨q, rfl, ?_⟩
  rw [place?_of_get? task, Task.place?_waiting, at_]
  rfl

/-- A place at a lock is the first of its slot once it is looked at and found to be held. -/
theorem head?_of_look {s : Session σ} {w : Worker} {number : Nat} {a : Await} {hold : Hold σ a}
    {answer : a.Answer} {provider : σ} {gate : Gate} (turn : a = .turn gate)
    (looked : s.look w number a hold = .finished answer provider) :
    ∃ q, hold.slot? = some q ∧ ((s.desk w).locks.clients q).head? = some number := by
  cases hold with
  | call pending deadline => cases turn
  | pause until_ => cases turn
  | turn q =>
    rw [look] at looked
    split at looked
    next hheld => exact ⟨q, rfl, KeyedLock.isHeldBy_iff.1 hheld⟩
    next => cases looked

theorem slot?_of_look_eq_moved {s : Session σ} {w : Worker} {number : Nat} {a : Await}
    {hold hold' : Hold σ a} {provider : σ}
    (looked : s.look w number a hold = .moved hold' provider) : hold'.slot? = none := by
  cases hold with
  | call pending deadline => cases hold'; rfl
  | turn slot =>
    rw [look] at looked
    split at looked <;> cases looked
  | pause until_ =>
    rw [look] at looked
    split at looked <;> cases looked

theorem locks_abandon (s : Session σ) {a : Await} (hold : Hold σ a) (w : Worker) :
    ((s.abandon hold).desk w).locks = (s.desk w).locks := by
  cases hold <;> cases w <;> rfl

theorem locks_keepCache (s : Session σ) (w' : Worker) (cache : VerdictCache) (w : Worker) :
    ((s.keepCache w' cache).desk w).locks = (s.desk w).locks := by
  rw [keepCache, desk_modifyDesk]
  split <;> rfl

theorem Orderly.cancel {s : Session σ} (h : s.Orderly) (number : Nat) :
    (s.cancel number).Orderly := by
  unfold Session.cancel
  split
  next j cancelAt task =>
    refine h.setTask rfl trivial (fun w hw => ⟨place?_of_get?_of_ne task hw, rfl⟩) ?_
    have hplace : s.place? j.worker number = none := place?_of_get? task
    have hseated := h.seated j.worker
    rw [← Function.update_eq_self number (s.place? j.worker), hplace] at hseated
    exact hseated
  next j cancelAt point hold slot task =>
    have hslot := h.slot_eq task
    subst hslot
    refine h.setTask ((tasks_leave ..).trans (tasks_abandon s hold)) trivial
      (fun w hw => ⟨place?_of_get?_of_ne task hw, ?_⟩) ?_
    · rw [locks_leave, if_neg hw, locks_abandon]
    · rw [locks_leave, if_pos rfl, locks_abandon]
      exact (h.seated j.worker).leave? number
  next => exact h

/-- A task whose turn it is comes first in the slot of its place. -/
theorem Orderly.exists_place?_of_turn {s : Session σ} (h : s.Orderly) {n : Nat} {j : Job}
    {cancelAt : Option Instant} {p : j.Point} {hold : Hold σ (j.awaits p)} {slot : Option Nat}
    (task : s.tasks.get? n = some ⟨j, cancelAt, .waiting p hold slot⟩) {gate : Gate}
    (turn : j.awaits p = .turn gate) {answer : (j.awaits p).Answer} {provider : σ}
    (looked : s.look j.worker n (j.awaits p) hold = .finished answer provider) :
    ∃ q, s.place? j.worker n = some ⟨q, gate, false⟩ ∧
      ((s.desk j.worker).locks.clients q).head? = some n := by
  obtain ⟨q, rfl, hplace⟩ := h.exists_place? task (gateAt?_of_turn turn)
  obtain ⟨q', hq', hhead⟩ := head?_of_look turn looked
  have hslot : some q = some q' := (h.tidy n _ task).2 q' hq'
  cases hslot
  rw [Job.guards_eq_none_of_turn turn] at hplace
  exact ⟨q, hplace, hhead⟩

/-- A task that goes on to hold a gate came first in the slot of its place. -/
theorem Orderly.head?_of_enters {s : Session σ} (h : s.Orderly) {number : Nat} {j : Job}
    {cancelAt : Option Instant} {point : j.Point} {hold : Hold σ (j.awaits point)}
    {slot : Option Nat} {answer : (j.awaits point).Answer} {provider : σ}
    (task : s.tasks.get? number = some ⟨j, cancelAt, .waiting point hold slot⟩)
    (looked : s.look j.worker number (j.awaits point) hold = .finished answer provider)
    {gate : Gate}
    (enters :
      (j.resume (s.setup.brief number) s.now (s.desk j.worker).cache point answer).1.Enters
        j.guards gate) :
    ∃ p, s.place? j.worker number = some p ∧ p.key = gate ∧
      ((s.desk j.worker).locks.clients p.slot).head? = some number := by
  have hgate := Job.gateAt?_of_enters_resume enters
  obtain ⟨q, rfl, hplace⟩ := h.exists_place? task hgate
  refine ⟨_, hplace, rfl, ?_⟩
  by_cases hturn : ∃ gate, j.awaits point = .turn gate
  · obtain ⟨gate', hturn⟩ := hturn
    obtain ⟨q', hplace', hhead⟩ := h.exists_place?_of_turn task hturn looked
    obtain rfl : q = q' := congrArg Place.slot (Option.some.inj (hplace.symm.trans hplace'))
    exact hhead
  · have hguards : j.guards point = some gate :=
      (gateAt?_of_ne_turn fun gate heq => hturn ⟨gate, heq⟩).symm.trans hgate
    exact (h.seated j.worker).first number _ hplace (by rw [hguards]; rfl)

theorem Took.orderly {s s' : Session σ} {number : Nat} (took : Took s number s') (h : s.Orderly) :
    s'.Orderly := by
  cases took with
  | @started j cancelAt task =>
    have hjob : s.job? number = some j := job?_of_get? task
    have hplace : s.place? j.worker number = none := place?_of_get? task
    exact h.proceed (tasks_keepCache ..) (locks_keepCache s j.worker _) hjob cancelAt
      (by rw [hplace]; rfl) fun gate henters => absurd henters Job.not_enters_start
  | @moved j cancelAt point hold hold' slot provider task looked =>
    have htidy : slot.isSome = (j.gateAt? point).isSome ∧
      ∀ q, hold.slot? = some q → slot = some q := h.tidy number _ task
    have hplace : s.place? j.worker number =
        Task.place? ⟨j, cancelAt, .waiting point hold' slot⟩ := place?_of_get? task
    refine h.setTask rfl ⟨htidy.1, ?_⟩ (fun w hw => ⟨place?_of_get?_of_ne task hw, rfl⟩) ?_
    · rw [slot?_of_look_eq_moved looked]
      exact nofun
    · rw [← hplace, Function.update_eq_self]
      exact h.seated j.worker
  | @answered j cancelAt point hold slot answer provider task looked =>
    have hjob : s.job? number = some j := job?_of_get? task
    exact h.proceed (tasks_keepCache { s with provider } ..)
      (locks_keepCache { s with provider } j.worker _) hjob cancelAt (h.slot_eq task)
      fun gate henters => h.head?_of_enters task looked henters
  | dropped => exact h.cancel number

theorem orderly_begin (setup : Setup) (provider : σ) : (begin setup provider).Orderly where
  seated w := by
    cases w <;> exact Seated.empty
  tidy _ _ := nofun

theorem Move.orderly {w : Surroundings σ} {s s' : Session σ} {c : Cause} (move : Move w s c s')
    (fresh : s.Fresh) (h : s.Orderly) : s'.Orderly := by
  cases move with
  | @submit j cancelAfter asked =>
    have hnone : ∀ w, s.place? w s.next = none := fun w => by
      rw [place?, fresh _ (Nat.le_refl _), Option.bind_none]
    have hsubmit : (s.submit j cancelAfter).2 =
        { s with next := s.next + 1 }.setTask s.next ⟨j, cancelAfter.map (s.now + ·), .ready⟩ := rfl
    rw [hsubmit]
    refine h.setTask rfl trivial (fun w _ => ⟨hnone w, rfl⟩) ?_
    have hseated := h.seated j.worker
    rw [← Function.update_eq_self s.next (s.place? j.worker), hnone] at hseated
    exact hseated
  | step taken => exact (took_of_step? taken).orderly h
  | cancel number => exact h.cancel number
  | pass d => exact ⟨fun w => h.seated w, h.tidy⟩
  | meddle changed => exact ⟨fun w => h.seated w, h.tidy⟩

theorem History.orderly {w : Surroundings σ} {s₀ s : Session σ} {past : List (Moment σ)}
    (h : History w s₀ past s) (fresh : s₀.Fresh) (begins : s₀.Orderly) : s.Orderly := by
  induction h with
  | start => exact begins
  | go h move ih => exact move.orderly (h.fresh fresh) ih

/-- A task that holds a gate has a place at its lock. -/
theorem Orderly.exists_place?_of_guards {s : Session σ} (h : s.Orderly) {n : Nat} {j : Job}
    {p : j.Point} (hn : s.standing? n = some ⟨j, .goOn p⟩) {gate : Gate}
    (hp : j.guards p = some gate) : ∃ slot, s.place? j.worker n = some ⟨slot, gate, true⟩ := by
  obtain ⟨cancelAt, hold, slot, task⟩ := exists_get?_of_standing? hn
  obtain ⟨q, -, hplace⟩ := h.exists_place? task (gateAt?_of_guards hp)
  rw [hp] at hplace
  exact ⟨q, hplace⟩

/-- Two tasks of a worker that hold the same gate are the same. -/
theorem Orderly.eq_of_guards {s : Session σ} (h : s.Orderly) {n m : Nat} {j k : Job} {p : j.Point}
    {q : k.Point} (hn : s.standing? n = some ⟨j, .goOn p⟩) (hm : s.standing? m = some ⟨k, .goOn q⟩)
    (worker : j.worker = k.worker) {gate : Gate} (hp : j.guards p = some gate)
    (hq : k.guards q = some gate) : n = m := by
  obtain ⟨slot, hplace⟩ := h.exists_place?_of_guards hn hp
  obtain ⟨slot', hplace'⟩ := h.exists_place?_of_guards hm hq
  rw [← worker] at hplace'
  exact (h.seated j.worker).eq_of_holds hplace hplace' rfl rfl rfl

/-- While a task holds a gate it is no other task's turn at it. -/
theorem Orderly.guards_ne_of_turn {s : Session σ} (h : s.Orderly) {n m : Nat} {j k : Job}
    {cancelAt : Option Instant} {p : j.Point} {hold : Hold σ (j.awaits p)} {slot : Option Nat}
    (task : s.tasks.get? n = some ⟨j, cancelAt, .waiting p hold slot⟩) {gate : Gate}
    (turn : j.awaits p = .turn gate) {answer : (j.awaits p).Answer} {provider : σ}
    (looked : s.look j.worker n (j.awaits p) hold = .finished answer provider) {q : k.Point}
    (hm : s.standing? m = some ⟨k, .goOn q⟩) (worker : j.worker = k.worker) :
    k.guards q ≠ some gate := by
  intro hq
  obtain ⟨slot₁, hplace, hfirst⟩ := h.exists_place?_of_turn task turn looked
  obtain ⟨slot₂, hplace'⟩ := h.exists_place?_of_guards hm hq
  rw [← worker] at hplace'
  have hslot : slot₁ = slot₂ := (h.seated j.worker).slot_eq hplace hplace' rfl
  have hfirst' := (h.seated j.worker).first m _ hplace' rfl
  have hnm : n = m := Option.some.inj (hfirst.symm.trans (hslot ▸ hfirst'))
  subst hnm
  cases hplace.symm.trans hplace'

end Session

end NodeSupply
