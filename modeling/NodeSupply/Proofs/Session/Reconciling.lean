import NodeSupply.Proofs.Routine.Provision
import NodeSupply.Proofs.Session.Turns

/-!
# Reconciliations in a session

A class is reconciled by a task of its own or by a task that launches a node.  Either way the
routine is the same, and those of one worker share the kept verdicts and take turns.  Here it is
said once how a reconciliation goes on when its task takes a step, and where one comes from that is
seen after a move.

## Main definitions

* `Session.Reconciling` : a task reconciles a class and stands at a point.
* `Session.Calling`, `Session.HasTurn` : it makes the calls of the checks, or it is its turn.
* `Session.Stores` : a moment at which it finds a verdict out and keeps it.
* `Session.Begun`, `Session.Beyond` : a task has taken a step, or does not reconcile any more.

## Main statements

* `Session.Took.keeps_desk` : what a step may leave in the kept verdicts of a worker.
* `Session.Reconciling.step?` : how a reconciliation goes on.
* `Session.Move.reconciling` : where a reconciliation comes from.
* `Session.Move.calling` : a reconciliation gets to the checks only by its turn.
-/

namespace NodeSupply.Session

variable {σ : Type} [Provider σ]

/-! ### The kept verdicts of a desk -/

@[simp] theorem cache_leave (s : Session σ) (w w' : Worker) (number : Nat) (slot : Option Nat) :
    ((s.leave w number slot).desk w').cache = (s.desk w').cache := by
  cases slot with
  | none => rfl
  | some place =>
    simp only [leave, Option.elim_some, desk_modifyDesk]
    split <;> rfl

@[simp] theorem cache_abandon (s : Session σ) {a : Await} (hold : Hold σ a) (w : Worker) :
    ((s.abandon hold).desk w).cache = (s.desk w).cache := by
  cases hold <;> cases w <;> rfl

@[simp] theorem cache_beginWait (s : Session σ) (w w' : Worker) (number : Nat) (slot : Option Nat)
    (a : Await) : ((s.beginWait w number slot a).2.2.desk w').cache = (s.desk w').cache := by
  cases a with
  | call r limit => cases w' <;> rfl
  | pause d => rfl
  | turn gate =>
    simp only [beginWait, desk_modifyDesk]
    split <;> rfl

@[simp] theorem cache_keepCache_self (s : Session σ) (w : Worker) (cache : VerdictCache) :
    ((s.keepCache w cache).desk w).cache = cache := by
  rw [keepCache, desk_modifyDesk, if_pos rfl]

theorem cache_keepCache_of_ne (s : Session σ) {w w' : Worker} (cache : VerdictCache)
    (ne : w' ≠ w) : ((s.keepCache w cache).desk w').cache = (s.desk w').cache := by
  rw [keepCache, desk_modifyDesk, if_neg ne]

/-- A task that goes on keeps no verdict. -/
@[simp] theorem cache_proceed (s : Session σ) (number : Nat) (j : Job) (cancelAt : Option Instant)
    (slot : Option Nat) (next : Next j.Point j.Result) (w : Worker) :
    ((s.proceed number j cancelAt slot next).desk w).cache = (s.desk w).cache := by
  cases next with
  | done result => rw [proceed, desk_setTask, cache_leave]
  | crash => rw [proceed, desk_setTask, cache_leave]
  | goOn point =>
    obtain ⟨s₁, slot₁, hs₁, hproceed⟩ := proceed_goOn s number j cancelAt slot point
    rw [hproceed, desk_setTask, cache_beginWait]
    rcases hs₁ with ⟨-, rfl, -⟩ | ⟨-, rfl, -⟩
    · rfl
    · exact cache_leave ..

@[simp] theorem cache_cancel (s : Session σ) (number : Nat) (w : Worker) :
    ((s.cancel number).desk w).cache = (s.desk w).cache := by
  unfold cancel
  split
  next => rw [desk_setTask]
  next => rw [desk_setTask, cache_leave, cache_abandon]
  next => rfl

/-! ### Reconciliations -/

/-- The task of a number reconciles a class for a worker.  It stands at a point and waits on
something. -/
inductive Reconciling (s : Session σ) (number : Nat) :
    Worker → (q : Reconcile.Point) → Hold σ q.awaits → Prop where
  | alone {c : NodeClass} {cancelAt : Option Instant} {q : Reconcile.Point}
      {hold : Hold σ q.awaits} {slot : Option Nat}
      (task : s.tasks.get? number = some ⟨.reconcile c, cancelAt, .waiting q hold slot⟩) :
      Reconciling s number .keeper q hold
  | launching {c : NodeClass} {r r' : NodeRequest} {cancelAt : Option Instant}
      {q : Reconcile.Point} {hold : Hold σ q.awaits} {slot : Option Nat}
      (task : s.tasks.get? number =
        some ⟨.provision c r, cancelAt, .waiting (.reconciling r' q) hold slot⟩) :
      Reconciling s number .launcher q hold

/-- The task of a number makes a call of the checks of a class with a key. -/
def Calling (s : Session σ) (who : Worker) (key : String) (number : Nat) : Prop :=
  ∃ c stage hold, Reconciling s number who (.checking c stage) hold ∧ Fingerprint.key c = key

/-- It is the turn of the task of a number to reconcile a class. -/
def HasTurn (s : Session σ) (who : Worker) (number : Nat) (c : NodeClass) : Prop :=
  ∃ hold provider, Reconciling s number who (.queued c) hold ∧
    s.look who number (Reconcile.Point.awaits (.queued c)) hold = .finished () provider

/-- At a moment the task of a number finds the verdict on a class out, and keeps it. -/
def Stores (m : Moment σ) (who : Worker) (number : Nat) (c : NodeClass) (v : Verdict) : Prop :=
  m.cause = .stepped number ∧ ∃ q hold answer provider, Reconciling m.before number who q hold ∧
    m.before.look who number q.awaits hold = .finished answer provider ∧ q.nodeClass = c ∧
    Reconcile.Finds m.before.setup.settings m.before.now (m.before.desk who).cache q answer v

variable {w : Surroundings σ} {s₀ s s' : Session σ} {past : List (Moment σ)} {n : Nat}
  {who : Worker} {q : Reconcile.Point} {hold : Hold σ q.awaits} {key : String}

/-- How far a task has come that reconciles a class for a worker. -/
inductive Standing.Reconciles : Standing → Worker → Reconcile.Point → Prop where
  | alone (c : NodeClass) (q : Reconcile.Point) : Reconciles ⟨.reconcile c, .goOn q⟩ .keeper q
  | launching (c : NodeClass) (r r' : NodeRequest) (q : Reconcile.Point) :
      Reconciles ⟨.provision c r, .goOn (.reconciling r' q)⟩ .launcher q

theorem Reconciling.exists_standing? (h : Reconciling s n who q hold) :
    ∃ x, s.standing? n = some x ∧ x.Reconciles who q := by
  cases h with
  | alone task => exact ⟨_, standing?_of_get? task, .alone ..⟩
  | launching task => exact ⟨_, standing?_of_get? task, .launching ..⟩

theorem exists_reconciling_of_standing? {x : Standing} (hn : s.standing? n = some x)
    (h : x.Reconciles who q) : ∃ hold, Reconciling s n who q hold := by
  cases h with
  | alone c =>
    obtain ⟨cancelAt, hold, slot, task⟩ := exists_get?_of_standing? hn
    exact ⟨hold, .alone task⟩
  | launching c r r' =>
    obtain ⟨cancelAt, hold, slot, task⟩ := exists_get?_of_standing? hn
    exact ⟨hold, .launching task⟩

theorem Standing.Reconciles.eq {x : Standing} {who' : Worker} {q' : Reconcile.Point}
    (h : x.Reconciles who q) (h' : x.Reconciles who' q') : who = who' ∧ q = q' := by
  cases h <;> cases h' <;> exact ⟨rfl, rfl⟩

/-- A task stands at one point. -/
theorem Reconciling.eq {who' : Worker} {q' : Reconcile.Point} {hold' : Hold σ q'.awaits}
    (h : Reconciling s n who q hold) (h' : Reconciling s n who' q' hold') :
    who = who' ∧ q = q' := by
  obtain ⟨x, hx, hreconciles⟩ := h.exists_standing?
  obtain ⟨x', hx', hreconciles'⟩ := h'.exists_standing?
  cases hx.symm.trans hx'
  exact hreconciles.eq hreconciles'

/-- A task waits on one thing. -/
theorem Reconciling.hold_eq {hold' : Hold σ q.awaits} (h : Reconciling s n who q hold)
    (h' : Reconciling s n who q hold') : hold = hold' := by
  cases h with
  | alone task =>
    cases h' with
    | alone task' =>
      cases task.symm.trans task'
      rfl
  | launching task =>
    cases h' with
    | launching task' =>
      cases task.symm.trans task'
      rfl

/-- With what it waited for a reconciliation goes on as its routine does, or is over. -/
theorem Reconciling.step? (h : Reconciling s n who q hold) {answer : q.awaits.Answer} {provider : σ}
    (looked : s.look who n q.awaits hold = .finished answer provider)
    {next : Next Reconcile.Point Reconcile.Result} {cache : VerdictCache}
    (resumed : Reconcile.resume s.setup.settings s.now (s.desk who).cache q answer =
      (next, cache)) :
    ∃ s', s.step? n = some s' ∧ (s'.desk who).cache = cache ∧
      ∀ who' q', (∃ hold', Reconciling s' n who' q' hold') ↔ who' = who ∧ next = .goOn q' := by
  cases h with
  | @alone c cancelAt q hold slot task =>
    refine ⟨_, step?_of_look task looked resumed,
      (cache_proceed ..).trans (cache_keepCache_self ..), fun who' q' => ?_⟩
    have hstanding := (standing?_proceed ({ s with provider }.keepCache .keeper cache) n
      (.reconcile c) cancelAt slot next n).trans (if_pos rfl)
    constructor
    · rintro ⟨hold', h'⟩
      obtain ⟨x, hx, hreconciles⟩ := h'.exists_standing?
      cases hstanding.symm.trans hx
      cases hreconciles
      exact ⟨rfl, rfl⟩
    · rintro ⟨rfl, rfl⟩
      exact exists_reconciling_of_standing? hstanding (.alone c q')
  | @launching c r r' cancelAt q hold slot task =>
    have hresume : Provision.resume (s.setup.brief n) s.now s.launcher.cache (.reconciling r' q)
        answer = (next.map (.reconciling r')
          (Provision.afterReconcile (s.setup.brief n) s.now q.nodeClass r'), cache) := by
      change Reconcile.resume s.setup.settings s.now s.launcher.cache q answer = _ at resumed
      rw [Provision.resume, Setup.settings_brief, resumed]
    refine ⟨_, step?_of_look task looked hresume,
      (cache_proceed ..).trans (cache_keepCache_self ..), fun who' q' => ?_⟩
    have hstanding := (standing?_proceed ({ s with provider }.keepCache .launcher cache) n
      (.provision c r) cancelAt slot (next.map (.reconciling r')
        (Provision.afterReconcile (s.setup.brief n) s.now q.nodeClass r')) n).trans (if_pos rfl)
    constructor
    · rintro ⟨hold', h'⟩
      obtain ⟨x, hx, hreconciles⟩ := h'.exists_standing?
      cases hstanding.symm.trans hx
      generalize hnext : next.map (Provision.Point.reconciling r')
        (Provision.afterReconcile (s.setup.brief n) s.now q.nodeClass r') = next' at hreconciles
      cases hreconciles
      exact ⟨rfl, Provision.eq_goOn_of_reconciling? (congrArg Provision.reconciling? hnext)⟩
    · rintro ⟨rfl, rfl⟩
      exact exists_reconciling_of_standing? hstanding (.launching c r r' q')

/-! ### Kept verdicts -/

/-- No job but that of forgetting does more at its start than to look at the kept verdicts. -/
theorem glanced_start {brief : Brief} {now : Instant} {cache : VerdictCache} {j : Job}
    (other : ∀ name, j ≠ .forget name) : cache.Glanced now (j.start brief now cache).2 := by
  cases j with
  | forget name => exact absurd rfl (other name)
  | peek c => exact Reconcile.glanced_peek ..
  | _ => exact .inl rfl

/-- What a reconciliation leaves in the kept verdicts. -/
theorem Reconciling.stores_or_glanced (h : Reconciling s n who q hold) {answer : q.awaits.Answer}
    {provider : σ} (looked : s.look who n q.awaits hold = .finished answer provider)
    (s' : Session σ) : (∃ v, Stores ⟨s, .stepped n, s'⟩ who n q.nodeClass v) ∨
      (s.desk who).cache.Glanced s.now
        (Reconcile.resume s.setup.settings s.now (s.desk who).cache q answer).2 := by
  rcases Reconcile.finds_or_glanced s.setup.settings s.now (s.desk who).cache q answer with
    ⟨v, hfinds⟩ | ⟨hglanced, -⟩
  · exact .inl ⟨v, rfl, q, hold, answer, provider, h, looked, rfl, hfinds⟩
  · exact .inr hglanced

/-- A step of a task only looks at the kept verdicts of a worker, or it finds a verdict out, or
forgets a class. -/
theorem Took.keeps_desk (took : Took s n s') (who : Worker) :
    (s.desk who).cache.Glanced s.now (s'.desk who).cache ∨
      (∃ c v, Stores ⟨s, .stepped n, s'⟩ who n c v) ∨
      who = .keeper ∧ ∃ name cancelAt, s.tasks.get? n = some ⟨.forget name, cancelAt, .ready⟩ := by
  cases took with
  | @started j cancelAt task =>
    rw [cache_proceed]
    by_cases hworker : j.worker = who
    · subst hworker
      rw [cache_keepCache_self]
      by_cases hforget : ∃ name, j = .forget name
      · obtain ⟨name, rfl⟩ := hforget
        exact .inr (.inr ⟨rfl, name, cancelAt, task⟩)
      · exact .inl (glanced_start fun name hj => hforget ⟨name, hj⟩)
    · rw [cache_keepCache_of_ne _ _ (Ne.symm hworker)]
      exact .inl (.inl rfl)
  | moved task looked =>
    rw [desk_setTask, desk_withProvider]
    exact .inl (.inl rfl)
  | @answered j cancelAt point hold slot answer provider task looked =>
    by_cases hworker : j.worker = who
    · subst hworker
      have reconciles : ∀ {q : Reconcile.Point} {hold : Hold σ q.awaits} {answer : q.awaits.Answer}
          {s' : Session σ}, Reconciling s n j.worker q hold →
          s.look j.worker n q.awaits hold = .finished answer provider →
          (s'.desk j.worker).cache =
            (Reconcile.resume s.setup.settings s.now (s.desk j.worker).cache q answer).2 →
          (s.desk j.worker).cache.Glanced s.now (s'.desk j.worker).cache ∨
            ∃ c v, Stores ⟨s, .stepped n, s'⟩ j.worker n c v := by
        intro q hold answer s' h looked hcache
        rcases h.stores_or_glanced looked s' with ⟨v, hstores⟩ | hglanced
        · exact .inr ⟨_, v, hstores⟩
        · exact .inl (hglanced.of_eq hcache)
      have hkept := (cache_proceed (({ s with provider }.keepCache j.worker
        (j.resume (s.setup.brief n) s.now (s.desk j.worker).cache point answer).2)) n j cancelAt slot
        (j.resume (s.setup.brief n) s.now (s.desk j.worker).cache point answer).1 j.worker).trans
        (cache_keepCache_self ..)
      cases j with
      | reconcile c => exact (reconciles (.alone task) looked hkept).imp_right .inl
      | provision c r =>
        cases point with
        | reconciling r' q => exact (reconciles (.launching task) looked hkept).imp_right .inl
        | creating plan p => exact .inl (.inl hkept)
        | resolving plan group p => exact .inl (.inl hkept)
      | peek c => cases point
      | forget name => cases point
      | keptVerdicts => cases point
      | _ => exact .inl (.inl hkept)
    · rw [cache_proceed, cache_keepCache_of_ne _ _ (Ne.symm hworker), desk_withProvider]
      exact .inl (.inl rfl)
  | dropped =>
    rw [cache_cancel]
    exact .inl (.inl rfl)

theorem Move.keeps_desk {cause : Cause} (move : Move w s cause s') (who : Worker) :
    (s.desk who).cache.Glanced s.now (s'.desk who).cache ∨
      (∃ n c v, Stores ⟨s, cause, s'⟩ who n c v) ∨
      who = .keeper ∧ ∃ n name cancelAt, cause = .stepped n ∧
        s.tasks.get? n = some ⟨.forget name, cancelAt, .ready⟩ := by
  cases move with
  | submit cancelAfter asked =>
    cases who <;> exact .inl (.inl rfl)
  | @step n _ taken =>
    rcases (took_of_step? taken).keeps_desk who with
      hglanced | hstores | ⟨hwho, name, cancelAt, task⟩
    · exact .inl hglanced
    · exact .inr (.inl ⟨n, hstores⟩)
    · exact .inr (.inr ⟨hwho, n, name, cancelAt, rfl, task⟩)
  | cancel number => exact .inl (.inl (cache_cancel s number who))
  | pass d =>
    cases who <;> exact .inl (.inl rfl)
  | meddle changed => exact .inl (.inl (by rw [desk_withProvider]))

theorem Move.taken (move : Move w s (.stepped n) s') : s.step? n = some s' := by
  cases move with
  | step taken => exact taken

/-- A verdict that is found out is kept, and its task reconciles no more. -/
theorem Move.exists_of_stores {m : Moment σ} (move : Move w m.before m.cause m.after)
    {c : NodeClass} {v : Verdict} (stores : Stores m who n c v) :
    (∃ cache, (m.before.desk who).cache.Glanced m.before.now cache ∧
        (m.after.desk who).cache = cache.insert m.before.now (Fingerprint.key c) v) ∧
      ∀ who' q' hold', ¬ Reconciling m.after n who' q' hold' := by
  obtain ⟨s, cause, s'⟩ := m
  obtain ⟨hcause, q, hold, answer, provider, h, looked, rfl, hfinds⟩ := stores
  dsimp only at move hcause h looked hfinds ⊢
  subst hcause
  obtain ⟨cache, hglanced, hresume⟩ := Reconcile.resume_of_finds hfinds
  obtain ⟨s'', hstep, hcache, hthen⟩ := h.step? looked hresume
  cases hstep.symm.trans move.taken
  refine ⟨⟨cache, hglanced, hcache⟩, fun who' q' hold' h' => ?_⟩
  cases ((hthen who' q').1 ⟨hold', h'⟩).2

/-- Who finds a verdict out was making calls, or it was its turn and no verdict was kept that
counts. -/
theorem Stores.calling_or_hasTurn {m : Moment σ} {c : NodeClass} {v : Verdict}
    (stores : Stores m who n c v) : Calling m.before who (Fingerprint.key c) n ∨
      HasTurn m.before who n c ∧
        ((m.before.desk who).cache.get m.before.now (Fingerprint.key c)).1 = none := by
  obtain ⟨-, q, hold, answer, provider, h, looked, rfl, hfinds⟩ := stores
  cases q with
  | queued c => exact .inr ⟨⟨hold, provider, h, looked⟩, hfinds.1⟩
  | checking c stage => exact .inl ⟨c, stage, hold, h, rfl⟩

/-! ### Where reconciliations come from -/

/-- The task of a number has taken a step, or was given up. -/
def Begun (s : Session σ) (number : Nat) : Prop :=
  ∃ (j : Job) (cancelAt : Option Instant) (state : TaskState σ j),
    s.tasks.get? number = some ⟨j, cancelAt, state⟩ ∧ state ≠ .ready

theorem Reconciling.begun (h : Reconciling s n who q hold) : s.Begun n := by
  cases h with
  | alone task => exact ⟨_, _, _, task, nofun⟩
  | launching task => exact ⟨_, _, _, task, nofun⟩

theorem begun_proceed (s : Session σ) (number : Nat) (j : Job) (cancelAt : Option Instant)
    (slot : Option Nat) (next : Next j.Point j.Result) :
    (s.proceed number j cancelAt slot next).Begun number := by
  cases next with
  | done result => exact ⟨j, cancelAt, .finished result, get?_tasks_setTask_self .., nofun⟩
  | crash => exact ⟨j, cancelAt, .crashed, get?_tasks_setTask_self .., nofun⟩
  | goOn point =>
    obtain ⟨hold, slot', task⟩ := exists_get?_tasks_proceed s number j cancelAt slot point
    exact ⟨j, cancelAt, .waiting point hold slot', task, nofun⟩

theorem begun_cancel (h : s.Begun n) : (s.cancel n).Begun n := by
  obtain ⟨j, cancelAt, state, task, -⟩ := h
  obtain ⟨state', task', hstate⟩ := exists_get?_tasks_cancel task
  refine ⟨j, cancelAt, state', task', ?_⟩
  rcases hstate with rfl | rfl | ⟨result, rfl⟩ <;> exact nofun

theorem Took.begun (took : Took s n s') (h : s.Begun n) : s'.Begun n := by
  cases took with
  | started task => exact begun_proceed ..
  | moved task looked => exact ⟨_, _, _, get?_tasks_setTask_self .., nofun⟩
  | answered task looked => exact begun_proceed ..
  | dropped => exact begun_cancel h

theorem Move.begun {cause : Cause} (move : Move w s cause s') (fresh : s.Fresh) (h : s.Begun n) :
    s'.Begun n := by
  by_cases own : cause = .stepped n ∨ cause = .cancelled n
  · rcases own with rfl | rfl
    · exact (took_of_step? move.taken).begun h
    · cases move with
      | cancel => exact begun_cancel h
  · obtain ⟨j, cancelAt, state, task, hstate⟩ := h
    rcases move.get?_tasks fresh own with hsame | ⟨hnone, -⟩
    · exact ⟨j, cancelAt, state, hsame.trans task, hstate⟩
    · cases hnone.symm.trans task

theorem Arrives.not_begun {j : Job} {next : Next j.Point j.Result} {provider : σ}
    (arrives : Arrives s n j next provider) (none : s.standing? n = none) : ¬ s.Begun n := by
  cases arrives with
  | start task =>
    rintro ⟨j', cancelAt', state, task', hstate⟩
    cases task.symm.trans task'
    exact hstate rfl
  | resume task looked => cases none.symm.trans (standing?_of_get? task)

/-- A task reconciles a class as before, or it has just begun, or its reconciliation went on. -/
theorem Move.reconciling {cause : Cause} (move : Move w s cause s') (fresh : s.Fresh)
    (h : Reconciling s' n who q hold) :
    (∃ hold, Reconciling s n who q hold) ∨ (¬ s.Begun n ∧ ∃ c, q = .queued c) ∨
      ∃ q₀ hold₀ answer provider, cause = .stepped n ∧ Reconciling s n who q₀ hold₀ ∧
        s.look who n q₀.awaits hold₀ = .finished answer provider ∧
        (Reconcile.resume s.setup.settings s.now (s.desk who).cache q₀ answer).1 = .goOn q := by
  have starts : ∀ {settings : Settings} {c : NodeClass},
      Reconcile.start settings c = .goOn q → ∃ c, q = .queued c := by
    intro settings c hstart
    unfold Reconcile.start at hstart
    split at hstart <;> cases hstart
    exact ⟨c, rfl⟩
  obtain ⟨x, hx, hreconciles⟩ := h.exists_standing?
  cases move.effect fresh with
  | @arrived k j next provider _ arrives standing provider_eq =>
    rw [standing] at hx
    split at hx
    next hk =>
      subst hk
      cases hx
      cases hreconciles with
      | alone c q =>
        rcases arrives.exists with ⟨hnone, hnext, -⟩ | ⟨_, p, hold, _, answer, task, looked, hnext⟩
        · exact .inr (.inl ⟨arrives.not_begun hnone, starts hnext.symm⟩)
        · exact .inr (.inr ⟨p, hold, answer, provider, rfl, .alone task, looked, hnext.symm⟩)
      | launching c r r' q =>
        rcases arrives.exists with ⟨hnone, hnext, -⟩ | ⟨_, p, hold, _, answer, task, looked, hnext⟩
        · have hq := congrArg Provision.reconciling? hnext.symm
          exact .inr (.inl ⟨arrives.not_begun hnone,
            starts (Provision.eq_goOn_of_reconciling? hq)⟩)
        · have hq := congrArg Provision.reconciling? hnext.symm
          cases p with
          | reconciling r₀ q₀ =>
            exact .inr (.inr ⟨q₀, hold, answer, provider, rfl, .launching task, looked,
              Provision.eq_goOn_of_reconciling? hq⟩)
          | creating plan p => cases (Provision.reconciling?_creating _).symm.trans hq
          | resolving plan group p => cases (Provision.reconciling?_resolving _).symm.trans hq
    next => exact .inl (exists_reconciling_of_standing? hx hreconciles)
  | quiet standing idles =>
    exact .inl (exists_reconciling_of_standing? ((standing n).eq_some hx) hreconciles)
  | meddled standing changed =>
    exact .inl (exists_reconciling_of_standing? (standing n ▸ hx) hreconciles)

/-- A task makes calls as before, or gets to it by its turn; then no verdict was kept that
counts. -/
theorem Move.calling {cause : Cause} (move : Move w s cause s') (fresh : s.Fresh)
    (h : Calling s' who key n) : Calling s who key n ∨
      cause = .stepped n ∧ ∃ c, HasTurn s who n c ∧ Fingerprint.key c = key ∧
        ((s.desk who).cache.get s.now key).1 = none ∧
        s.setup.settings.checksDisabled = false ∧
        (s'.desk who).cache = ((s.desk who).cache.get s.now key).2 := by
  obtain ⟨c, stage, hold, h, rfl⟩ := h
  rcases move.reconciling fresh h with
    ⟨hold, h⟩ | ⟨-, c', hq⟩ | ⟨q₀, hold₀, answer, provider, rfl, h₀, looked, hnext⟩
  · exact .inl ⟨c, stage, hold, h, rfl⟩
  · cases hq
  · have hclass : c = q₀.nodeClass := Reconcile.nodeClass_of_resume hnext
    cases q₀ with
    | checking c₀ stage₀ => exact .inl ⟨c₀, stage₀, hold₀, h₀, congrArg Fingerprint.key hclass.symm⟩
    | queued c₀ =>
      obtain rfl : c = c₀ := hclass
      obtain ⟨hnone, henabled, hcache⟩ := Reconcile.of_resume_queued_eq_goOn hnext
      obtain ⟨s'', hstep, hcache', -⟩ := h₀.step? looked rfl
      cases hstep.symm.trans move.taken
      exact .inr ⟨rfl, c, ⟨hold₀, provider, h₀, looked⟩, rfl, hnone, henabled,
        hcache'.trans hcache⟩

/-- The task of a number has begun and does not reconcile any class any more. -/
def Beyond (s : Session σ) (number : Nat) : Prop :=
  s.Begun number ∧ ∀ who q hold, ¬ Reconciling s number who q hold

theorem Move.beyond {cause : Cause} (move : Move w s cause s') (fresh : s.Fresh)
    (h : s.Beyond n) : s'.Beyond n := by
  refine ⟨move.begun fresh h.1, fun who q hold h' => ?_⟩
  rcases move.reconciling fresh h' with ⟨hold, h₀⟩ | ⟨hbegun, -⟩ | ⟨q₀, hold₀, _, _, -, h₀, -⟩
  · exact h.2 who q hold h₀
  · exact hbegun h.1
  · exact h.2 who q₀ hold₀ h₀

/-- A task that makes calls goes on with them until it is done with its class. -/
theorem Move.calling_or_beyond {cause : Cause} (move : Move w s cause s') (fresh : s.Fresh)
    (h : Calling s who key n) : Calling s' who key n ∨ s'.Beyond n := by
  obtain ⟨c, stage, hold, h, rfl⟩ := h
  have hbegun := h.begun
  by_cases hends : ∀ who q hold, ¬ Reconciling s' n who q hold
  · exact .inr ⟨move.begun fresh hbegun, hends⟩
  · simp only [not_forall, not_not] at hends
    obtain ⟨who', q', hold', h'⟩ := hends
    refine .inl ?_
    rcases move.reconciling fresh h' with
      ⟨hold₀, h₀⟩ | ⟨hfresh, -⟩ | ⟨q₀, hold₀, answer, provider, -, h₀, -, hnext⟩
    · obtain ⟨rfl, rfl⟩ := h.eq h₀
      exact ⟨c, stage, hold', h', rfl⟩
    · exact absurd hbegun hfresh
    · obtain ⟨rfl, rfl⟩ := h.eq h₀
      obtain ⟨stage', rfl⟩ := Reconcile.exists_stage_of_resume hnext
      exact ⟨c, stage', hold', h', rfl⟩

end NodeSupply.Session
