import NodeSupply.Proofs.Session.Verdicts

/-!
# Checks of one content are made once

Reconciliations of classes with one key take turns.  Whoever has the turn looks for a kept verdict
before it asks the provider anything, and keeps what it finds out before the turn goes on to the
next.  So the calls for a key are made by one task after the other, nobody calls while a verdict
counts, and where nothing was kept the next in line has to call by itself.

## Main definitions

* `Session.Stops` : a moment at which a task gives its calls up without a verdict.
* `Session.Unreplaced` : moments at which a verdict is neither forgotten nor replaced.
* `Session.Known` : a verdict is kept, and nobody calls.
* `Session.RunsChecks` : a task is about to run the checks by itself.

## Main statements

* `Session.Orderly.eq_of_calling` : one task at a time makes the calls for a key.
* `Session.Orderly.exists_hasTurn` : where nobody calls it is somebody's turn.
* `Session.History.not_keeps_of_calling` : nothing is kept under a key while somebody calls for it.
* `Session.History.known_of_stores` : nobody calls while a verdict counts.
* `Session.History.unknown_of_stops` : nothing is kept once a task has stopped without a verdict.
* `Session.single_flight` : the calls for a key in any history.
-/

namespace NodeSupply.Session

variable {σ : Type} [Provider σ] {w : Surroundings σ} {s₀ s s' : Session σ}
  {past later earlier : List (Moment σ)} {m : Moment σ} {who : Worker} {key : String} {n k : Nat}
  {c : NodeClass} {v : Verdict}

/-! ### One at a time -/

theorem Calling.exists_guards (h : Calling s who key n) : ∃ (j : Job) (p : j.Point),
    s.standing? n = some ⟨j, .goOn p⟩ ∧ j.worker = who ∧ j.guards p = some (.verdict key) := by
  obtain ⟨c, stage, hold, h, rfl⟩ := h
  cases h with
  | alone task => exact ⟨_, _, standing?_of_get? task, rfl, rfl⟩
  | launching task => exact ⟨_, _, standing?_of_get? task, rfl, rfl⟩

/-- Whoever holds the gate of a key makes calls for it. -/
theorem calling_of_guards {j : Job} {p : j.Point} (hn : s.standing? n = some ⟨j, .goOn p⟩)
    (hp : j.guards p = some (.verdict key)) : Calling s j.worker key n := by
  have calls : ∀ {who : Worker} {q : Reconcile.Point} {x : Standing}, s.standing? n = some x →
      x.Reconciles who q → q.guards = some (.verdict key) → Calling s who key n := by
    intro who q x hx hreconciles hq
    obtain ⟨hold, h⟩ := exists_reconciling_of_standing? hx hreconciles
    cases q with
    | queued c => cases hq
    | checking c stage =>
      cases hq
      exact ⟨c, stage, hold, h, rfl⟩
  cases j with
  | reconcile c => exact calls hn (.alone c p) hp
  | provision c r =>
    cases p with
    | reconciling r' q => exact calls hn (.launching c r r' q) hp
    | creating plan q => cases q <;> cases hp
    | resolving plan group q => cases hp
  | createGroup r => cases p <;> cases hp
  | deleteGroup id => cases p <;> cases hp
  | deprovision id => cases p <;> cases hp
  | peek c => cases p
  | forget name => cases p
  | keptVerdicts => cases p
  | _ => cases hp

/-- One task at a time makes the calls for a key. -/
theorem Orderly.eq_of_calling (h : s.Orderly) (hn : Calling s who key n)
    (hk : Calling s who key k) : n = k := by
  obtain ⟨j, p, hstanding, rfl, hguards⟩ := hn.exists_guards
  obtain ⟨j', p', hstanding', hworker, hguards'⟩ := hk.exists_guards
  exact h.eq_of_guards hstanding hstanding' hworker.symm hguards hguards'

/-- Nobody's turn comes while another task calls. -/
theorem Orderly.not_calling_of_hasTurn (h : s.Orderly) (turn : HasTurn s who n c) :
    ¬ Calling s who (Fingerprint.key c) k := by
  intro hcalling
  obtain ⟨j, p, hstanding, hworker, hguards⟩ := hcalling.exists_guards
  obtain ⟨hold, provider, hreconciling, looked⟩ := turn
  cases hreconciling with
  | alone task => exact h.guards_ne_of_turn task rfl looked hstanding hworker.symm hguards
  | launching task => exact h.guards_ne_of_turn task rfl looked hstanding hworker.symm hguards

/-- Who finds a verdict out is the only one that may make calls for the key. -/
theorem Orderly.eq_of_stores (h : m.before.Orderly) (stores : Stores m who n c v)
    (hk : Calling m.before who (Fingerprint.key c) k) : k = n := by
  rcases stores.calling_or_hasTurn with hcalling | ⟨hturn, -⟩
  · exact h.eq_of_calling hk hcalling
  · exact absurd hk (h.not_calling_of_hasTurn hturn)

/-! ### Whose turn it is -/

/-- Whoever waits for its turn at the gate of a key is about to reconcile a class. -/
theorem exists_queued_of_turn {j : Job} {cancelAt : Option Instant} {p : j.Point}
    {hold : Hold σ (j.awaits p)} {slot : Option Nat}
    (task : s.tasks.get? n = some ⟨j, cancelAt, .waiting p hold slot⟩)
    (turn : j.awaits p = .turn (.verdict key)) :
    ∃ c hold', Reconciling s n j.worker (.queued c) hold' ∧ hold'.slot? = hold.slot? ∧
      Fingerprint.key c = key := by
  cases j with
  | reconcile c =>
    cases p with
    | queued c' =>
      cases turn
      exact ⟨c', hold, .alone task, rfl, rfl⟩
    | checking c' stage => cases turn
  | provision c r =>
    cases p with
    | reconciling r' q =>
      cases q with
      | queued c' =>
        cases turn
        exact ⟨c', hold, .launching task, rfl, rfl⟩
      | checking c' stage => cases turn
    | creating plan q => cases q <;> cases turn
    | resolving plan group q => cases q <;> cases turn
  | createGroup r => cases p <;> cases turn
  | deleteGroup id => cases p <;> cases turn
  | deprovision id => cases p <;> cases turn
  | findGroup id => cases p <;> cases turn
  | findByExternalId value => cases p <;> cases turn
  | resolveId id => cases p <;> cases turn
  | peek c => cases p
  | forget name => cases p
  | keptVerdicts => cases p
  | _ => cases turn

/-- The first of a slot has its turn. -/
theorem look_of_head? {gate : Gate} {hold : Hold σ (.turn gate)} {q : Nat}
    (slot : hold.slot? = some q)
    (first : ((s.desk who).locks.clients q).head? = some n) :
    s.look who n (.turn gate) hold = .finished () s.provider := by
  cases hold with
  | turn place =>
    cases slot
    rw [look, if_pos (KeyedLock.isHeldBy_iff.2 first)]

/-- Where somebody waits for its turn at a key and nobody calls, it is somebody's turn. -/
theorem Orderly.exists_hasTurn (h : s.Orderly) {hold : Hold σ (Reconcile.Point.queued c).awaits}
    (waits : Reconciling s n who (.queued c) hold)
    (free : ∀ k, ¬ Calling s who (Fingerprint.key c) k) :
    ∃ k c', HasTurn s who k c' ∧ Fingerprint.key c' = Fingerprint.key c := by
  obtain ⟨p, hplace, hkey⟩ : ∃ p, s.place? who n = some p ∧
      p.key = .verdict (Fingerprint.key c) := by
    cases waits with
    | alone task =>
      obtain ⟨q, -, hplace⟩ := h.exists_place? task (gateAt?_of_turn rfl)
      exact ⟨_, hplace, rfl⟩
    | launching task =>
      obtain ⟨q, -, hplace⟩ := h.exists_place? task (gateAt?_of_turn rfl)
      exact ⟨_, hplace, rfl⟩
  -- The first of the slot stands at the same gate and does not hold it, so it awaits its turn.
  obtain ⟨k, hfirst⟩ : ∃ k, ((s.desk who).locks.clients p.slot).head? = some k :=
    ⟨_, List.head?_eq_some_head ((h.seated who).clients_ne_nil hplace)⟩
  obtain ⟨p', hplace', hslot⟩ := ((h.seated who).client_iff k p.slot).1 (List.mem_of_head? hfirst)
  have hkey' : p'.key = .verdict (Fingerprint.key c) := by
    have hlock := (h.seated who).key k p' hplace'
    rw [hslot, (h.seated who).key n p hplace] at hlock
    exact (Option.some.inj hlock).symm.trans hkey
  obtain ⟨⟨j, cancelAt, state⟩, task, hat⟩ := Option.bind_eq_some_iff.1 hplace'
  split at hat
  next hworker =>
    dsimp only at hworker
    subst hworker
    cases state with
    | ready => cases hat
    | finished result => cases hat
    | cancelled => cases hat
    | crashed => cases hat
    | waiting point hold slot =>
      rw [Task.place?_waiting] at hat
      obtain ⟨q, rfl, hat⟩ := Option.bind_eq_some_iff.1 hat
      obtain ⟨gate, hgate, rfl⟩ := Option.map_eq_some_iff.1 hat
      cases hkey'
      by_cases hturn : ∃ gate, j.awaits point = .turn gate
      · obtain ⟨gate, hturn⟩ := hturn
        cases (gateAt?_of_turn hturn).symm.trans hgate
        obtain ⟨c', hold', hreconciling, hsame, hclass⟩ := exists_queued_of_turn task hturn
        obtain ⟨place, hplaced⟩ : ∃ place, hold'.slot? = some place := by
          cases hold' with
          | turn place => exact ⟨place, rfl⟩
        have hq : some q = some place := (h.tidy k _ task).2 place (hsame.symm.trans hplaced)
        cases hq
        rw [← hslot] at hfirst
        exact ⟨k, c', ⟨hold', s.provider, hreconciling, look_of_head? hplaced hfirst⟩, hclass⟩
      · have hguards := (gateAt?_of_ne_turn fun gate heq => hturn ⟨gate, heq⟩).symm.trans hgate
        exact absurd (calling_of_guards (standing?_of_get? task) hguards) (free k)
  next => cases hat

/-! ### Runs -/

/-- What holds after a moment, and what every later move keeps, holds in the end. -/
theorem History.later_induction {P : Session σ → Prop} (h : History w s₀ (later ++ m :: earlier) s)
    (after : P m.after)
    (step : ∀ past, ∀ m' ∈ later, History w s₀ past m'.before →
      Move w m'.before m'.cause m'.after → P m'.before → P m'.after) : P s := by
  induction later generalizing s with
  | nil =>
    cases h with
    | go h move => exact after
  | cons m' later ih =>
    cases h with
    | go h move =>
      exact step _ ⟨_, _, s⟩ List.mem_cons_self h move
        (ih h fun past m' hm' => step past m' (List.mem_cons_of_mem _ hm'))

/-! ### Whoever stops calling never calls again -/

theorem History.orderly_fresh {setup : Setup} {provider : σ}
    (h : History w (begin setup provider) past s) : s.Orderly ∧ s.Fresh :=
  ⟨h.orderly (fresh_begin setup provider) (orderly_begin setup provider),
    h.fresh (fresh_begin setup provider)⟩

section

variable {setup : Setup} {provider : σ}

/-- A task whose calls another task's calls came after makes no more calls. -/
theorem History.eq_of_calling_between {between : List (Moment σ)} {m' : Moment σ}
    (h : History w (begin setup provider) (later ++ m :: (between ++ m' :: earlier)) s)
    (first : Calling m'.before who key n) (middle : Calling m.before who key k)
    (last : Calling s who key n) : k = n := by
  obtain ⟨hbefore, hmove⟩ := h.of_append
  obtain ⟨hstart, hmove'⟩ := hbefore.of_append
  by_contra hne
  have hbeyond : m.before.Beyond n := by
    have hmiddle : Calling m.before who key n ∨ m.before.Beyond n := by
      refine hbefore.later_induction (P := fun t => Calling t who key n ∨ t.Beyond n)
        (hmove'.calling_or_beyond hstart.orderly_fresh.2 first) fun past t _ h move ih => ?_
      have hfresh := h.orderly_fresh.2
      exact ih.elim (move.calling_or_beyond hfresh) fun hbeyond => .inr (move.beyond hfresh hbeyond)
    exact hmiddle.resolve_left fun hn =>
      hne (hbefore.orderly_fresh.1.eq_of_calling middle hn)
  have hends : s.Beyond n :=
    h.later_induction (P := fun t => t.Beyond n) (hmove.beyond hbefore.orderly_fresh.2 hbeyond)
      fun past t _ h move => move.beyond h.orderly_fresh.2
  obtain ⟨c, stage, hold, hreconciling, -⟩ := last
  exact hends.2 _ _ _ hreconciling

/-! ### What is kept while somebody calls -/

/-- A verdict that is kept under a key after a move was kept before, or a task found it out. -/
theorem Move.keeps_or_stores (move : Move w m.before m.cause m.after) {kept : KeptVerdict}
    (keeps : (m.after.desk who).cache.Keeps key kept) :
    (m.before.desk who).cache.Keeps key kept ∨
      ∃ n c v, Stores m who n c v ∧ Fingerprint.key c = key := by
  rcases move.keeps_desk who with
    hglanced | ⟨n, c, v, hstores⟩ | ⟨rfl, n, name, cancelAt, hcause, task⟩
  · exact .inl (keeps.of_glanced hglanced)
  · obtain ⟨⟨cache, hglanced, hcache⟩, -⟩ := move.exists_of_stores hstores
    rw [hcache] at keeps
    rcases keeps.of_insert (Fingerprint.owner?_key c) with ⟨rfl, -⟩ | ⟨hkeeps, -⟩
    · exact .inr ⟨n, c, v, hstores, rfl⟩
    · exact .inl (hkeeps.of_glanced hglanced)
  · have hcache := move.cache_of_forgets ⟨n, cancelAt, hcause, task⟩
    change m.after.keeper.cache.Keeps key kept at keeps
    rw [hcache] at keeps
    exact .inl (VerdictCache.keeps_clear_iff.1 keeps).1

/-- Whoever finds a verdict out leaves nobody calling for its key. -/
theorem Move.not_calling_of_stores (move : Move w m.before m.cause m.after)
    (orderly : m.before.Orderly) (fresh : m.before.Fresh) (stores : Stores m who n c v) :
    ¬ Calling m.after who (Fingerprint.key c) k := by
  intro hcalling
  obtain ⟨-, hover⟩ := move.exists_of_stores stores
  have hk : k = n := by
    rcases move.calling fresh hcalling with hbefore | ⟨hcause, -⟩
    · exact orderly.eq_of_stores stores hbefore
    · cases hcause.symm.trans stores.1
      rfl
  subst hk
  obtain ⟨c', stage, hold, h, -⟩ := hcalling
  exact hover _ _ _ h

/-- Nothing is kept under a key while somebody calls for it, and the checks are not disabled. -/
theorem History.not_keeps_of_calling (h : History w (begin setup provider) past s)
    (calling : Calling s who key n) :
    setup.settings.checksDisabled = false ∧ ∀ kept, ¬ (s.desk who).cache.Keeps key kept := by
  induction h with
  | start =>
    obtain ⟨c, stage, hold, h, -⟩ := calling
    obtain ⟨j, cancelAt, state, task, -⟩ := h.begun
    cases task
  | @go past s s' cause h move ih =>
    obtain ⟨horderly, hfresh⟩ := h.orderly_fresh
    have hsetup : s.setup = setup := h.setup
    rcases move.calling hfresh calling with hbefore | ⟨-, c, hturn, rfl, hnone, henabled, hcache⟩
    · obtain ⟨henabled, hempty⟩ := ih hbefore
      refine ⟨henabled, fun kept hkeeps => ?_⟩
      rcases Move.keeps_or_stores (m := ⟨s, cause, s'⟩) move hkeeps with
        hold | ⟨k, c, v, hstores, rfl⟩
      · exact hempty kept hold
      · exact Move.not_calling_of_stores (m := ⟨s, cause, s'⟩) move horderly hfresh hstores calling
    · refine ⟨hsetup ▸ henabled, fun kept hkeeps => ?_⟩
      rw [hcache] at hkeeps
      exact VerdictCache.not_keeps_of_get_eq_none hnone kept hkeeps

/-! ### While a verdict counts -/

/-- At none of some moments the verdict on a class is forgotten, or replaced by that on another
class of its name with another key. -/
def Unreplaced (who : Worker) (c : NodeClass) (moments : List (Moment σ)) : Prop :=
  ∀ m ∈ moments, (who = .keeper → ¬ Forgets m c.name) ∧
    ∀ n c' v, Stores m who n c' v → c'.name = c.name → Fingerprint.key c' = Fingerprint.key c

/-- A verdict that counts stays, unless it is forgotten or another is kept for its name. -/
theorem Move.keeps_of_counts (move : Move w m.before m.cause m.after) {kept : KeptVerdict}
    (keeps : (m.before.desk who).cache.Keeps (Fingerprint.key c) kept)
    (counts : (m.before.desk who).cache.counts m.before.now kept = true)
    (unforgotten : who = .keeper → ¬ Forgets m c.name)
    (alone : ∀ n c' v, Stores m who n c' v → c'.name ≠ c.name) :
    (m.after.desk who).cache.Keeps (Fingerprint.key c) kept := by
  have howner := Fingerprint.owner?_key c
  rcases move.keeps_desk who with
    hglanced | ⟨n, c', v, hstores⟩ | ⟨rfl, n, name, cancelAt, hcause, task⟩
  · exact keeps.glanced hglanced counts
  · obtain ⟨⟨cache, hglanced, hcache⟩, -⟩ := move.exists_of_stores hstores
    rw [hcache]
    refine (keeps.glanced hglanced counts).insert_of_owner_ne (Fingerprint.owner?_key c') ?_
    rw [howner]
    exact fun hname => alone n c' v hstores (Option.some.inj hname).symm
  · have hforgets : Forgets m name := ⟨n, cancelAt, hcause, task⟩
    change m.after.keeper.cache.Keeps (Fingerprint.key c) kept
    rw [move.cache_of_forgets hforgets]
    refine VerdictCache.keeps_clear_iff.2 ⟨keeps, ?_⟩
    rw [howner]
    rintro hname
    cases hname
    exact unforgotten rfl hforgets

/-- A verdict on a class is kept, and nobody calls for its key. -/
def Known (s : Session σ) (who : Worker) (c : NodeClass) (kept : KeptVerdict) : Prop :=
  (s.desk who).cache.Keeps (Fingerprint.key c) kept ∧ ∀ k, ¬ Calling s who (Fingerprint.key c) k

theorem Move.known_of_stores (move : Move w m.before m.cause m.after)
    (orderly : m.before.Orderly) (fresh : m.before.Fresh) (stores : Stores m who n c v) :
    m.after.Known who c ⟨v, m.before.now⟩ := by
  obtain ⟨⟨cache, -, hcache⟩, -⟩ := move.exists_of_stores stores
  refine ⟨?_, fun k => move.not_calling_of_stores orderly fresh stores⟩
  rw [hcache]
  exact VerdictCache.keeps_insert_self ..

/-- A move leaves a verdict that counts, which keeps everybody from calling. -/
theorem Move.known (move : Move w m.before m.cause m.after) (fresh : m.before.Fresh)
    {kept : KeptVerdict} (known : m.before.Known who c kept)
    (counts : (m.before.desk who).cache.counts m.before.now kept = true)
    (unreplaced : Unreplaced who c [m]) : m.after.Known who c kept := by
  obtain ⟨hkeeps, hnobody⟩ := known
  obtain ⟨hunforgotten, hsame⟩ := unreplaced m List.mem_cons_self
  have hfound : ((m.before.desk who).cache.get m.before.now (Fingerprint.key c)).1 ≠ none := by
    rw [VerdictCache.get_eq_some_iff.2 ⟨kept, hkeeps, counts, rfl⟩]
    exact nofun
  refine ⟨move.keeps_of_counts hkeeps counts hunforgotten fun n c' v hstores hname => ?_,
    fun k hcalling => ?_⟩
  · have hkey := hsame n c' v hstores hname
    rcases hstores.calling_or_hasTurn with hcalling | ⟨-, hnone⟩
    · exact hnobody n (hkey ▸ hcalling)
    · exact hfound (hkey ▸ hnone)
  · rcases move.calling fresh hcalling with hcalling | ⟨-, c', -, -, hnone, -⟩
    · exact hnobody k hcalling
    · exact hfound hnone

/-- Nobody calls for a key while a verdict counts that was kept under it. -/
theorem History.known_of_stores (h : History w (begin setup provider) (later ++ m :: earlier) s)
    (stores : Stores m who n c v) (young : s.now < m.before.now + setup.settings.cacheTtl)
    (unreplaced : Unreplaced who c later) : s.Known who c ⟨v, m.before.now⟩ := by
  obtain ⟨hbefore, hmove⟩ := h.of_append
  obtain ⟨horderly, hfresh⟩ := hbefore.orderly_fresh
  have hknown : m.before.now ≤ s.now ∧ (s.now < m.before.now + setup.settings.cacheTtl →
      s.Known who c ⟨v, m.before.now⟩) := by
    refine h.later_induction (P := fun t => m.before.now ≤ t.now ∧
      (t.now < m.before.now + setup.settings.cacheTtl → t.Known who c ⟨v, m.before.now⟩))
      ⟨hmove.now_le, fun _ => hmove.known_of_stores horderly hfresh stores⟩
      fun past t ht hpast move ih => ⟨Nat.le_trans ih.1 move.now_le, fun hyoung => ?_⟩
    have hearlier := Nat.lt_of_le_of_lt move.now_le hyoung
    refine move.known hpast.orderly_fresh.2 (ih.2 hearlier) ?_ fun t' ht' => ?_
    · rw [VerdictCache.counts, hpast.ttl_eq who]
      exact decide_eq_true (Nat.sub_lt_left_of_lt_add ih.1 hearlier)
    · exact unreplaced t' (List.mem_singleton.1 ht' ▸ ht)
  exact hknown.2 young

/-! ### When nothing was kept -/

/-- At a moment the task of a number stops making calls for a key without a verdict: a call has
failed, or the task is given up. -/
def Stops (m : Moment σ) (who : Worker) (key : String) (number : Nat) : Prop :=
  Calling m.before who key number ∧ ¬ Calling m.after who key number ∧
    ∀ c v, ¬ Stores m who number c v

/-- A task whose call fails without a verdict stops. -/
theorem stops_of_error (move : Move w m.before m.cause m.after) (cause : m.cause = .stepped n)
    {stage : Checks.Stage} {hold : Hold σ (Reconcile.Point.checking c stage).awaits}
    {answer : stage.request.Outcome} {provider : σ} {e : ProviderError}
    (reconciling : Reconciling m.before n who (.checking c stage) hold)
    (looked : m.before.look who n (Reconcile.Point.checking c stage).awaits hold =
      .finished answer provider)
    (failed : Checks.resume c stage answer = .error e) : Stops m who (Fingerprint.key c) n := by
  obtain ⟨s, cause', s'⟩ := m
  dsimp only at move cause reconciling looked
  subst cause
  have hresume : Reconcile.resume s.setup.settings s.now (s.desk who).cache (.checking c stage)
      answer = (.done (.error ⟨c.name, e⟩), (s.desk who).cache) := by
    simp only [Reconcile.resume, failed]
  obtain ⟨s'', hstep, -, hthen⟩ := reconciling.step? looked hresume
  cases hstep.symm.trans move.taken
  refine ⟨⟨c, stage, hold, reconciling, rfl⟩, ?_, ?_⟩
  · rintro ⟨c', stage', hold', h', -⟩
    cases ((hthen who _).1 ⟨hold', h'⟩).2
  · rintro c' v ⟨-, q, hold', answer', provider', h', looked', -, hfinds⟩
    obtain ⟨-, rfl⟩ := reconciling.eq h'
    obtain rfl := reconciling.hold_eq h'
    cases looked.symm.trans looked'
    have hverdict : Checks.resume c stage answer = .ok (.verdict v) := hfinds
    cases failed.symm.trans hverdict

/-- At a moment it is the turn of the task of a number, and the task takes it. -/
def TakesTurn (m : Moment σ) (who : Worker) (number : Nat) (c : NodeClass) : Prop :=
  m.cause = .stepped number ∧ HasTurn m.before who number c

/-- With its next step the task of a number runs the checks of a class by itself: it makes their
first call, or finds the verdict out if that needs none. -/
def RunsChecks (s : Session σ) (who : Worker) (number : Nat) (c : NodeClass) : Prop :=
  ∃ s', s.step? number = some s' ∧
    match Checks.begin c with
    | .ask stage => ∃ hold, Reconciling s' number who (.checking c stage) hold
    | .verdict v => Stores ⟨s, .stepped number, s'⟩ who number c v

theorem HasTurn.runsChecks (turn : HasTurn s who n c)
    (enabled : s.setup.settings.checksDisabled = false)
    (unknown : ((s.desk who).cache.get s.now (Fingerprint.key c)).1 = none) :
    RunsChecks s who n c := by
  obtain ⟨hold, provider, h, looked⟩ := turn
  obtain ⟨s', hstep, -, hthen⟩ := h.step? looked (Reconcile.resume_of_unknown enabled unknown)
  refine ⟨s', hstep, ?_⟩
  cases hbegin : Checks.begin c with
  | ask stage =>
    rw [hbegin] at hthen
    exact (hthen who _).2 ⟨rfl, rfl⟩
  | verdict v =>
    exact ⟨rfl, _, hold, (), provider, h, looked, rfl, unknown, .inr ⟨enabled, hbegin⟩⟩

/-- After a task has stopped nobody calls for its key and nothing is kept under it, until somebody
takes its turn. -/
theorem History.unknown_of_stops (h : History w (begin setup provider) (later ++ m :: earlier) s)
    (stops : Stops m who key n)
    (untaken : ∀ m' ∈ later, ∀ k c, TakesTurn m' who k c → Fingerprint.key c ≠ key) :
    (∀ k, ¬ Calling s who key k) ∧ ∀ kept, ¬ (s.desk who).cache.Keeps key kept := by
  obtain ⟨hbefore, hmove⟩ := h.of_append
  obtain ⟨horderly, hfresh⟩ := hbefore.orderly_fresh
  obtain ⟨hcalling, hstopped, hnothing⟩ := stops
  refine h.later_induction (P := fun t => (∀ k, ¬ Calling t who key k) ∧
    ∀ kept, ¬ (t.desk who).cache.Keeps key kept) ⟨fun k hk => ?_, fun kept hkeeps => ?_⟩
    fun past t ht hpast move ih => ⟨fun k hk => ?_, fun kept hkeeps => ?_⟩
  · rcases hmove.calling hfresh hk with hk' | ⟨-, c, hturn, rfl, -⟩
    · cases horderly.eq_of_calling hcalling hk'
      exact hstopped hk
    · exact horderly.not_calling_of_hasTurn hturn hcalling
  · rcases hmove.keeps_or_stores hkeeps with hold | ⟨k, c, v, hstores, rfl⟩
    · exact (hbefore.not_keeps_of_calling hcalling).2 kept hold
    · cases horderly.eq_of_stores hstores hcalling
      exact hnothing c v hstores
  · rcases move.calling hpast.orderly_fresh.2 hk with hk' | ⟨hcause, c, hturn, hkey, -⟩
    · exact ih.1 k hk'
    · exact untaken t ht k c ⟨hcause, hturn⟩ hkey
  · rcases move.keeps_or_stores hkeeps with hold | ⟨k, c, v, hstores, rfl⟩
    · exact ih.2 kept hold
    · rcases hstores.calling_or_hasTurn with hk | ⟨hturn, -⟩
      · exact ih.1 k hk
      · exact untaken t ht k c ⟨hstores.1, hturn⟩ rfl

/-- After any history, whatever the provider answers, fails or delays, for the reconciliations of a
worker: one task at a time makes the calls for a key, and the calls of two tasks do not alternate;
nobody calls while a verdict counts that was found out, neither forgotten nor replaced; and once a
task has stopped calling without a verdict, somebody among those that wait has its turn, and runs
the checks by itself. -/
theorem single_flight (h : History w (begin setup provider) past s) :
    (∀ who key n k, Calling s who key n → Calling s who key k → n = k) ∧
    (∀ who key n k later m between m' earlier, past = later ++ m :: (between ++ m' :: earlier) →
      Calling m'.before who key n → Calling m.before who key k → Calling s who key n → k = n) ∧
    (∀ who n c v later m earlier, past = later ++ m :: earlier → Stores m who n c v →
      s.now < m.before.now + setup.settings.cacheTtl → Unreplaced who c later →
      ∀ k, ¬ Calling s who (Fingerprint.key c) k) ∧
    ∀ who key n later m earlier, past = later ++ m :: earlier → Stops m who key n →
      (∀ m' ∈ later, ∀ k c, TakesTurn m' who k c → Fingerprint.key c ≠ key) →
      (∀ k c hold, Reconciling s k who (.queued c) hold → Fingerprint.key c = key →
        ∃ k' c', HasTurn s who k' c' ∧ Fingerprint.key c' = key) ∧
      ∀ k c, HasTurn s who k c → Fingerprint.key c = key → RunsChecks s who k c := by
  refine ⟨fun who key n k hn hk => h.orderly_fresh.1.eq_of_calling hn hk, ?_, ?_, ?_⟩
  · rintro who key n k later m between m' earlier rfl hfirst hmiddle hlast
    exact h.eq_of_calling_between hfirst hmiddle hlast
  · rintro who n c v later m earlier rfl hstores hyoung hunreplaced k
    exact (h.known_of_stores hstores hyoung hunreplaced).2 k
  · rintro who key n later m earlier rfl hstops huntaken
    obtain ⟨hnobody, hnothing⟩ := h.unknown_of_stops hstops huntaken
    refine ⟨?_, ?_⟩
    · rintro k c hold hwaits rfl
      exact h.orderly_fresh.1.exists_hasTurn hwaits hnobody
    · rintro k c hturn rfl
      have hsetup : s.setup = setup := h.setup
      have henabled := (h.of_append.1.not_keeps_of_calling hstops.1).1
      refine hturn.runsChecks (hsetup ▸ henabled) ?_
      cases hget : ((s.desk who).cache.get s.now (Fingerprint.key c)).1 with
      | none => rfl
      | some v =>
        obtain ⟨kept, hkeeps, -⟩ := VerdictCache.get_eq_some_iff.1 hget
        exact absurd hkeeps (hnothing kept)

end

/-! ### Two small runs -/

/-- A class passes its checks, and some time goes by. -/
theorem exists_stores_roomy : ∃ (past : List (Moment Memory)) (m m' : Moment Memory)
    (s : Session Memory), History ⟨fun j => j = .reconcile .roomy, fun _ _ => True⟩
        (begin Setup.checked Memory.roomy) (m' :: m :: past) s ∧
      Stores m .keeper 0 .roomy .success ∧ s.now = m.before.now + 3 ∧ m'.cause = .passed := by
  have h : History ⟨fun j => j = .reconcile .roomy, fun _ _ => True⟩
      (begin Setup.checked Memory.roomy) [] _ := .start
  have h := h.go (.submit (j := .reconcile .roomy) none rfl)
  have h := h.go (c := .stepped 0) (.step rfl)
  have h := h.go (c := .stepped 0) (.step rfl)
  have h := h.go (c := .stepped 0) (.step rfl)
  have h := h.go (c := .stepped 0) (.step rfl)
  have h := h.go (c := .stepped 0) (.step rfl)
  have h := h.go (.pass 3)
  refine ⟨_, _, _, _, h, ⟨rfl, _, _, _, _, .alone rfl, rfl, rfl, rfl⟩, ?_, rfl⟩
  decide +kernel

/-- The first call of a task fails while another task waits for its turn. -/
theorem exists_stops_roomy : ∃ (past : List (Moment Memory)) (m : Moment Memory)
    (s : Session Memory) (hold : Hold Memory (Reconcile.Point.queued .roomy).awaits),
    History ⟨fun j => j = .reconcile .roomy, fun _ _ => True⟩
        (begin Setup.checked (Memory.roomy.failNext "network_id" (.transport ""))) (m :: past) s ∧
      Stops m .keeper (Fingerprint.key .roomy) 0 ∧
      Reconciling s 1 .keeper (.queued .roomy) hold := by
  have h : History ⟨fun j => j = .reconcile .roomy, fun _ _ => True⟩
      (begin Setup.checked (Memory.roomy.failNext "network_id" (.transport ""))) [] _ := .start
  have h := h.go (.submit (j := .reconcile .roomy) none rfl)
  have h := h.go (c := .stepped 0) (.step rfl)
  have h := h.go (c := .stepped 0) (.step rfl)
  have h := h.go (.submit (j := .reconcile .roomy) none rfl)
  have h := h.go (c := .stepped 1) (.step rfl)
  have h := h.go (c := .stepped 0) (.step rfl)
  obtain ⟨-, -, hmove⟩ := h.exists_of_mem List.mem_cons_self
  exact ⟨_, _, _, _, h, stops_of_error hmove rfl (.alone rfl) rfl rfl, .alone rfl⟩

/-- A verdict keeps everybody from calling for a while; and where a call fails, somebody else is
about to run the checks. -/
theorem single_flight_of_roomy :
    (∃ past s, History ⟨fun j => j = .reconcile .roomy, fun _ _ => True⟩
        (begin Setup.checked Memory.roomy) past s ∧
      (∃ m ∈ past, Stores m .keeper 0 .roomy .success ∧ s.now = m.before.now + 3) ∧
      ∀ k, ¬ Calling s .keeper (Fingerprint.key .roomy) k) ∧
    ∃ past s, History ⟨fun j => j = .reconcile .roomy, fun _ _ => True⟩
        (begin Setup.checked (Memory.roomy.failNext "network_id" (.transport ""))) past s ∧
      (∃ m ∈ past, Stops m .keeper (Fingerprint.key .roomy) 0) ∧
      ∃ k c, Fingerprint.key c = Fingerprint.key .roomy ∧ RunsChecks s .keeper k c := by
  constructor
  · obtain ⟨past, m, m', s, h, hstores, hnow, hpassed⟩ := exists_stores_roomy
    refine ⟨_, s, h, ⟨m, by simp, hstores, hnow⟩, ?_⟩
    refine (single_flight h).2.2.1 .keeper 0 .roomy .success [m'] m past rfl hstores ?_ ?_
    · rw [hnow]
      exact Nat.add_lt_add_left (show 3 < 8 by decide) _
    · intro t ht
      obtain rfl := List.mem_singleton.1 ht
      refine ⟨fun _ hforgets => ?_, fun _ _ _ hstores => ?_⟩
      · obtain ⟨n, cancelAt, hcause, -⟩ := hforgets
        cases hpassed.symm.trans hcause
      · cases hpassed.symm.trans hstores.1
  · obtain ⟨past, m, s, hold, h, hstops, hwaits⟩ := exists_stops_roomy
    obtain ⟨hturn, hruns⟩ := (single_flight h).2.2.2 .keeper _ 0 [] m past rfl hstops nofun
    obtain ⟨k, c, hk, hkey⟩ := hturn 1 .roomy hold hwaits rfl
    exact ⟨_, s, h, ⟨m, List.mem_cons_self, hstops⟩, k, c, hkey, hruns k c hk hkey⟩

end NodeSupply.Session
