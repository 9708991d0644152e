import NodeSupply.Proofs.Routine.Reconcile
import NodeSupply.Proofs.Session.InMemory
import NodeSupply.Proofs.Session.Reconciling
import NodeSupply.Proofs.Verdict.Fingerprint

/-!
# Where a verdict comes from

Kept verdicts are written when a task finds one out, dropped when a class is forgotten, and looked
at in between, while tasks of all kinds go on and time passes.  So what is said about a class was
found out by the very task that says it, or by an earlier one for a class of the same key; and then
it is young enough, and nothing happened since that would have dropped it.

## Main definitions

* `Session.Computes`, `Session.Forgets` : moments at which a verdict is found out and kept, and at
  which the verdicts on a class are dropped.
* `Session.Undisturbed` : nothing happened to the verdicts on a class.

## Main statements

* `Session.Move.keeps` : what a move may leave in the kept verdicts.
* `Session.History.exists_computes` : every kept verdict was found out at some moment.
* `Session.verdict_provenance` : where the verdicts come from that are told.
-/

namespace NodeSupply.Session

variable {σ : Type} [Provider σ]

/-! ### Moments -/

/-- At a moment a task that reconciles a class finds a verdict out by itself. -/
def Computes (m : Moment σ) (number : Nat) (c : NodeClass) (v : Verdict) : Prop :=
  m.cause = .stepped number ∧
    ∃ cancelAt point hold slot answer provider,
      m.before.tasks.get? number = some ⟨.reconcile c, cancelAt, .waiting point hold slot⟩ ∧
      m.before.look .keeper number (Reconcile.Point.awaits point) hold = .finished answer provider ∧
      Reconcile.Point.nodeClass point = c ∧
      Reconcile.Finds m.before.setup.settings m.before.now m.before.keeper.cache point answer v

/-- At a moment a task drops the verdicts on a class. -/
def Forgets (m : Moment σ) (name : String) : Prop :=
  ∃ number cancelAt, m.cause = .stepped number ∧
    m.before.tasks.get? number = some ⟨.forget name, cancelAt, .ready⟩

/-- At none of some moments a verdict on a class is kept, or the verdicts on it are dropped. -/
def Undisturbed (name : String) (moments : List (Moment σ)) : Prop :=
  ∀ m ∈ moments, ¬ Forgets m name ∧ ∀ number c v, Computes m number c v → c.name ≠ name

variable {w : Surroundings σ} {s₀ s s' : Session σ} {past : List (Moment σ)}

/-- A verdict that is found out is told, and kept under the key of its class. -/
theorem Move.exists_of_computes {m : Moment σ} (move : Move w m.before m.cause m.after) {n : Nat}
    {c : NodeClass} {v : Verdict} (computes : Computes m n c v) :
    m.after.standing? n =
        some ⟨.reconcile c, .done (.ok (Reconcile.outcome m.before.setup.settings v))⟩ ∧
      ∃ cache, m.before.keeper.cache.Glanced m.before.now cache ∧
        m.after.keeper.cache = cache.insert m.before.now (Fingerprint.key c) v := by
  obtain ⟨s, cause, s'⟩ := m
  obtain ⟨hcause, cancelAt, point, hold, slot, answer, provider, task, looked, hclass, hfinds⟩ :=
    computes
  dsimp only at move hcause task looked hfinds ⊢
  subst hcause
  obtain ⟨cache, hglanced, hresume⟩ := Reconcile.resume_of_finds hfinds
  rw [hclass] at hresume
  cases move with
  | step taken =>
    cases (step?_of_look task looked hresume).symm.trans taken
    refine ⟨?_, cache, hglanced, ?_⟩
    · rw [standing?_proceed, if_pos rfl]
    · change ((Session.proceed _ _ _ _ _ _).desk .keeper).cache = _
      rw [cache_proceed]
      exact cache_keepCache_self ..

/-- When a class is forgotten the verdicts on it are dropped. -/
theorem Move.cache_of_forgets {m : Moment σ} (move : Move w m.before m.cause m.after)
    {name : String} (forgets : Forgets m name) :
    m.after.keeper.cache = m.before.keeper.cache.clear name := by
  obtain ⟨s, cause, s'⟩ := m
  obtain ⟨n, cancelAt, hcause, task⟩ := forgets
  dsimp only at move hcause task ⊢
  subst hcause
  cases move with
  | step taken =>
    simp only [step?, task, Option.some.injEq] at taken
    subst taken
    change ((Session.proceed _ _ _ _ _ _).desk .keeper).cache = _
    rw [cache_proceed]
    exact cache_keepCache_self ..

/-! ### What a move leaves -/

/-- A task that reconciles a class is about that class. -/
theorem History.nodeClass_eq (h : History w s₀ past s) (begins : s₀.tasks = .empty) {n : Nat}
    {c : NodeClass} {point : Reconcile.Point}
    (hn : s.standing? n = some ⟨.reconcile c, .goOn point⟩) : point.nodeClass = c := by
  refine h.standing?_induction (P := fun _ _ x => ∀ c point, x = ⟨.reconcile c, .goOn point⟩ →
    point.nodeClass = c) begins (fun _ _ _ hx => hx) ?_ hn c point rfl
  intro past s s' n j next provider _ arrives _ ih c point hx
  cases hx
  rcases arrives.exists with ⟨-, hnext, -⟩ | ⟨_, point', _, _, _, task, -, hnext⟩
  · exact Reconcile.nodeClass_of_start hnext.symm
  · have hclass : Reconcile.Point.nodeClass point' = c := ih _ (standing?_of_get? task) c _ rfl
    exact (Reconcile.nodeClass_of_resume hnext.symm).trans hclass

/-- The keeper finds a verdict out by a task that is about its class. -/
theorem Computes.of_stores {m : Moment σ} {n : Nat} {c : NodeClass} {v : Verdict}
    (own : ∀ (n : Nat) (c : NodeClass) (p : Reconcile.Point),
      m.before.standing? n = some ⟨.reconcile c, .goOn p⟩ → p.nodeClass = c)
    (stores : Stores m .keeper n c v) : Computes m n c v := by
  obtain ⟨hcause, q, hold, answer, provider, h, looked, rfl, hfinds⟩ := stores
  cases h with
  | @alone c cancelAt _ _ slot task =>
    obtain rfl : q.nodeClass = c := own n c q (standing?_of_get? task)
    exact ⟨hcause, cancelAt, q, hold, slot, answer, provider, task, looked, rfl, hfinds⟩

/-- A move only looks at the kept verdicts, or a task finds a verdict out, or forgets a class. -/
theorem Move.keeps {c : Cause} (move : Move w s c s')
    (own : ∀ (n : Nat) (c : NodeClass) (p : Reconcile.Point),
      s.standing? n = some ⟨.reconcile c, .goOn p⟩ → p.nodeClass = c) :
    s.keeper.cache.Glanced s.now s'.keeper.cache ∨
      (∃ n c' v, Computes ⟨s, c, s'⟩ n c' v) ∨ ∃ name, Forgets ⟨s, c, s'⟩ name := by
  rcases move.keeps_desk .keeper with
    hglanced | ⟨n, c', v, hstores⟩ | ⟨-, n, name, cancelAt, hcause, task⟩
  · exact .inl hglanced
  · exact .inr (.inl ⟨n, c', v, .of_stores own hstores⟩)
  · exact .inr (.inr ⟨name, n, cancelAt, hcause, task⟩)

/-- A verdict that is kept after a move was found out by it, or kept before; then the move neither
forgot the class nor found another verdict on it out. -/
theorem Move.computes_or_keeps {m : Moment σ} (move : Move w m.before m.cause m.after)
    (own : ∀ (n : Nat) (c : NodeClass) (p : Reconcile.Point),
      m.before.standing? n = some ⟨.reconcile c, .goOn p⟩ → p.nodeClass = c)
    {key : String} {k : KeptVerdict} (kept : m.after.keeper.cache.Keeps key k) :
    (∃ n c, Computes m n c k.verdict ∧ Fingerprint.key c = key ∧ m.before.now = k.since) ∨
      m.before.keeper.cache.Keeps key k ∧
        ∀ name, Fingerprint.owner? key = some name → Undisturbed name [m] := by
  -- What was not found out just now has outlived all that the move did to the kept verdicts.
  by_cases hnew : ∃ n c, Computes m n c k.verdict ∧ Fingerprint.key c = key ∧ m.before.now = k.since
  · exact .inl hnew
  have hcomputed : ∀ n c v, Computes m n c v →
      m.before.keeper.cache.Keeps key k ∧ Fingerprint.owner? key ≠ some c.name := by
    intro n c v hcomputes
    obtain ⟨-, cache, hglanced, hcache⟩ := move.exists_of_computes hcomputes
    rw [hcache] at kept
    rcases kept.of_insert (Fingerprint.owner?_key c) with ⟨hkey, hk⟩ | ⟨hkeeps, howner⟩
    · subst hk
      exact absurd ⟨n, c, hcomputes, hkey.symm, rfl⟩ hnew
    · exact ⟨hkeeps.of_glanced hglanced, howner⟩
  have hforgotten : ∀ name, Forgets m name →
      m.before.keeper.cache.Keeps key k ∧ Fingerprint.owner? key ≠ some name := by
    intro name hforgets
    rw [move.cache_of_forgets hforgets] at kept
    exact VerdictCache.keeps_clear_iff.1 kept
  refine .inr ⟨?_, fun name howner m' hm' => ?_⟩
  · rcases move.keeps own with hglanced | ⟨n, c, v, hcomputes⟩ | ⟨name, hforgets⟩
    · exact kept.of_glanced hglanced
    · exact (hcomputed n c v hcomputes).1
    · exact (hforgotten name hforgets).1
  · obtain rfl := List.mem_singleton.1 hm'
    refine ⟨fun hforgets => (hforgotten name hforgets).2 howner, fun n c v hcomputes hname => ?_⟩
    exact (hcomputed n c v hcomputes).2 (hname ▸ howner)

/-! ### Where verdicts come from -/

section

variable {setup : Setup} {provider : σ}

/-- A kept verdict counts as long as the setup says. -/
theorem History.ttl_eq (h : History w (begin setup provider) past s) (who : Worker) :
    (s.desk who).cache.ttl = setup.settings.cacheTtl := by
  induction h with
  | start => cases who <;> rfl
  | @go past s s' cause h move ih =>
    refine Eq.trans ?_ ih
    rcases move.keeps_desk who with
      hglanced | ⟨n, c, v, hstores⟩ | ⟨rfl, n, name, cancelAt, hcause, task⟩
    · exact hglanced.ttl_eq
    · obtain ⟨⟨cache, hglanced, hcache⟩, -⟩ :=
        Move.exists_of_stores (m := ⟨s, cause, s'⟩) move hstores
      dsimp only at hglanced hcache
      rw [hcache, VerdictCache.ttl_insert, hglanced.ttl_eq]
    · have hcache := Move.cache_of_forgets (m := ⟨s, cause, s'⟩) move ⟨n, cancelAt, hcause, task⟩
      exact (congrArg VerdictCache.ttl hcache).trans (VerdictCache.ttl_clear ..)

/-- Every kept verdict was found out and kept at some moment, and nothing that would have dropped it
happened since. -/
theorem History.exists_computes (h : History w (begin setup provider) past s) {key : String}
    {k : KeptVerdict} (kept : s.keeper.cache.Keeps key k) :
    ∃ later m earlier n c, past = later ++ m :: earlier ∧ Computes m n c k.verdict ∧
      Fingerprint.key c = key ∧ m.before.now = k.since ∧ Undisturbed c.name later := by
  induction h with
  | start => cases kept
  | @go past s s' cause h move ih =>
    rcases Move.computes_or_keeps (m := ⟨s, cause, s'⟩) move (fun _ _ _ => h.nodeClass_eq rfl) kept
      with ⟨n, c, hcomputes, hkey, hnow⟩ | ⟨hkeeps, hundisturbed⟩
    · exact ⟨[], _, past, n, c, rfl, hcomputes, hkey, hnow, nofun⟩
    · obtain ⟨later, m, earlier, n, c, rfl, hcomputes, rfl, hnow, hlater⟩ := ih hkeeps
      have hnew := hundisturbed c.name (Fingerprint.owner?_key c)
      refine ⟨⟨s, cause, s'⟩ :: later, m, earlier, n, c, rfl, hcomputes, rfl, hnow, ?_⟩
      intro m' hm'
      rcases List.mem_cons.1 hm' with rfl | hm'
      · exact hnew _ List.mem_cons_self
      · exact hlater m' hm'

/-- A verdict that is found among the kept ones was found out at some moment. -/
theorem History.exists_computes_of_get (h : History w (begin setup provider) past s) {c : NodeClass}
    {v : Verdict} (found : (s.keeper.cache.get s.now (Fingerprint.key c)).1 = some v) :
    ∃ later m earlier n c', past = later ++ m :: earlier ∧ Computes m n c' v ∧
      Fingerprint.key c' = Fingerprint.key c ∧ s.now < m.before.now + setup.settings.cacheTtl ∧
      Undisturbed c.name later := by
  obtain ⟨k, hkeeps, hcounts, rfl⟩ := VerdictCache.get_eq_some_iff.1 found
  obtain ⟨later, m, earlier, n, c', hpast, hcomputes, hkey, hnow, hlater⟩ :=
    h.exists_computes hkeeps
  have hname : c'.name = c.name := by
    have howner := Fingerprint.owner?_key c'
    rw [hkey, Fingerprint.owner?_key] at howner
    exact (Option.some.inj howner).symm
  refine ⟨later, m, earlier, n, c', hpast, hcomputes, hkey, ?_, hname ▸ hlater⟩
  have young : ∀ now since ttl : Nat, now - since < ttl → now < since + ttl := by omega
  have httl : s.keeper.cache.ttl = setup.settings.cacheTtl := h.ttl_eq .keeper
  rw [VerdictCache.counts, decide_eq_true_eq, httl] at hcounts
  rw [hnow]
  exact young _ _ _ hcounts

/-- Where a task says what the verdict on a class is, it finds that out, or finds it among the kept
verdicts. -/
theorem computes_or_get {m : Moment σ} {n : Nat} (cause : m.cause = .stepped n)
    (own : ∀ (n : Nat) (c : NodeClass) (p : Reconcile.Point),
      m.before.standing? n = some ⟨.reconcile c, .goOn p⟩ → p.nodeClass = c)
    {x : Standing} {provider : σ} (arrives : Arrives m.before n x.job x.next provider)
    {c : NodeClass} {o : ClassOutcome}
    (told : x = ⟨.reconcile c, .done (.ok o)⟩ ∨ x = ⟨.peek c, .done o⟩)
    (decided : Reconcile.Decided o) :
    ∃ v, o = Reconcile.outcome m.before.setup.settings v ∧
      (Computes m n c v ∨
        (m.before.keeper.cache.get m.before.now (Fingerprint.key c)).1 = some v) := by
  rcases told with rfl | rfl
  · rcases arrives.exists with
      ⟨-, hnext, -⟩ | ⟨cancelAt, point, hold, slot, answer, task, looked, hnext⟩
    · have hstart : Reconcile.start m.before.setup.settings c = .done (.ok o) := hnext.symm
      unfold Reconcile.start at hstart
      split at hstart <;> cases hstart
      next hgate => exact absurd decided (Reconcile.not_decided_of_dependencyGate hgate)
    · have hclass := own n c point (standing?_of_get? task)
      have hresume : (Reconcile.resume m.before.setup.settings m.before.now m.before.keeper.cache
          point answer).1 = .done (.ok o) := hnext.symm
      rcases Reconcile.finds_or_glanced m.before.setup.settings m.before.now m.before.keeper.cache
        point answer with ⟨v, hfinds⟩ | ⟨-, hkept⟩
      · obtain ⟨cache, -, hfound⟩ := Reconcile.resume_of_finds hfinds
        rw [hfound] at hresume
        cases hresume
        exact ⟨v, rfl, .inl ⟨cause, cancelAt, point, hold, slot, answer, provider, task, looked,
          hclass, hfinds⟩⟩
      · obtain ⟨v, hv, ho⟩ := hkept o hresume
        exact ⟨v, ho, .inr (hclass ▸ hv)⟩
  · rcases arrives.exists with ⟨-, hnext, -⟩ | ⟨_, point, _⟩
    · have hpeek : (Reconcile.peek m.before.setup.settings m.before.now m.before.keeper.cache c).1 =
          o := (Next.done.inj hnext).symm
      subst hpeek
      obtain ⟨v, hv, ho⟩ := Reconcile.exists_of_decided_peek decided
      exact ⟨v, ho, .inr hv⟩
    · exact nomatch point

/-- A task that reconciles a class without finding a verdict out only looks at the kept verdicts. -/
theorem Move.glanced_of_error {m : Moment σ} (move : Move w m.before m.cause m.after)
    (own : ∀ (n : Nat) (c : NodeClass) (p : Reconcile.Point),
      m.before.standing? n = some ⟨.reconcile c, .goOn p⟩ → p.nodeClass = c) {n : Nat}
    {c : NodeClass} (cause : m.cause = .stepped n)
    (job : ∀ j, m.before.job? n = some j → j = .reconcile c)
    (undecided : ∀ o, m.after.standing? n ≠ some ⟨.reconcile c, .done (.ok o)⟩) :
    m.before.keeper.cache.Glanced m.before.now m.after.keeper.cache := by
  rcases move.keeps own with hglanced | ⟨k, c', v, hcomputes⟩ | ⟨name, k, cancelAt, hcause, task⟩
  · exact hglanced
  · obtain ⟨hdone, -⟩ := move.exists_of_computes hcomputes
    obtain ⟨hcause, cancelAt, point, hold, slot, answer, provider, task, -⟩ := hcomputes
    cases cause.symm.trans hcause
    cases job _ (job?_of_get? task)
    exact absurd hdone (undecided _)
  · cases cause.symm.trans hcause
    cases job _ (job?_of_get? task)

/-- After any history, whatever the provider answers, fails or delays: a verdict that a task tells,
by a reconciliation or a peek, was found out by that task then, or by an earlier one for a class of
the same key; then that was not too long ago, and the class was not forgotten and no verdict on a
class of its name was kept since.  A reconciliation that fails changes nothing of what a peek shows
from then on. -/
theorem verdict_provenance (h : History w (begin setup provider) past s) :
    (∀ n c o, (s.standing? n = some ⟨.reconcile c, .done (.ok o)⟩ ∨
        s.standing? n = some ⟨.peek c, .done o⟩) → Reconcile.Decided o →
      ∃ later m earlier v, past = later ++ m :: earlier ∧ m.cause = .stepped n ∧
        m.before.standing? n ≠ s.standing? n ∧ m.after.standing? n = s.standing? n ∧
        o = Reconcile.outcome setup.settings v ∧
        (Computes m n c v ∨
          ∃ between m' before n' c', earlier = between ++ m' :: before ∧ Computes m' n' c' v ∧
            Fingerprint.key c' = Fingerprint.key c ∧
            m.before.now < m'.before.now + setup.settings.cacheTtl ∧
            Undisturbed c.name between)) ∧
    (∀ n c e, s.standing? n = some ⟨.reconcile c, .done (.error e)⟩ →
      ∀ m ∈ past, m.cause = .stepped n → ∀ d now, m.before.now ≤ now →
        (Reconcile.peek setup.settings now m.after.keeper.cache d).1 =
          (Reconcile.peek setup.settings now m.before.keeper.cache d).1) := by
  refine ⟨fun n c o hn hdecided => ?_, fun n c e hn m hm hcause d now hnow => ?_⟩
  · obtain ⟨x, hx, htold, hresult⟩ : ∃ x : Standing, s.standing? n = some x ∧
        (x = ⟨.reconcile c, .done (.ok o)⟩ ∨ x = ⟨.peek c, .done o⟩) ∧
        ∀ (j : Job) (point : j.Point), x ≠ ⟨j, .goOn point⟩ := by
      rcases hn with hn | hn
      · exact ⟨_, hn, .inl rfl, fun _ _ => nofun⟩
      · exact ⟨_, hn, .inr rfl, fun _ _ => nofun⟩
    obtain ⟨later, m, earlier, provider', rfl, hcause, hafter, harrives⟩ := h.exists_arrives rfl hx
    obtain ⟨hearlier, -⟩ := h.of_append
    have hsetup : m.before.setup = setup := hearlier.setup
    obtain ⟨v, ho, hsource⟩ :=
      computes_or_get hcause (fun _ _ _ => hearlier.nodeClass_eq rfl) harrives htold hdecided
    rw [hsetup] at ho
    refine ⟨later, m, earlier, v, rfl, hcause, ?_, hafter.trans hx.symm, ho, ?_⟩
    · rw [hx]
      rcases harrives.standing? with hnone | ⟨point, hpoint⟩
      · rw [hnone]
        exact nofun
      · rw [hpoint]
        exact fun hsame => hresult _ point (Option.some.inj hsame).symm
    · rcases hsource with hcomputes | hfound
      · exact .inl hcomputes
      · exact .inr (hearlier.exists_computes_of_get hfound)
  · obtain ⟨before, hbefore, hmove⟩ := h.exists_of_mem hm
    have hfresh := fresh_begin setup provider
    have hglanced := hmove.glanced_of_error (fun _ _ _ => hbefore.nodeClass_eq rfl) (c := c) hcause
      (fun j hj => Option.some.inj
        ((h.job?_of_mem hfresh hm hj).symm.trans (job?_of_standing? hn)))
      fun o ho => nomatch hn.symm.trans (h.standing?_done_of_mem hfresh hm ho)
    exact Reconcile.peek_congr (hglanced.get_eq hnow _)

end

/-- What a peek shows was found out by the reconciliation before it. -/
theorem peek_after_reconcile :
    ∃ past s, History ⟨fun _ => True, Memory.Told fun _ => True⟩
        (begin Setup.small (Memory.ofNetwork "network")) past s ∧
      s.standing? 1 =
        some ⟨.peek .small, .done (Reconcile.outcome Setup.small.settings .success)⟩ ∧
      ∃ m ∈ past, ∃ n c, Computes m n c .success ∧
        Fingerprint.key c = Fingerprint.key .small := by
  have h : History ⟨fun _ => True, Memory.Told fun _ => True⟩
      (begin Setup.small (Memory.ofNetwork "network")) [] _ := .start
  have h := h.go (.submit (j := .reconcile .small) none trivial)
  have h := h.go (c := .stepped 0) (.step rfl)
  have h := h.go (c := .stepped 0) (.step rfl)
  have h := h.go (.submit (j := .peek .small) none trivial)
  have h := h.go (c := .stepped 1) (.step rfl)
  have hkept := VerdictCache.get_insert (.empty 8) (Fingerprint.key .small) .success
    (show 0 - 0 < 8 by decide)
  have hpeek : (Reconcile.peek Setup.small.settings 0
      ((VerdictCache.empty 8).insert 0 (Fingerprint.key .small) .success) .small).1 =
      Reconcile.outcome Setup.small.settings .success := by
    rw [Reconcile.peek_of_dependencyGate_eq_none rfl, hkept]
    rfl
  obtain ⟨past, s, h, hdone⟩ : ∃ past s, History ⟨fun _ => True, Memory.Told fun _ => True⟩
      (begin Setup.small (Memory.ofNetwork "network")) past s ∧ s.standing? 1 =
        some ⟨.peek .small, .done (Reconcile.outcome Setup.small.settings .success)⟩ := by
    refine ⟨_, _, h, ?_⟩
    rw [← hpeek]
    rfl
  obtain ⟨later, m, earlier, v, rfl, -, -, -, ho, hsource⟩ :=
    (verdict_provenance h).1 1 .small _ (.inr hdone) (.inl rfl)
  obtain rfl : v = .success := (congrArg ClassOutcome.verdict ho).symm
  refine ⟨_, s, h, hdone, ?_⟩
  rcases hsource with hcomputes | ⟨between, m', before, n, c, rfl, hcomputes, hkey, -⟩
  · exact ⟨m, by simp, 1, .small, hcomputes, rfl⟩
  · exact ⟨m', by simp, n, c, hcomputes, hkey⟩

end NodeSupply.Session
