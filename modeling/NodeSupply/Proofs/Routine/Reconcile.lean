import NodeSupply.Proofs.Verdict.Cache
import NodeSupply.Routine.Reconcile

/-!
# What a reconciliation comes to

A reconciliation uses the verdict that is kept of its class, if one counts, and else goes through
the checks, call by call, and keeps the verdict that it finds out.  A peek only looks at what is
kept.

## Main definitions

* `Reconcile.Finds` : the routine finds a verdict out by itself.
* `Reconcile.Decided` : there is a verdict on a class.

## Main statements

* `Reconcile.resume_of_finds`, `Reconcile.finds_or_glanced` : the routine keeps what it finds out,
  or only looks at what is kept.
-/

namespace NodeSupply.Reconcile

variable {s : Settings} {c : NodeClass}

/-- A class whose turn it is and of which a verdict is kept that counts gets that one. -/
theorem resume_of_known {now : Instant} {cache : VerdictCache} {v : Verdict}
    (known : (cache.get now (Fingerprint.key c)).1 = some v) :
    resume s now cache (.queued c) () =
      (.done (.ok (outcome s v)), (cache.get now (Fingerprint.key c)).2) := by
  simp only [resume]
  split
  next h =>
    rw [h] at known
    cases known
    rw [h]
  next h =>
    rw [h] at known
    cases known

/-- Without checks a class whose turn it is and of which no verdict is kept that counts passes. -/
theorem resume_of_disabled {now : Instant} {cache : VerdictCache}
    (disabled : s.checksDisabled = true)
    (unknown : (cache.get now (Fingerprint.key c)).1 = none) :
    resume s now cache (.queued c) () =
      conclude s now (cache.get now (Fingerprint.key c)).2 c .success := by
  simp only [resume]
  split
  next h =>
    rw [h] at unknown
    cases unknown
  next h => rw [h, if_pos disabled]

/-- A class whose turn it is and of which no verdict is kept that counts is checked. -/
theorem resume_of_unknown {now : Instant} {cache : VerdictCache}
    (enabled : s.checksDisabled = false)
    (unknown : (cache.get now (Fingerprint.key c)).1 = none) :
    resume s now cache (.queued c) () =
      proceed s now (cache.get now (Fingerprint.key c)).2 c (Checks.begin c) := by
  simp only [resume]
  split
  next h =>
    rw [h] at unknown
    cases unknown
  next h => rw [h, enabled, if_neg Bool.false_ne_true]

/-- The routine goes on from the checks to their next call only. -/
theorem exists_stage_of_proceed {now : Instant} {cache : VerdictCache} {checks : Checks.Next}
    {p : Point} (next : (proceed s now cache c checks).1 = .goOn p) :
    ∃ stage, checks = .ask stage ∧ p = .checking c stage := by
  cases checks with
  | verdict v => cases next
  | ask stage =>
    cases next
    exact ⟨stage, rfl, rfl⟩

/-- The routine goes on with the class that it was started for. -/
theorem nodeClass_of_start {p : Point} (next : start s c = .goOn p) : p.nodeClass = c := by
  unfold start at next
  split at next <;> cases next
  rfl

/-- At its turn the routine goes on to the checks only if no verdict is kept that counts. -/
theorem of_resume_queued_eq_goOn {now : Instant} {cache : VerdictCache} {p : Point}
    (next : (resume s now cache (.queued c) ()).1 = .goOn p) :
    (cache.get now (Fingerprint.key c)).1 = none ∧ s.checksDisabled = false ∧
      (resume s now cache (.queued c) ()).2 = (cache.get now (Fingerprint.key c)).2 := by
  cases hget : (cache.get now (Fingerprint.key c)).1 with
  | some v =>
    rw [resume_of_known hget] at next
    cases next
  | none =>
    cases hchecks : s.checksDisabled with
    | true =>
      rw [resume_of_disabled hchecks hget] at next
      cases next
    | false =>
      rw [resume_of_unknown hchecks hget] at next ⊢
      obtain ⟨stage, hbegin, -⟩ := exists_stage_of_proceed next
      rw [hbegin]
      exact ⟨rfl, rfl, rfl⟩

/-- The routine goes on to calls of the checks only. -/
theorem exists_stage_of_resume {now : Instant} {cache : VerdictCache} {p p' : Point}
    {answer : p.awaits.Answer} (next : (resume s now cache p answer).1 = .goOn p') :
    ∃ stage, p' = .checking p.nodeClass stage := by
  cases p with
  | queued c =>
    obtain ⟨hnone, henabled, -⟩ := of_resume_queued_eq_goOn next
    rw [resume_of_unknown henabled hnone] at next
    obtain ⟨stage, -, hp⟩ := exists_stage_of_proceed next
    exact ⟨stage, hp⟩
  | checking c stage =>
    simp only [resume] at next
    split at next
    next =>
      obtain ⟨stage, -, hp⟩ := exists_stage_of_proceed next
      exact ⟨stage, hp⟩
    next => cases next

theorem nodeClass_of_resume {now : Instant} {cache : VerdictCache} {p p' : Point}
    {answer : p.awaits.Answer} (next : (resume s now cache p answer).1 = .goOn p') :
    p'.nodeClass = p.nodeClass := by
  obtain ⟨stage, rfl⟩ := exists_stage_of_resume next
  rfl

/-! ### Kept verdicts -/

/-- With the answer that the routine waited for it finds a verdict out by itself: none is kept that
counts and there is nothing to ask, or the checks are over. -/
def Finds (s : Settings) (now : Instant) (cache : VerdictCache) :
    (p : Point) → p.awaits.Answer → Verdict → Prop
  | .queued c, (), v =>
    (cache.get now (Fingerprint.key c)).1 = none ∧
      (s.checksDisabled = true ∧ v = .success ∨
        s.checksDisabled = false ∧ Checks.begin c = .verdict v)
  | .checking c stage, answer, v => Checks.resume c stage answer = .ok (.verdict v)

/-- A verdict that the routine finds out is its result, and is kept. -/
theorem resume_of_finds {now : Instant} {cache : VerdictCache} {p : Point}
    {answer : p.awaits.Answer} {v : Verdict} (finds : Finds s now cache p answer v) :
    ∃ cache', cache.Glanced now cache' ∧ resume s now cache p answer =
      (.done (.ok (outcome s v)), cache'.insert now (Fingerprint.key p.nodeClass) v) := by
  cases p with
  | queued c =>
    obtain ⟨hnone, hfound⟩ := finds
    refine ⟨(cache.get now (Fingerprint.key c)).2, .inr ⟨_, rfl⟩, ?_⟩
    rcases hfound with ⟨hdisabled, rfl⟩ | ⟨henabled, hbegin⟩
    · exact resume_of_disabled hdisabled hnone
    · rw [resume_of_unknown henabled hnone, hbegin]
      rfl
  | checking c stage =>
    have hresume : Checks.resume c stage answer = .ok (.verdict v) := finds
    refine ⟨cache, .inl rfl, ?_⟩
    simp only [resume, hresume]
    rfl

/-- The routine finds a verdict out, or only looks at those that are kept; then what it says about
the class is what it finds there. -/
theorem finds_or_glanced (s : Settings) (now : Instant) (cache : VerdictCache) (p : Point)
    (answer : p.awaits.Answer) :
    (∃ v, Finds s now cache p answer v) ∨
      cache.Glanced now (resume s now cache p answer).2 ∧
        ∀ o, (resume s now cache p answer).1 = .done (.ok o) →
          ∃ v, (cache.get now (Fingerprint.key p.nodeClass)).1 = some v ∧ o = outcome s v := by
  cases p with
  | queued c =>
    cases hget : (cache.get now (Fingerprint.key c)).1 with
    | some v =>
      rw [resume_of_known hget]
      refine .inr ⟨.inr ⟨_, rfl⟩, fun o ho => ⟨v, hget, ?_⟩⟩
      cases ho
      rfl
    | none =>
      cases hchecks : s.checksDisabled with
      | true => exact .inl ⟨.success, hget, .inl ⟨hchecks, rfl⟩⟩
      | false =>
        cases hbegin : Checks.begin c with
        | verdict v => exact .inl ⟨v, hget, .inr ⟨hchecks, hbegin⟩⟩
        | ask stage =>
          rw [resume_of_unknown hchecks hget, hbegin]
          exact .inr ⟨.inr ⟨_, rfl⟩, fun o => nofun⟩
  | checking c stage =>
    cases hresume : Checks.resume c stage answer with
    | error e =>
      refine .inr ?_
      simp only [resume, hresume]
      exact ⟨.inl rfl, fun o ho => nomatch ho⟩
    | ok next =>
      cases next with
      | verdict v => exact .inl ⟨v, hresume⟩
      | ask stage' =>
        simp only [resume, hresume]
        exact .inr ⟨.inl rfl, fun o => nofun⟩

/-! ### Peeking -/

/-- There is a verdict on a class. -/
def Decided (o : ClassOutcome) : Prop := o.state = .succeeded ∨ o.state = .failed

theorem not_decided_of_dependencyGate {o : ClassOutcome} (h : dependencyGate s c = some o) :
    ¬ Decided o := by
  unfold dependencyGate at h
  split at h <;> cases h <;> rintro (h | h) <;> cases h

theorem peek_of_dependencyGate_eq_none {now : Instant} {cache : VerdictCache}
    (ready : dependencyGate s c = none) : peek s now cache c =
      ((cache.get now (Fingerprint.key c)).1.elim ⟨.validating, .success, none⟩ (outcome s),
        (cache.get now (Fingerprint.key c)).2) := by
  simp only [peek, ready]
  split
  next h => simp [h]
  next h => simp [h]

/-- To peek is only to look. -/
theorem glanced_peek (s : Settings) (now : Instant) (cache : VerdictCache) (c : NodeClass) :
    cache.Glanced now (peek s now cache c).2 := by
  cases hready : dependencyGate s c with
  | some o =>
    rw [peek, hready]
    exact .inl rfl
  | none =>
    rw [peek_of_dependencyGate_eq_none hready]
    exact .inr ⟨_, rfl⟩

/-- A peek shows what is found under the key. -/
theorem peek_congr {now : Instant} {cache cache' : VerdictCache}
    (same : (cache'.get now (Fingerprint.key c)).1 = (cache.get now (Fingerprint.key c)).1) :
    (peek s now cache' c).1 = (peek s now cache c).1 := by
  cases hready : dependencyGate s c with
  | some o => simp only [peek, hready]
  | none =>
    rw [peek_of_dependencyGate_eq_none hready, peek_of_dependencyGate_eq_none hready, same]

theorem exists_of_decided_peek {now : Instant} {cache : VerdictCache}
    (decided : Decided (peek s now cache c).1) :
    ∃ v, (cache.get now (Fingerprint.key c)).1 = some v ∧
      (peek s now cache c).1 = outcome s v := by
  cases hready : dependencyGate s c with
  | some o =>
    rw [peek, hready] at decided
    exact absurd decided (not_decided_of_dependencyGate hready)
  | none =>
    rw [peek_of_dependencyGate_eq_none hready] at decided ⊢
    cases hget : (cache.get now (Fingerprint.key c)).1 with
    | some v => exact ⟨v, rfl, rfl⟩
    | none =>
      rw [hget] at decided
      rcases decided with h | h <;> cases h

end NodeSupply.Reconcile
