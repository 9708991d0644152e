import NodeSupply.Verdict.Checks

/-!
# What comes of a call of the checks

A call fails, or its answer breaks the rule about it, or the checks go on.  A call that fails breaks
a rule as well if it says that a subnet or a security group is not there.

## Main definitions

* `Checks.Failure`, `Checks.Failure.ofError` : why the checks end, and how a call fails.
* `Checks.Stage.rule`, `Checks.Stage.onward` : the rule about an answer, and how the checks go on.

## Main statements

* `Checks.resume_error`, `Checks.resume_ok` : what comes of a call that fails, and of one that is
  answered.
* `Checks.broken_or_onward_of_resume` : the checks end with a broken rule or go on.
-/

namespace NodeSupply.Checks

/-! ### Failures -/

/-- Why the checks end at a step. -/
inductive Failure where
  /-- A rule is broken. -/
  | broken (rule : Violation)
  /-- A call was not answered. -/
  | unanswered (cause : ProviderError)

namespace Failure

/-- What the checks come to if a step fails. -/
def result : Failure → Except ProviderError Verdict
  | broken rule => .ok rule.verdict
  | unanswered cause => .error cause

/-- How a call fails.  That a subnet or a security group is not there breaks a rule; any other
failure leaves the call without an answer. -/
def ofError : Request → ProviderError → Failure
  | .subnet id, e => if e.isNotFound then .broken (.subnetMissing id) else .unanswered e
  | .securityGroup id, e =>
    if e.isNotFound then .broken (.securityGroupMissing id) else .unanswered e
  | _, e => .unanswered e

theorem eq_of_result_ofError {r : Request} {e e' : ProviderError}
    (h : (ofError r e).result = .error e') : e = e' := by
  unfold ofError at h
  split at h
  next => split at h <;> cases h; rfl
  next => split at h <;> cases h; rfl
  next => cases h; rfl

end Failure

/-! ### Answers -/

/-- The rule about a security group that the provider reports. -/
def groupRule (network : NetworkId) (id : SecurityGroupId) (reported : SecurityGroup) :
    Option Violation :=
  if reported.network = "" ∨ reported.network = network then none
  else some (.securityGroupMissing id)

theorem groupRule_eq_none_iff {network : NetworkId} {id : SecurityGroupId}
    {reported : SecurityGroup} : groupRule network id reported = none ↔
      reported.network = "" ∨ reported.network = network := by
  unfold groupRule
  split
  next h => exact iff_of_true rfl h
  next h => exact iff_of_false nofun h

/-- The rule about the answer to a call. -/
def Stage.rule : (stage : Stage) → stage.request.Reply → Option Violation
  | subnetNetwork, _ => none
  | subnet network _ current _, reported => subnetRule network current reported
  | groupNetwork, _ => none
  | group network current _, reported => groupRule network current reported

/-- How the checks go on after an answer that keeps the rule about it. -/
def Stage.onward (c : NodeClass) : (stage : Stage) → stage.request.Reply → Next
  | subnetNetwork, network => walkSubnets c network [] c.subnets
  | subnet network seen _ rest, _ => walkSubnets c network seen rest
  | groupNetwork, network => walkGroups c network c.securityGroups
  | group network _ rest, _ => walkGroups c network rest

variable {c : NodeClass}

theorem resume_error (stage : Stage) (e : ProviderError) :
    resume c stage (.error e) = (Failure.ofError stage.request e).result.map .verdict := by
  cases stage with
  | subnetNetwork => rfl
  | groupNetwork => rfl
  | subnet network seen current rest =>
    simp only [resume, Failure.ofError]
    split <;> rfl
  | group network current rest =>
    simp only [resume, Failure.ofError]
    split <;> rfl

theorem resume_ok (stage : Stage) (reply : stage.request.Reply) :
    resume c stage (.ok reply) =
      .ok ((stage.rule reply).elim (stage.onward c reply) Next.broken) := by
  cases stage with
  | subnetNetwork => rfl
  | groupNetwork => rfl
  | subnet network seen current rest =>
    simp only [resume, Stage.rule]
    split
    next v h =>
      rw [h]
      rfl
    next h =>
      rw [h]
      rfl
  | group network current rest =>
    simp only [resume, Stage.rule, groupRule]
    split <;> rfl

/-- If a call leads anywhere, then to a broken rule, or on from an answer that keeps the rule. -/
theorem broken_or_onward_of_resume {stage : Stage} {answer : stage.request.Outcome} {next : Next}
    (h : resume c stage answer = .ok next) : (∃ v, next = .broken v) ∨
      ∃ reply, answer = .ok reply ∧ stage.rule reply = none ∧ next = stage.onward c reply := by
  cases answer with
  | error e =>
    rw [resume_error] at h
    cases hfailure : Failure.ofError stage.request e with
    | broken v =>
      rw [hfailure] at h
      exact .inl ⟨v, (Except.ok.inj h).symm⟩
    | unanswered cause =>
      rw [hfailure] at h
      cases h
  | ok reply =>
    rw [resume_ok] at h
    cases hrule : stage.rule reply with
    | some v =>
      rw [hrule] at h
      exact .inl ⟨v, (Except.ok.inj h).symm⟩
    | none =>
      rw [hrule] at h
      exact .inr ⟨reply, rfl, hrule, (Except.ok.inj h).symm⟩

end NodeSupply.Checks
