import NodeSupply.Proofs.Routine.LaunchPlan
import NodeSupply.Proofs.Routine.Reconcile

/-!
# What is known where a node is being launched

The routine goes through reconciling, making and resolving in this order.  From making on there is a
plan, which depends on nothing but the brief, the class and the request; it is what is asked for and
what the launched node is described by.

## Main definitions

* `CreateGroup.Point.IsFor` : the routine that makes a group does so for a request.
* `Provision.Fits` : what is known of the plan where the routine stands.
* `Provision.Passed` : the routine has found the class usable.

## Main statements

* `Provision.fits_start`, `Provision.fits_resume` : the routine goes on from what is known.
* `Provision.exists_of_passed_resume` : the routine goes on to making only by a passing verdict.
-/

namespace NodeSupply

/-- The routine that makes a group does so for a request. -/
def CreateGroup.Point.IsFor (home : String) (r : NodeGroupRequest) : CreateGroup.Point → Prop
  | .queued r' => r' = r
  | .listing r' => r' = r
  | .creating r' spec => r' = r ∧ spec = r.spec home

theorem CreateGroup.isFor_of_resume {s : Settings} {r : NodeGroupRequest} {p p' : CreateGroup.Point}
    {answer : p.awaits.Answer} (h : p.IsFor s.cluster r) (next : resume s p answer = .goOn p') :
    p'.IsFor s.cluster r := by
  cases p with
  | queued r' =>
    cases next
    exact h
  | listing r' =>
    obtain rfl : r' = r := h
    cases answer with
    | error e => cases next
    | ok groups =>
      simp only [resume] at next
      split at next <;> cases next
      exact ⟨rfl, rfl⟩
  | creating r' spec => cases answer <;> cases next

namespace Provision

variable {brief : Brief} {now : Instant} {cache : VerdictCache} {c : NodeClass} {r : NodeRequest}

/-- What is known of the plan where the routine stands. -/
def Fits (brief : Brief) (c : NodeClass) (r : NodeRequest) : Next Point Result → Prop
  | .goOn (.reconciling r' p) => r' = r ∧ p.nodeClass = c
  | .goOn (.creating plan p) =>
    LaunchPlan.of brief c r = .ok plan ∧ p.IsFor brief.settings.cluster plan.request
  | .goOn (.resolving plan _ _) => LaunchPlan.of brief c r = .ok plan
  | .done (.ok node) =>
    ∃ plan, LaunchPlan.of brief c r = .ok plan ∧ node = plan.node node.group node.externalId
  | .done (.error _) => True
  | .crash => True

/-- The routine has found the class usable and has gone on, or has launched a node. -/
def Passed : Next Point Result → Prop
  | .goOn (.reconciling ..) => False
  | .goOn (.creating ..) => True
  | .goOn (.resolving ..) => True
  | .done (.ok _) => True
  | .done (.error _) => False
  | .crash => False

theorem fits_afterResolve {plan : LaunchPlan} (known : LaunchPlan.of brief c r = .ok plan)
    (group : NodeGroupId) (result : ResolveId.Result) :
    Fits brief c r (afterResolve plan group result) := by
  cases result with
  | ok externalId => exact ⟨plan, known, rfl⟩
  | error e => trivial

theorem fits_resolving {plan : LaunchPlan} (known : LaunchPlan.of brief c r = .ok plan)
    (group : NodeGroupId) (next : Next ResolveId.Point ResolveId.Result) :
    Fits brief c r (next.map (.resolving plan group) (afterResolve plan group)) := by
  cases next with
  | goOn p => exact known
  | done result => exact fits_afterResolve known group result
  | crash => trivial

theorem fits_afterCreate {plan : LaunchPlan} (known : LaunchPlan.of brief c r = .ok plan)
    (result : CreateGroup.Result) : Fits brief c r (afterCreate brief now plan result) := by
  cases result with
  | ok group => exact fits_resolving known group _
  | error e => trivial

theorem fits_afterReconcile (result : Reconcile.Result) :
    Fits brief c r (afterReconcile brief now c r result) := by
  unfold afterReconcile
  split
  next => trivial
  next =>
    split
    next =>
      split
      next => trivial
      next plan hplan => exact ⟨hplan, rfl⟩
    next => trivial

theorem fits_start : Fits brief c r (start brief now c r) := by
  unfold start
  cases hnext : Reconcile.start brief.settings c with
  | goOn p => exact ⟨rfl, Reconcile.nodeClass_of_start hnext⟩
  | done result => exact fits_afterReconcile result
  | crash => trivial

theorem fits_resume {p : Point} (h : Fits brief c r (.goOn p)) (answer : p.awaits.Answer) :
    Fits brief c r (resume brief now cache p answer).1 := by
  cases p with
  | reconciling r' p =>
    obtain ⟨rfl, rfl⟩ := h
    change Fits brief p.nodeClass r' ((Reconcile.resume brief.settings now cache p answer).1.map
      (.reconciling r') (afterReconcile brief now p.nodeClass r'))
    cases hnext : (Reconcile.resume brief.settings now cache p answer).1 with
    | goOn p' => exact ⟨rfl, Reconcile.nodeClass_of_resume hnext⟩
    | done result => exact fits_afterReconcile result
    | crash => trivial
  | creating plan p =>
    obtain ⟨hplan, hfor⟩ := h
    change Fits brief c r ((CreateGroup.resume brief.settings p answer).map (.creating plan)
      (afterCreate brief now plan))
    cases hnext : CreateGroup.resume brief.settings p answer with
    | goOn p' => exact ⟨hplan, CreateGroup.isFor_of_resume hfor hnext⟩
    | done result => exact fits_afterCreate hplan result
    | crash => trivial
  | resolving plan group p => exact fits_resolving h group _

/-- The routine asks for what its plan says, once it has one. -/
theorem exists_plan_of_asks {p : Point} (h : Fits brief c r (.goOn p)) {spec : NodeGroupSpec}
    {limit : Limit} (asks : p.awaits = .call (.createNodeGroup spec) limit) :
    Passed (.goOn p) ∧ ∃ plan, LaunchPlan.of brief c r = .ok plan ∧
      spec = plan.request.spec brief.settings.cluster := by
  cases p with
  | reconciling r' q =>
    cases q with
    | queued c => cases asks
    | checking c stage => cases stage <;> cases asks
  | resolving plan group q => cases q <;> cases asks
  | creating plan q =>
    obtain ⟨hplan, hfor⟩ := h
    cases q with
    | queued r' => cases asks
    | listing r' => cases asks
    | creating r' spec' =>
      cases asks
      obtain ⟨-, rfl⟩ := hfor
      exact ⟨trivial, plan, hplan, rfl⟩

/-- The point that the routine reconciles its class at. -/
def reconciling? : Next Point Result → Option Reconcile.Point
  | .goOn (.reconciling _ q) => some q
  | .goOn (.creating ..) => none
  | .goOn (.resolving ..) => none
  | .done _ => none
  | .crash => none

theorem reconciling?_afterReconcile (result : Reconcile.Result) :
    reconciling? (afterReconcile brief now c r result) = none := by
  unfold afterReconcile
  split
  next => rfl
  next =>
    split
    next => split <;> rfl
    next => rfl

theorem reconciling?_resolving {plan : LaunchPlan} {group : NodeGroupId}
    (next : Next ResolveId.Point ResolveId.Result) :
    reconciling? (next.map (.resolving plan group) (afterResolve plan group)) = none := by
  cases next with
  | goOn p => rfl
  | done result => cases result <;> rfl
  | crash => rfl

theorem reconciling?_creating {plan : LaunchPlan}
    (next : Next CreateGroup.Point CreateGroup.Result) :
    reconciling? (next.map (.creating plan) (afterCreate brief now plan)) = none := by
  cases next with
  | goOn p => rfl
  | done result =>
    cases result with
    | error e => rfl
    | ok group => exact reconciling?_resolving _
  | crash => rfl

/-- The routine reconciles its class as long as that goes on, and never afterwards. -/
theorem eq_goOn_of_reconciling? {next : Next Reconcile.Point Reconcile.Result} {r' : NodeRequest}
    {q : Reconcile.Point}
    (h : reconciling? (next.map (.reconciling r') (afterReconcile brief now c r)) = some q) :
    next = .goOn q := by
  cases next with
  | goOn p =>
    cases h
    rfl
  | done result => cases (reconciling?_afterReconcile result).symm.trans h
  | crash => cases h

/-- The group that the routine knows of. -/
def group? : Next Point Result → Option NodeGroupId
  | .goOn (.resolving _ group _) => some group
  | .done (.ok node) => some node.group
  | .goOn (.reconciling ..) => none
  | .goOn (.creating ..) => none
  | .done (.error _) => none
  | .crash => none

theorem group?_afterReconcile (result : Reconcile.Result) :
    group? (afterReconcile brief now c r result) = none := by
  unfold afterReconcile
  split
  next => rfl
  next =>
    split
    next => split <;> rfl
    next => rfl

theorem eq_of_group?_resolving {plan : LaunchPlan} {group id : NodeGroupId}
    {next : Next ResolveId.Point ResolveId.Result}
    (h : group? (next.map (.resolving plan group) (afterResolve plan group)) = some id) :
    id = group := by
  cases next with
  | goOn p =>
    cases h
    rfl
  | done result =>
    cases result <;> cases h
    rfl
  | crash => cases h

theorem group?_reconciling (next : Next Reconcile.Point Reconcile.Result) :
    group? (next.map (.reconciling r) (afterReconcile brief now c r)) = none := by
  cases next with
  | goOn p => rfl
  | done result => exact group?_afterReconcile result
  | crash => rfl

/-- The routine learns of a group when the group was made, or was found. -/
theorem eq_done_of_group?_creating {plan : LaunchPlan} {id : NodeGroupId}
    {next : Next CreateGroup.Point CreateGroup.Result}
    (h : group? (next.map (.creating plan) (afterCreate brief now plan)) = some id) :
    next = .done (.ok id) := by
  cases next with
  | goOn p => cases h
  | done result =>
    cases result with
    | error e => cases h
    | ok group => rw [eq_of_group?_resolving h]
  | crash => cases h

/-- With a passing verdict and a plan the routine goes on to making. -/
theorem afterReconcile_of_succeeded {o : ClassOutcome} {plan : LaunchPlan}
    (succeeded : o.state = .succeeded) (known : LaunchPlan.of brief c r = .ok plan) :
    afterReconcile brief now c r (.ok o) = .goOn (.creating plan (.queued plan.request)) := by
  simp only [afterReconcile, if_pos succeeded, known]
  rfl

theorem resume_of_succeeded {cache' : VerdictCache} {q : Reconcile.Point}
    {answer : q.awaits.Answer} {o : ClassOutcome} {plan : LaunchPlan}
    (reconciled : Reconcile.resume brief.settings now cache q answer = (.done (.ok o), cache'))
    (succeeded : o.state = .succeeded) (known : LaunchPlan.of brief q.nodeClass r = .ok plan) :
    resume brief now cache (.reconciling r q) answer =
      (.goOn (.creating plan (.queued plan.request)), cache') := by
  simp only [resume, reconciled, Next.map]
  rw [afterReconcile_of_succeeded succeeded known]

theorem succeeded_of_passed {result : Reconcile.Result}
    (h : Passed (afterReconcile brief now c r result)) :
    ∃ o, result = .ok o ∧ o.state = .succeeded := by
  unfold afterReconcile at h
  split at h
  next => exact absurd h id
  next o =>
    split at h
    next hstate => exact ⟨o, rfl, hstate⟩
    next => exact absurd h id

theorem not_passed_start : ¬ Passed (start brief now c r) := by
  intro h
  unfold start at h
  unfold Reconcile.start at h
  split at h
  next o ho =>
    have hpassed : Passed (afterReconcile brief now c r (.ok o)) := h
    obtain ⟨o', ho', hstate⟩ := succeeded_of_passed hpassed
    cases ho'
    unfold Reconcile.dependencyGate at ho
    split at ho <;> cases ho <;> cases hstate
  next => exact h

/-- The routine goes on to making only by a passing verdict. -/
theorem exists_of_passed_resume {r' : NodeRequest} {q : Reconcile.Point} {answer : q.awaits.Answer}
    (h : Passed (resume brief now cache (.reconciling r' q) answer).1) :
    ∃ o, (Reconcile.resume brief.settings now cache q answer).1 = .done (.ok o) ∧
      o.state = .succeeded := by
  change Passed ((Reconcile.resume brief.settings now cache q answer).1.map
    (.reconciling r') (afterReconcile brief now q.nodeClass r')) at h
  cases hnext : (Reconcile.resume brief.settings now cache q answer).1 with
  | goOn p' =>
    rw [hnext] at h
    exact absurd h id
  | done result =>
    rw [hnext] at h
    obtain ⟨o, rfl, hstate⟩ := succeeded_of_passed h
    exact ⟨o, rfl, hstate⟩
  | crash =>
    rw [hnext] at h
    exact absurd h id

end Provision

end NodeSupply
