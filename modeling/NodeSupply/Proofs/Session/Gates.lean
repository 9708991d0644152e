import NodeSupply.Session.Job

/-!
# How jobs get to hold a gate

A job holds a gate at some of its points.  It gets there only from a point at which it holds the
same gate or awaits its turn at it, so that nobody passes a gate out of turn.

## Main definitions

* `Job.gateAt?` : the gate that a job holds or awaits at a point.
* `Next.Enters` : a routine goes on to where it holds a gate.

## Main statements

* `Job.not_enters_start` : no job begins with a gate in its hands.
* `Job.gateAt?_of_enters_resume` : a job goes on to hold a gate only by its turn.
-/

namespace NodeSupply

/-- The gate that a routine holds or awaits at a point. -/
def Job.gateAt? (j : Job) (p : j.Point) : Option Gate :=
  match j.awaits p with
  | .turn gate => some gate
  | .call .. | .pause _ => j.guards p

/-- A routine goes on to where it holds a gate. -/
def Next.Enters {π ρ : Type} (guards : π → Option Gate) (gate : Gate) (next : Next π ρ) : Prop :=
  ∃ p, next = .goOn p ∧ guards p = some gate

theorem Next.not_enters_done {π ρ : Type} {guards : π → Option Gate} {gate : Gate} {result : ρ} :
    ¬ (Next.done result : Next π ρ).Enters guards gate := by
  rintro ⟨p, hp, -⟩
  cases hp

/-- A routine that holds no gate anywhere. -/
theorem Next.not_enters_of_guards_eq_none {π ρ : Type} {guards : π → Option Gate} {gate : Gate}
    {next : Next π ρ} (none : ∀ p, guards p = none) : ¬ next.Enters guards gate := by
  rintro ⟨p, -, hguards⟩
  rw [none] at hguards
  cases hguards

theorem Next.Enters.of_map {π π' ρ ρ' : Type} {guards : π → Option Gate}
    {guards' : π' → Option Gate} {gate : Gate} {f : π → π'} {g : ρ → Next π' ρ'} {next : Next π ρ}
    (h : (next.map f g).Enters guards' gate) (same : ∀ p, guards' (f p) = guards p)
    (none : ∀ result, ¬ (g result).Enters guards' gate) : next.Enters guards gate := by
  cases next with
  | goOn p =>
    obtain ⟨p', hp', hguards⟩ := h
    cases hp'
    exact ⟨p, rfl, same p ▸ hguards⟩
  | done result => exact absurd h (none result)
  | crash =>
    obtain ⟨p', hp', -⟩ := h
    cases hp'

theorem Reconcile.not_enters_start {s : Settings} {c : NodeClass} {gate : Gate} :
    ¬ (Reconcile.start s c).Enters Reconcile.Point.guards gate := by
  rintro ⟨p, hp, hguards⟩
  unfold Reconcile.start at hp
  split at hp <;> cases hp
  cases hguards

theorem Reconcile.eq_of_enters_resume {s : Settings} {now : Instant} {cache : VerdictCache}
    {p : Reconcile.Point} {answer : p.awaits.Answer} {gate : Gate}
    (h : (Reconcile.resume s now cache p answer).1.Enters Reconcile.Point.guards gate) :
    .verdict (Fingerprint.key p.nodeClass) = gate := by
  have proceeds : ∀ {cache : VerdictCache} {c : NodeClass} {next : Checks.Next},
      (Reconcile.proceed s now cache c next).1.Enters Reconcile.Point.guards gate →
      .verdict (Fingerprint.key c) = gate := by
    rintro cache c next ⟨p', hp', hguards⟩
    cases next <;> cases hp'
    exact Option.some.inj hguards
  cases p with
  | queued c =>
    simp only [Reconcile.resume] at h
    split at h
    next => exact absurd h Next.not_enters_done
    next =>
      split at h
      next => exact absurd h Next.not_enters_done
      next => exact proceeds h
  | checking c stage =>
    simp only [Reconcile.resume] at h
    split at h
    next => exact proceeds h
    next => exact absurd h Next.not_enters_done

theorem CreateGroup.not_enters_start {r : NodeGroupRequest} {gate : Gate} :
    ¬ (CreateGroup.start r).Enters CreateGroup.Point.guards gate := by
  rintro ⟨p, hp, hguards⟩
  cases hp
  cases hguards

/-- The request that a point is about. -/
def CreateGroup.Point.request : CreateGroup.Point → NodeGroupRequest
  | queued r => r
  | listing r => r
  | creating r _ => r

theorem CreateGroup.eq_of_enters_resume {s : Settings} {p : CreateGroup.Point}
    {answer : p.awaits.Answer} {gate : Gate}
    (h : (CreateGroup.resume s p answer).Enters CreateGroup.Point.guards gate) :
    .create p.request.name = gate := by
  obtain ⟨p', hp', hguards⟩ := h
  cases p with
  | queued r =>
    cases hp'
    exact Option.some.inj hguards
  | listing r =>
    cases answer with
    | error e => cases hp'
    | ok groups =>
      simp only [CreateGroup.resume] at hp'
      split at hp' <;> cases hp'
      exact Option.some.inj hguards
  | creating r spec => cases answer <;> cases hp'

theorem DeleteGroup.not_enters_start {id : NodeGroupId} {gate : Gate} :
    ¬ (DeleteGroup.start id).Enters DeleteGroup.Point.guards gate := by
  rintro ⟨p, hp, hguards⟩
  cases hp
  cases hguards

/-- The group that a point is about. -/
def DeleteGroup.Point.group : DeleteGroup.Point → NodeGroupId
  | queued id => id
  | checking id => id
  | deleting id => id

theorem DeleteGroup.eq_of_enters_resume {p : DeleteGroup.Point} {answer : p.awaits.Answer}
    {gate : Gate} (h : (DeleteGroup.resume p answer).Enters DeleteGroup.Point.guards gate) :
    .delete p.group = gate := by
  obtain ⟨p', hp', hguards⟩ := h
  cases p with
  | queued id =>
    cases hp'
    exact Option.some.inj hguards
  | checking id =>
    cases answer with
    | error e => cases hp'
    | ok operations =>
      simp only [DeleteGroup.resume] at hp'
      split at hp' <;> cases hp'
      exact Option.some.inj hguards
  | deleting id => cases answer <;> cases hp'

theorem Provision.not_enters_afterResolve {plan : LaunchPlan} {group : NodeGroupId}
    {result : ResolveId.Result} {gate : Gate} :
    ¬ (Provision.afterResolve plan group result).Enters Provision.Point.guards gate := by
  cases result with
  | ok externalId => exact Next.not_enters_done
  | error e => exact Next.not_enters_done

theorem Provision.not_enters_resolving {plan : LaunchPlan} {group : NodeGroupId}
    {next : Next ResolveId.Point ResolveId.Result} {gate : Gate} :
    ¬ (next.map (.resolving plan group) (Provision.afterResolve plan group)).Enters
      Provision.Point.guards gate := by
  intro h
  have hnext : next.Enters (fun _ => none) gate :=
    h.of_map (fun _ => rfl) fun _ => Provision.not_enters_afterResolve
  exact Next.not_enters_of_guards_eq_none (fun _ => rfl) hnext

theorem Provision.not_enters_afterCreate {brief : Brief} {now : Instant} {plan : LaunchPlan}
    {result : CreateGroup.Result} {gate : Gate} :
    ¬ (Provision.afterCreate brief now plan result).Enters Provision.Point.guards gate := by
  cases result with
  | ok group => exact Provision.not_enters_resolving
  | error e => exact Next.not_enters_done

theorem Provision.not_enters_afterReconcile {brief : Brief} {now : Instant} {c : NodeClass}
    {r : NodeRequest} {result : Reconcile.Result} {gate : Gate} :
    ¬ (Provision.afterReconcile brief now c r result).Enters Provision.Point.guards gate := by
  intro h
  unfold Provision.afterReconcile at h
  split at h
  next => exact Next.not_enters_done h
  next =>
    split at h
    next =>
      split at h
      next => exact Next.not_enters_done h
      next =>
        exact CreateGroup.not_enters_start
          (h.of_map (fun _ => rfl) fun _ => Provision.not_enters_afterCreate)
    next => exact Next.not_enters_done h

theorem Job.enters_of_asProvision {next : Next DeleteGroup.Point DeleteGroup.Result} {gate : Gate}
    (h : (asProvision next).Enters DeleteGroup.Point.guards gate) :
    next.Enters DeleteGroup.Point.guards gate :=
  Next.Enters.of_map h (fun _ => rfl) fun _ => Next.not_enters_done

/-- No job begins with a gate in its hands. -/
theorem Job.not_enters_start {brief : Brief} {now : Instant} {cache : VerdictCache} {j : Job}
    {gate : Gate} : ¬ (j.start brief now cache).1.Enters j.guards gate := by
  cases j with
  | reconcile c => exact Reconcile.not_enters_start
  | createGroup r => exact CreateGroup.not_enters_start
  | deleteGroup id => exact DeleteGroup.not_enters_start
  | deprovision id =>
    intro h
    exact DeleteGroup.not_enters_start (Job.enters_of_asProvision h)
  | provision c r =>
    intro h
    have hstart : (Reconcile.start brief.settings c).Enters Reconcile.Point.guards gate :=
      h.of_map (fun _ => rfl) fun _ => Provision.not_enters_afterReconcile
    exact Reconcile.not_enters_start hstart
  | peek c => exact Next.not_enters_of_guards_eq_none nofun
  | forget name => exact Next.not_enters_of_guards_eq_none nofun
  | keptVerdicts => exact Next.not_enters_of_guards_eq_none nofun
  | listGroups => exact Next.not_enters_of_guards_eq_none fun _ => rfl
  | findGroup id => exact Next.not_enters_of_guards_eq_none fun _ => rfl
  | findByExternalId value => exact Next.not_enters_of_guards_eq_none fun _ => rfl
  | resolveId id => exact Next.not_enters_of_guards_eq_none fun _ => rfl
  | call r => exact Next.not_enters_of_guards_eq_none fun _ => rfl

/-- A job goes on to hold a gate only from where it holds the gate or awaits its turn. -/
theorem Job.gateAt?_of_enters_resume {brief : Brief} {now : Instant} {cache : VerdictCache}
    {j : Job} {p : j.Point} {answer : (j.awaits p).Answer} {gate : Gate}
    (h : (j.resume brief now cache p answer).1.Enters j.guards gate) : j.gateAt? p = some gate := by
  have reconciles : ∀ q : Reconcile.Point, .verdict (Fingerprint.key q.nodeClass) = gate →
      (Job.reconcile q.nodeClass).gateAt? q = some gate := by
    rintro q rfl
    cases q <;> rfl
  have creates : ∀ (r : NodeGroupRequest) (q : CreateGroup.Point), .create q.request.name = gate →
      (Job.createGroup r).gateAt? q = some gate := by
    rintro r q rfl
    cases q <;> rfl
  have deletes : ∀ (id : NodeGroupId) (q : DeleteGroup.Point), .delete q.group = gate →
      (Job.deleteGroup id).gateAt? q = some gate := by
    rintro id q rfl
    cases q <;> rfl
  cases j with
  | reconcile c => exact reconciles p (Reconcile.eq_of_enters_resume h)
  | createGroup r => exact creates r p (CreateGroup.eq_of_enters_resume h)
  | deleteGroup id => exact deletes id p (DeleteGroup.eq_of_enters_resume h)
  | deprovision id =>
    exact deletes id p (DeleteGroup.eq_of_enters_resume (Job.enters_of_asProvision h))
  | provision c r =>
    cases p with
    | reconciling r q =>
      exact reconciles q (Reconcile.eq_of_enters_resume
        (h.of_map (fun _ => rfl) fun _ => Provision.not_enters_afterReconcile))
    | creating plan q =>
      exact creates plan.request q (CreateGroup.eq_of_enters_resume
        (h.of_map (fun _ => rfl) fun _ => Provision.not_enters_afterCreate))
    | resolving plan group q => exact absurd h Provision.not_enters_resolving
  | peek c => cases p
  | forget name => cases p
  | keptVerdicts => cases p
  | listGroups => exact absurd h (Next.not_enters_of_guards_eq_none fun _ => rfl)
  | findGroup id => exact absurd h (Next.not_enters_of_guards_eq_none fun _ => rfl)
  | findByExternalId value => exact absurd h (Next.not_enters_of_guards_eq_none fun _ => rfl)
  | resolveId id => exact absurd h (Next.not_enters_of_guards_eq_none fun _ => rfl)
  | call r => exact absurd h (Next.not_enters_of_guards_eq_none fun _ => rfl)

/-- No job awaits its turn at a gate with a gate in its hands. -/
theorem Job.guards_eq_none_of_turn {j : Job} {p : j.Point} {gate : Gate}
    (h : j.awaits p = .turn gate) : j.guards p = none := by
  cases j with
  | reconcile c => cases p <;> first | rfl | cases h
  | createGroup r => cases p <;> first | rfl | cases h
  | deleteGroup id => cases p <;> first | rfl | cases h
  | deprovision id => cases p <;> first | rfl | cases h
  | provision c r =>
    cases p with
    | reconciling r q => cases q <;> first | rfl | cases h
    | creating plan q => cases q <;> first | rfl | cases h
    | resolving plan group q => rfl
  | peek c => cases p
  | forget name => cases p
  | keptVerdicts => cases p
  | listGroups => rfl
  | findGroup id => rfl
  | findByExternalId value => rfl
  | resolveId id => rfl
  | call r => rfl

end NodeSupply
