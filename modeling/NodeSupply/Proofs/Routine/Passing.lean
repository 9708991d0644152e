import NodeSupply.Proofs.Routine.Reconcile
import NodeSupply.Proofs.Verdict.Checks

/-!
# What a passing verdict says

The provider may answer each call as it likes, and differently each time.  Still the checks come to
a passing verdict for well-formed classes only: the rules that need no call are tested in between,
and what was found of a class is not lost while a call is waited for.

## Main definitions

* `Checks.Tested` : what has been found of a class while some subnets are left.
* `Checks.Next.Sound` : what is known of a class wherever the checks stand.
* `Reconcile.Point.Sound` : the same wherever a reconciliation stands.

## Main statements

* `Checks.sound_begin`, `Checks.sound_resume` : the checks go on from what is known.
* `Reconcile.wellFormed_of_finds` : a passing verdict is found out for well-formed classes only.
-/

namespace NodeSupply

namespace Checks

variable {c : NodeClass}

/-- The disk of a class is in order, and no subnet but those that are left has an empty id. -/
structure Tested (c : NodeClass) (left : List ResolvedSubnet) : Prop where
  disk : disk c.diskType c.diskSizeBytes = none
  subnets : c.subnets ≠ []
  ids : ∀ s ∈ c.subnets, s.id = "" → s ∈ left

/-- The subnets that are left where a call is waited for. -/
def Stage.left (c : NodeClass) : Stage → List ResolvedSubnet
  | subnetNetwork => c.subnets
  | subnet _ _ _ rest => rest
  | groupNetwork => []
  | group .. => []

/-- What is known of a class where the checks stand. -/
def Next.Sound (c : NodeClass) : Next → Prop
  | .ask stage => Tested c (stage.left c)
  | .verdict v => v.passed = true → WellFormed c

theorem sound_broken (v : Violation) : (Next.broken v).Sound c := fun h => by
  rw [Violation.passed_verdict] at h
  cases h

theorem sound_conclude (tested : Tested c []) : (Next.conclude (acceleratedNetwork c)).Sound c := by
  cases h : acceleratedNetwork c with
  | some v => exact sound_broken v
  | none =>
    exact fun _ =>
      { disk := tested.disk
        subnets := tested.subnets
        ids := fun s hs hid => absurd (tested.ids s hs hid) List.not_mem_nil
        acceleratedNetwork := h }

theorem sound_walkGroups (tested : Tested c []) (network : NetworkId) (ids : List SecurityGroupId) :
    (walkGroups c network ids).Sound c := by
  cases ids with
  | nil => exact sound_conclude tested
  | cons id ids => exact tested

theorem sound_afterSubnets (tested : Tested c []) : (afterSubnets c).Sound c := by
  unfold afterSubnets
  split
  next => exact sound_conclude tested
  next => exact tested

theorem sound_walkSubnets {subnets : List ResolvedSubnet} (tested : Tested c subnets)
    (network : NetworkId) (seen : List SubnetId) :
    (walkSubnets c network seen subnets).Sound c := by
  induction subnets with
  | nil => exact sound_afterSubnets tested
  | cons s rest ih =>
    rw [walkSubnets]
    split
    next => exact sound_broken _
    next hid =>
      have hrest : Tested c rest := { tested with
        ids := fun t ht hempty => by
          rcases List.mem_cons.1 (tested.ids t ht hempty) with rfl | hmem
          · exact absurd hempty hid
          · exact hmem }
      split
      next => exact ih hrest
      next => exact hrest

theorem sound_begin (c : NodeClass) : (begin c).Sound c := by
  unfold begin
  split
  next => exact sound_broken _
  next hdisk =>
    split
    next => exact sound_broken _
    next hsubnets => exact ⟨hdisk, by simpa using hsubnets, fun s hs _ => hs⟩

/-- Whatever is answered, the checks go on from what is known. -/
theorem sound_resume {stage : Stage} (sound : (Next.ask stage).Sound c)
    {answer : stage.request.Outcome} {next : Next} (h : resume c stage answer = .ok next) :
    next.Sound c := by
  rcases broken_or_onward_of_resume h with ⟨v, rfl⟩ | ⟨reply, -, -, rfl⟩
  · exact sound_broken v
  · cases stage with
    | subnetNetwork => exact sound_walkSubnets sound reply []
    | subnet network seen current rest => exact sound_walkSubnets sound network seen
    | groupNetwork => exact sound_walkGroups sound reply c.securityGroups
    | group network current rest => exact sound_walkGroups sound network rest

end Checks

namespace Reconcile

variable {s : Settings} {now : Instant} {cache : VerdictCache} {c : NodeClass}

/-- What is known of its class where a reconciliation stands. -/
def Point.Sound : Point → Prop
  | queued _ => True
  | checking c stage => (Checks.Next.ask stage).Sound c

theorem sound_of_start {p : Point} (next : start s c = .goOn p) : p.Sound := by
  unfold start at next
  split at next <;> cases next
  trivial

/-- Whatever is answered, a reconciliation goes on from what is known. -/
theorem sound_of_resume {p p' : Point} (sound : p.Sound) {answer : p.awaits.Answer}
    (next : (resume s now cache p answer).1 = .goOn p') : p'.Sound := by
  have proceeds : ∀ {cache : VerdictCache} {c : NodeClass} {checks : Checks.Next},
      checks.Sound c → (proceed s now cache c checks).1 = .goOn p' → p'.Sound := by
    intro cache c checks hsound h
    obtain ⟨stage, rfl, rfl⟩ := exists_stage_of_proceed h
    exact hsound
  cases p with
  | queued c =>
    obtain ⟨hnone, henabled, -⟩ := of_resume_queued_eq_goOn next
    rw [resume_of_unknown henabled hnone] at next
    exact proceeds (Checks.sound_begin c) next
  | checking c stage =>
    simp only [resume] at next
    split at next
    next hresume => exact proceeds (Checks.sound_resume sound hresume) next
    next => cases next

/-- With checks a passing verdict is found out for well-formed classes only. -/
theorem wellFormed_of_finds (enabled : s.checksDisabled = false) {p : Point} (sound : p.Sound)
    {answer : p.awaits.Answer} {v : Verdict} (finds : Finds s now cache p answer v)
    (passed : v.passed = true) : Checks.WellFormed p.nodeClass := by
  cases p with
  | queued c =>
    rcases finds.2 with ⟨hdisabled, -⟩ | ⟨-, hbegin⟩
    · cases enabled.symm.trans hdisabled
    · have hsound := Checks.sound_begin c
      rw [hbegin] at hsound
      exact hsound passed
  | checking c stage => exact Checks.sound_resume sound finds passed

end Reconcile

end NodeSupply
