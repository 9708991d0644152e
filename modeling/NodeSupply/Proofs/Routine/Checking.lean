import NodeSupply.Proofs.Routine.Reconcile
import NodeSupply.Proofs.Verdict.Steps

/-!
# The calls of a reconciliation

A reconciliation that checks a class makes the calls of the checks in their fixed order and ends at
the first step that fails, whatever the provider answers, however often it changes its mind, and
whatever verdicts are kept in the meantime.

## Main definitions

* `Reconcile.settled` : what the routine says when the checks are over.
* `Reconcile.Makes` : the calls that the routine makes from some point on, and what it comes to.

## Main statements

* `Reconcile.makes_proceed` : the routine makes the calls of the checks.
* `Reconcile.checks_in_order` : the calls of the checks, their order and their end.
-/

namespace NodeSupply.Reconcile

open Checks (Course Failure Replies Step)

variable {s : Settings} {replies : Replies} {c : NodeClass}

/-- What the routine says when the checks are over. -/
def settled (s : Settings) (c : NodeClass) (checked : Except ProviderError Verdict) : Result :=
  (checked.map (outcome s)).mapError fun e => ⟨c.name, e⟩

/-- The routine makes some calls from some point on and comes to a result, whenever its calls are
answered and whatever verdicts are kept by then; its next call is the one of some turn. -/
inductive Makes (s : Settings) (replies : Replies) :
    Nat → Next Point Result → List Request → Result → Prop where
  | done (turn : Nat) (result : Result) : Makes s replies turn (.done result) [] result
  | called {turn : Nat} {c : NodeClass} {stage : Checks.Stage} {calls : List Request}
      {result : Result}
      (makes : ∀ now cache, Makes s replies (turn + 1)
        (resume s now cache (.checking c stage) (replies turn stage.request)).1 calls result) :
      Makes s replies turn (.goOn (.checking c stage)) (stage.request :: calls) result

/-- What calls are made and what comes of them is settled by the answers. -/
theorem Makes.eq {turn : Nat} {next : Next Point Result} {calls calls' : List Request}
    {result result' : Result} (h : Makes s replies turn next calls result)
    (h' : Makes s replies turn next calls' result') : calls = calls' ∧ result = result' := by
  induction h generalizing calls' with
  | done turn result =>
    cases h'
    exact ⟨rfl, rfl⟩
  | called makes ih =>
    cases h' with
    | called makes' =>
      obtain ⟨rfl, rfl⟩ := ih 0 (.empty 0) (makes' 0 (.empty 0))
      exact ⟨rfl, rfl⟩

/-- The routine makes the calls of the checks and comes to what they come to. -/
theorem makes_proceed (turn : Nat) (now : Instant) (cache : VerdictCache) (next : Checks.Next) :
    Makes s replies turn (proceed s now cache c next).1 (Checks.course c replies turn next).calls
      (settled s c (Checks.course c replies turn next).result) := by
  fun_induction Checks.course c replies turn next generalizing now cache with
  | case1 turn v => exact .done _ _
  | case2 turn stage e h =>
    refine .called fun now cache => ?_
    simp only [resume, h]
    exact .done _ _
  | case3 turn stage next h ih =>
    refine .called fun now cache => ?_
    simp only [resume, h]
    exact ih now cache

/-- The checks make their calls in a fixed order: for the network, for each listed subnet once, and
if security groups are listed, for the network again and for each of them.  They end at the first
call or rule that fails, which decides what they come to: a call that fails is the last one, and
there is no verdict only if a call fails. -/
theorem checks_in_order (c : NodeClass) (replies : Replies) :
    (Checks.steps c).filterMap Step.request? =
      .clusterNetwork :: ((c.subnets.map (·.id)).eraseDups.map .subnet ++
        if c.securityGroups = [] then []
        else .clusterNetwork :: c.securityGroups.map .securityGroup) ∧
    ∃ calls checked,
      (∀ s now cache, Makes s replies 0 (proceed s now cache c (Checks.begin c)).1 calls
        (settled s c checked)) ∧
      calls = (Checks.reached c replies (Checks.steps c)).filterMap Step.request? ∧
      checked = ((Checks.steps c).findSome? (Step.failure? c replies)).elim (.ok .success)
        Failure.result ∧
      (∀ i r e, calls[i]? = some r → replies i r = .error e →
        calls.length = i + 1 ∧ checked = (Failure.ofError r e).result) ∧
      ∀ e, checked = .error e → ∃ i r, calls[i]? = some r ∧ replies i r = .error e := by
  refine ⟨Checks.filterMap_request?_steps c, _, _, fun s now cache => makes_proceed 0 now cache _,
    congrArg Course.calls (Checks.course_begin c replies),
    congrArg Course.result (Checks.course_begin c replies), fun i r e hcall hreply => ?_,
    fun e hchecked => ?_⟩
  · exact Checks.result_of_reply_error hcall (by rwa [Nat.zero_add])
  · obtain ⟨i, r, hcall, hreply⟩ := Checks.exists_reply_of_result_error hchecked
    exact ⟨i, r, hcall, by rwa [Nat.zero_add] at hreply⟩

/-- A class that lists one of two subnets twice, and a security group. -/
def twiceListed : NodeClass :=
  { NodeClass.named "class" with
    diskSizeBytes := .ofNat (4 * mebibyte)
    securityGroups := ["group"]
    subnets := [⟨"first", "zone", none⟩, ⟨"second", "zone", none⟩, ⟨"first", "zone", none⟩]
    subnetsReady := .true }

/-- A provider that takes too long for the second subnet. -/
def slowReplies : Replies
  | _, .clusterNetwork => .ok "network"
  | _, .subnet id =>
    if id = "second" then .error (.timedOut (Request.subnet id).title)
    else .ok ⟨id, "network", "zone"⟩
  | _, r => .error (.timedOut r.title)

/-- The checks look each subnet up once, and give up at the one that takes too long. -/
theorem checks_in_order_slow : ∀ s now cache,
    Makes s slowReplies 0 (proceed s now cache twiceListed (Checks.begin twiceListed)).1
      [.clusterNetwork, .subnet "first", .subnet "second"]
      (.error ⟨"class", .timedOut "get subnet"⟩) := by
  obtain ⟨-, calls, checked, hmakes, hcalls, hchecked, -⟩ :=
    checks_in_order twiceListed slowReplies
  have hcalls : calls = [.clusterNetwork, .subnet "first", .subnet "second"] :=
    hcalls.trans (by decide)
  have hchecked : checked = .error (.timedOut "get subnet") := hchecked.trans (by rfl)
  subst hcalls hchecked
  exact hmakes

end NodeSupply.Reconcile
