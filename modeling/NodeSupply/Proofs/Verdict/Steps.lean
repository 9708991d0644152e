import Mathlib.Data.List.Basic
import NodeSupply.Proofs.Verdict.Checks

/-!
# The steps of the checks

What the checks of a class go through is fixed by the class: a list of tests and calls in order.
They end at the first step that fails.  Here each call may be answered in any way, and the same call
in another way each time, so that nothing is taken for granted of the provider.

## Main definitions

* `Checks.Replies` : what is answered to the calls, one after the other.
* `Checks.course` : the calls that the checks make, and what they come to.
* `Checks.Step`, `Checks.steps` : what the checks of a class go through.
* `Checks.Step.failure?` : how a step fails.
* `Checks.reached` : the steps up to the first that fails.

## Main statements

* `Checks.filterMap_request?_steps` : the calls among the steps.
* `Checks.course_begin` : the checks go through their steps up to the first that fails.
* `Checks.result_of_reply_error`, `Checks.exists_reply_of_result_error` : what comes of a call that
  fails.
-/

namespace NodeSupply.Checks

/-! ### Courses -/

/-- What is answered to the calls of one run, by their turn: the first, the second and so on,
whatever each asks for.  A call that took too long counts as answered with that failure. -/
abbrev Replies := Nat → Answers

/-- How the checks go. -/
structure Course where
  /-- The calls that are made, in order. -/
  calls : List Request
  /-- What the checks come to. -/
  result : Except ProviderError Verdict

/-- A course with some calls ahead. -/
def Course.after (ahead : List Request) (rest : Course) : Course :=
  { rest with calls := ahead ++ rest.calls }

/-- How the checks go from some point on, if the next call is the one of some turn. -/
def course (c : NodeClass) (replies : Replies) (turn : Nat) : Next → Course
  | .verdict v => ⟨[], .ok v⟩
  | .ask stage =>
    match _h : resume c stage (replies turn stage.request) with
    | .error e => ⟨[stage.request], .error e⟩
    | .ok next => (course c replies (turn + 1) next).after [stage.request]
termination_by next => next.left c
decreasing_by exact left_lt_of_resume _h

/-! ### Steps -/

/-- The network that was answered at a turn.  If none was, the checks ended there. -/
def Replies.network (replies : Replies) (turn : Nat) : NetworkId :=
  (replies turn .clusterNetwork).toOption.getD ""

/-- How the call of a turn fails, or the rule that its answer breaks. -/
def Replies.failure? (replies : Replies) (turn : Nat) (r : Request)
    (rule : r.Reply → Option Violation) : Option Failure :=
  match replies turn r with
  | .error e => some (.ofError r e)
  | .ok reply => (rule reply).map .broken

/-- A step of the checks: a test, or a call.  A call knows its turn, and that for a subnet or a
security group also the turn of the call for the network that the answer is held against. -/
inductive Step where
  /-- The rule about the boot disk. -/
  | disk
  /-- That some subnet is listed. -/
  | listed
  /-- The network of the cluster. -/
  | network (turn : Nat)
  /-- That an entry for a subnet has an id. -/
  | named (s : ResolvedSubnet)
  /-- A subnet. -/
  | subnet (asked turn : Nat) (s : ResolvedSubnet)
  /-- A security group. -/
  | group (asked turn : Nat) (id : SecurityGroupId)
  /-- The rule about accelerated networking. -/
  | acceleratedNetwork

namespace Step

/-- The call of a step. -/
def request? : Step → Option Request
  | disk | listed | named _ | acceleratedNetwork => none
  | network _ => some .clusterNetwork
  | subnet _ _ s => some (.subnet s.id)
  | group _ _ id => some (.securityGroup id)

/-- How a step fails, if it does. -/
def failure? (c : NodeClass) (replies : Replies) : Step → Option Failure
  | disk => (Checks.disk c.diskType c.diskSizeBytes).map .broken
  | listed => if c.subnets = [] then some (.broken .noSubnets) else none
  | network turn => replies.failure? turn .clusterNetwork fun _ => none
  | named s => if s.id = "" then some (.broken .emptySubnetId) else none
  | subnet asked turn s =>
    replies.failure? turn (.subnet s.id) (subnetRule (replies.network asked) s)
  | group asked turn id =>
    replies.failure? turn (.securityGroup id) (groupRule (replies.network asked) id)
  | acceleratedNetwork => (Checks.acceleratedNetwork c).map .broken

end Step

/-- The entries without those for a subnet that an earlier one is for. -/
def firstEntries (subnets : List ResolvedSubnet) : List ResolvedSubnet :=
  subnets.eraseDupsBy fun later earlier => later.id == earlier.id

/-- The steps for some subnets, the first of them looked up at some turn. -/
def subnetSteps (asked turn : Nat) (subnets : List ResolvedSubnet) : List Step :=
  (subnets.zipIdx turn).flatMap fun (s, turn) => [.named s, .subnet asked turn s]

/-- The steps for some security groups, the first of them looked up at some turn. -/
def groupSteps (asked turn : Nat) (ids : List SecurityGroupId) : List Step :=
  (ids.zipIdx turn).map fun (id, turn) => .group asked turn id

/-- The steps after the subnets, with calls from some turn on. -/
def laterSteps (c : NodeClass) (turn : Nat) : List Step :=
  (if c.securityGroups = [] then []
    else .network turn :: groupSteps turn (turn + 1) c.securityGroups) ++ [.acceleratedNetwork]

/-- What the checks of a class go through. -/
def steps (c : NodeClass) : List Step :=
  .disk :: .listed :: .network 0 :: (subnetSteps 0 1 (firstEntries c.subnets) ++
    laterSteps c ((firstEntries c.subnets).length + 1))

/-- The steps up to the first that fails, and that one. -/
def reached (c : NodeClass) (replies : Replies) : List Step → List Step
  | [] => []
  | x :: rest => if (x.failure? c replies).isSome then [x] else x :: reached c replies rest

/-- How checks go that go through some steps up to the first that fails. -/
def courseOf (c : NodeClass) (replies : Replies) (steps : List Step) : Course where
  calls := (reached c replies steps).filterMap Step.request?
  result := (steps.findSome? (Step.failure? c replies)).elim (.ok .success) Failure.result

/-! ### The calls among the steps -/

theorem firstEntries_cons (s : ResolvedSubnet) (rest : List ResolvedSubnet) :
    firstEntries (s :: rest) = s :: firstEntries (rest.filter fun other => other.id != s.id) := by
  unfold firstEntries
  rw [List.eraseDupsBy_cons]
  congr 2
  refine List.filter_congr fun other _ => ?_
  cases h : other.id == s.id <;> simp [bne, h]

/-- The entries that are gone through are for the listed subnets, each once. -/
theorem map_id_firstEntries (subnets : List ResolvedSubnet) :
    (firstEntries subnets).map (·.id) = (subnets.map (·.id)).eraseDups := by
  -- what stays after the first entry is a filtered tail, hence the induction on the length
  induction h : subnets.length using Nat.strongRecOn generalizing subnets with
  | ind n ih =>
    cases subnets with
    | nil => rfl
    | cons s rest =>
      have hfilter : (rest.map (·.id)).filter (fun id => !id == s.id) =
          (rest.filter fun other => other.id != s.id).map (·.id) := List.filter_map
      have hshort : (rest.filter fun other => other.id != s.id).length < n := by
        have hle := List.length_filter_le (fun other => other.id != s.id) rest
        rw [List.length_cons] at h
        omega
      rw [firstEntries_cons, List.map_cons, List.map_cons, List.eraseDups_cons, hfilter,
        ih _ hshort _ rfl]

theorem subnetSteps_cons (asked turn : Nat) (s : ResolvedSubnet) (rest : List ResolvedSubnet) :
    subnetSteps asked turn (s :: rest) =
      .named s :: .subnet asked turn s :: subnetSteps asked (turn + 1) rest := rfl

theorem groupSteps_cons (asked turn : Nat) (id : SecurityGroupId) (rest : List SecurityGroupId) :
    groupSteps asked turn (id :: rest) =
      .group asked turn id :: groupSteps asked (turn + 1) rest := rfl

theorem filterMap_request?_subnetSteps (asked turn : Nat) (subnets : List ResolvedSubnet) :
    (subnetSteps asked turn subnets).filterMap Step.request? =
      subnets.map fun s => .subnet s.id := by
  induction subnets generalizing turn with
  | nil => rfl
  | cons s rest ih =>
    rw [subnetSteps_cons, List.map_cons, ← ih (turn + 1)]
    rfl

theorem filterMap_request?_groupSteps (asked turn : Nat) (ids : List SecurityGroupId) :
    (groupSteps asked turn ids).filterMap Step.request? = ids.map .securityGroup := by
  induction ids generalizing turn with
  | nil => rfl
  | cons id rest ih =>
    rw [groupSteps_cons, List.map_cons, ← ih (turn + 1)]
    rfl

/-- The calls among the steps: for the network, for each listed subnet once, and if security groups
are listed, for the network again and for each of them. -/
theorem filterMap_request?_steps (c : NodeClass) : (steps c).filterMap Step.request? =
    .clusterNetwork :: ((c.subnets.map (·.id)).eraseDups.map .subnet ++
      if c.securityGroups = [] then []
      else .clusterNetwork :: c.securityGroups.map .securityGroup) := by
  have hsubnets : (firstEntries c.subnets).map (fun s => Request.subnet s.id) =
      (c.subnets.map (·.id)).eraseDups.map .subnet := by
    rw [← map_id_firstEntries, List.map_map]
    rfl
  have hlater (turn : Nat) : (laterSteps c turn).filterMap Step.request? =
      if c.securityGroups = [] then []
      else .clusterNetwork :: c.securityGroups.map .securityGroup := by
    unfold laterSteps
    split
    next => rfl
    next =>
      have hgroups := filterMap_request?_groupSteps turn (turn + 1) c.securityGroups
      rw [← hgroups, List.cons_append, List.filterMap_cons, List.filterMap_append]
      exact congrArg _ (List.append_nil _)
  rw [← hlater, ← hsubnets, ← filterMap_request?_subnetSteps 0 1, ← List.filterMap_append]
  rfl

/-! ### One step -/

variable {c : NodeClass} {replies : Replies}

/-- A step that fails is the last. -/
theorem courseOf_cons_of_failure {x : Step} {rest : List Step} {f : Failure}
    (h : x.failure? c replies = some f) :
    courseOf c replies (x :: rest) = ⟨x.request?.toList, f.result⟩ := by
  unfold courseOf
  rw [reached, h, List.findSome?_cons, h]
  cases hrequest : x.request? <;> simp [hrequest]

/-- After a step that does not fail the next one follows. -/
theorem courseOf_cons_of_none {x : Step} {rest : List Step} (h : x.failure? c replies = none) :
    courseOf c replies (x :: rest) = (courseOf c replies rest).after x.request?.toList := by
  unfold courseOf Course.after
  rw [reached, h, List.findSome?_cons, h]
  cases hrequest : x.request? <;> simp [hrequest]

theorem course_ask (turn : Nat) (stage : Stage) : course c replies turn (.ask stage) =
    match resume c stage (replies turn stage.request) with
    | .error e => ⟨[stage.request], .error e⟩
    | .ok next => (course c replies (turn + 1) next).after [stage.request] := by
  rw [course]
  split
  next e h => simp [h]
  next next h => simp [h]

theorem course_verdict (turn : Nat) (v : Verdict) :
    course c replies turn (.verdict v) = ⟨[], .ok v⟩ := by
  rw [course]

/-- A call that fails is the last. -/
theorem course_of_reply_error {turn : Nat} {stage : Stage} {e : ProviderError}
    (reply : replies turn stage.request = .error e) : course c replies turn (.ask stage) =
      ⟨[stage.request], (Failure.ofError stage.request e).result⟩ := by
  rw [course_ask, reply, resume_error]
  cases (Failure.ofError stage.request e).result with
  | error e => rfl
  | ok v => simp only [Except.map, course_verdict, Course.after, List.append_nil]

/-- A call that the checks wait for is the next step, with the rule about its answer, if the checks
go through the further steps from there. -/
theorem course_ask_eq_courseOf {turn : Nat} {stage : Stage} {x : Step} {rest : List Step}
    (request : x.request? = some stage.request)
    (failure : x.failure? c replies = replies.failure? turn stage.request stage.rule)
    (onward : ∀ reply, replies turn stage.request = .ok reply →
      course c replies (turn + 1) (stage.onward c reply) = courseOf c replies rest) :
    course c replies turn (.ask stage) = courseOf c replies (x :: rest) := by
  have htoList : x.request?.toList = [stage.request] := by
    rw [request]
    rfl
  cases hreply : replies turn stage.request with
  | error e =>
    have hfailure : x.failure? c replies = some (.ofError stage.request e) := by
      rw [failure, Replies.failure?, hreply]
    rw [course_of_reply_error hreply, courseOf_cons_of_failure hfailure, htoList]
  | ok reply =>
    have hfailure : x.failure? c replies = (stage.rule reply).map .broken := by
      rw [failure, Replies.failure?, hreply]
    rw [course_ask, hreply, resume_ok]
    cases hrule : stage.rule reply with
    | some v =>
      rw [hrule] at hfailure
      rw [courseOf_cons_of_failure hfailure, htoList]
      simp only [Option.elim, Next.broken, course_verdict, Course.after, List.append_nil]
      rfl
    | none =>
      rw [hrule] at hfailure
      rw [courseOf_cons_of_none hfailure, htoList, ← onward reply hreply]
      rfl

/-! ### All steps -/

theorem network_of_reply {turn : Nat} {network : NetworkId}
    (h : replies turn .clusterNetwork = .ok network) : replies.network turn = network := by
  rw [Replies.network, h]
  rfl

theorem course_conclude (turn : Nat) : course c replies turn (.conclude (acceleratedNetwork c)) =
    courseOf c replies [.acceleratedNetwork] := by
  rw [Next.conclude, course_verdict]
  cases h : acceleratedNetwork c with
  | none =>
    have hkept : Step.acceleratedNetwork.failure? c replies = none := by
      rw [Step.failure?, h]
      rfl
    rw [courseOf_cons_of_none hkept]
    rfl
  | some v =>
    have hfailure : Step.acceleratedNetwork.failure? c replies = some (.broken v) := by
      rw [Step.failure?, h]
      rfl
    rw [courseOf_cons_of_failure hfailure]
    rfl

theorem course_walkGroups (asked turn : Nat) (ids : List SecurityGroupId) :
    course c replies turn (walkGroups c (replies.network asked) ids) =
      courseOf c replies (groupSteps asked turn ids ++ [.acceleratedNetwork]) := by
  induction ids generalizing turn with
  | nil => exact course_conclude turn
  | cons id rest ih =>
    rw [walkGroups, groupSteps_cons, List.cons_append]
    exact course_ask_eq_courseOf rfl rfl fun _ _ => ih (turn + 1)

theorem course_afterSubnets (turn : Nat) :
    course c replies turn (afterSubnets c) = courseOf c replies (laterSteps c turn) := by
  unfold afterSubnets laterSteps
  by_cases h : c.securityGroups = []
  · rw [if_pos h, if_pos (List.isEmpty_iff.2 h), List.nil_append]
    exact course_conclude turn
  · rw [if_neg h, if_neg (fun hempty => h (List.isEmpty_iff.1 hempty)), List.cons_append]
    refine course_ask_eq_courseOf rfl rfl fun network hnetwork => ?_
    rw [← network_of_reply hnetwork]
    exact course_walkGroups turn (turn + 1) c.securityGroups

/-- The walk over the subnets goes through the first of the entries for each subnet that was not
looked up. -/
theorem course_walkSubnets (asked turn : Nat) (seen : List SubnetId) (named : "" ∉ seen)
    (subnets : List ResolvedSubnet) :
    course c replies turn (walkSubnets c (replies.network asked) seen subnets) =
      courseOf c replies
        (subnetSteps asked turn (firstEntries (subnets.filter fun s => !seen.contains s.id)) ++
          laterSteps c
            (turn + (firstEntries (subnets.filter fun s => !seen.contains s.id)).length)) := by
  induction subnets generalizing turn seen with
  | nil => exact course_afterSubnets turn
  | cons s rest ih =>
    rw [walkSubnets]
    by_cases hseen : s.id ∈ seen
    · have hid : s.id ≠ "" := fun h => named (h ▸ hseen)
      rw [if_neg hid, if_pos (by simpa using hseen), List.filter_cons_of_neg (by simpa using hseen)]
      exact ih turn seen named
    · have hfilter : (rest.filter fun other => !seen.contains other.id).filter
          (fun other => other.id != s.id) =
            rest.filter fun other => !(s.id :: seen).contains other.id := by
        rw [List.filter_filter]
        refine List.filter_congr fun other _ => ?_
        rw [List.contains_cons, Bool.not_or]
        rfl
      rw [List.filter_cons_of_pos (by simpa using hseen), firstEntries_cons, hfilter,
        subnetSteps_cons, List.cons_append, List.cons_append]
      -- the empty id is never among the seen: the checks end at the first entry that has it
      by_cases hid : s.id = ""
      · have hfailure : (Step.named s).failure? c replies = some (.broken .emptySubnetId) :=
          if_pos hid
        rw [if_pos hid, courseOf_cons_of_failure hfailure]
        exact course_verdict turn _
      · have hnone : (Step.named s).failure? c replies = none := if_neg hid
        rw [if_neg hid, if_neg (by simpa using hseen), courseOf_cons_of_none hnone]
        refine course_ask_eq_courseOf rfl rfl fun _ _ => ?_
        have hnamed : "" ∉ s.id :: seen :=
          List.not_mem_cons_of_ne_of_not_mem (Ne.symm hid) named
        rw [List.length_cons, ← Nat.add_assoc, Nat.add_right_comm]
        exact ih (turn + 1) (s.id :: seen) hnamed

/-- The checks go through their steps up to the first that fails, whatever is answered. -/
theorem course_begin (c : NodeClass) (replies : Replies) :
    course c replies 0 (begin c) = courseOf c replies (steps c) := by
  unfold begin steps
  cases hdisk : disk c.diskType c.diskSizeBytes with
  | some v =>
    have hfailure : Step.disk.failure? c replies = some (.broken v) := by
      rw [Step.failure?, hdisk]
      rfl
    rw [courseOf_cons_of_failure hfailure]
    exact course_verdict 0 _
  | none =>
    have hkept : Step.disk.failure? c replies = none := by
      rw [Step.failure?, hdisk]
      rfl
    rw [courseOf_cons_of_none hkept]
    by_cases hsubnets : c.subnets = []
    · have hfailure : Step.listed.failure? c replies = some (.broken .noSubnets) :=
        if_pos hsubnets
      rw [courseOf_cons_of_failure hfailure, if_pos (List.isEmpty_iff.2 hsubnets)]
      exact course_verdict 0 _
    · have hlisted : Step.listed.failure? c replies = none := if_neg hsubnets
      rw [courseOf_cons_of_none hlisted,
        if_neg (fun hempty => hsubnets (List.isEmpty_iff.1 hempty))]
      refine course_ask_eq_courseOf rfl rfl fun network hnetwork => ?_
      have hall : c.subnets.filter (fun s => !([] : List SubnetId).contains s.id) = c.subnets :=
        List.filter_eq_self.2 fun _ _ => rfl
      have hwalk : course c replies 1 (walkSubnets c (replies.network 0) [] c.subnets) = _ :=
        course_walkSubnets 0 1 [] List.not_mem_nil c.subnets
      rw [hall, network_of_reply hnetwork, Nat.add_comm 1] at hwalk
      exact hwalk

/-! ### Calls that fail -/

/-- A call that fails is the last, and decides what the checks come to. -/
theorem result_of_reply_error {turn i : Nat} {next : Next} {r : Request} {e : ProviderError}
    (call : (course c replies turn next).calls[i]? = some r)
    (reply : replies (turn + i) r = .error e) :
    (course c replies turn next).calls.length = i + 1 ∧
      (course c replies turn next).result = (Failure.ofError r e).result := by
  induction i generalizing turn next with
  | zero =>
    cases next with
    | verdict v =>
      rw [course_verdict] at call
      cases call
    | ask stage =>
      have hfirst : stage.request = r := by
        rw [course_ask] at call
        split at call <;> exact Option.some.inj call
      subst hfirst
      rw [Nat.add_zero] at reply
      rw [course_of_reply_error reply]
      exact ⟨rfl, rfl⟩
  | succ i ih =>
    cases next with
    | verdict v =>
      rw [course_verdict] at call
      cases call
    | ask stage =>
      rw [course_ask] at call ⊢
      cases hresume : resume c stage (replies turn stage.request) with
      | error e' =>
        rw [hresume] at call
        cases call
      | ok next =>
        rw [hresume] at call
        have hturn : turn + (i + 1) = turn + 1 + i := by omega
        rw [hturn] at reply
        obtain ⟨hlength, hresult⟩ := ih call reply
        exact ⟨congrArg Nat.succ hlength, hresult⟩

/-- The checks end without a verdict only if a call fails. -/
theorem exists_reply_of_result_error {turn : Nat} {next : Next} {e : ProviderError}
    (failed : (course c replies turn next).result = .error e) :
    ∃ i r, (course c replies turn next).calls[i]? = some r ∧ replies (turn + i) r = .error e := by
  fun_induction course c replies turn next with
  | case1 turn v => cases failed
  | case2 turn stage e' h =>
    cases failed
    refine ⟨0, stage.request, rfl, ?_⟩
    cases hreply : replies turn stage.request with
    | error e' =>
      rw [hreply, resume_error] at h
      cases hresult : (Failure.ofError stage.request e').result with
      | error e'' =>
        rw [hresult] at h
        cases h
        rw [Failure.eq_of_result_ofError hresult]
      | ok v =>
        rw [hresult] at h
        cases h
    | ok reply =>
      rw [hreply, resume_ok] at h
      cases h
  | case3 turn stage next h ih =>
    obtain ⟨i, r, hcall, hreply⟩ := ih failed
    refine ⟨i + 1, r, hcall, ?_⟩
    rw [← hreply]
    congr 1
    omega

end NodeSupply.Checks
