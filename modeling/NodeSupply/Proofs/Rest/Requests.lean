import NodeSupply.Proofs.Rest.Mention

/-!
# What a client asks for

A call sends a request of its own method when it starts: to make something if it makes a node
group, to delete if it deletes one, and to read otherwise.  All that follow in the course of a call
read.  A call for the node groups gathers those of each page that arrives.

## Main definitions

* `Request.method` : the method of the request that a call starts with.
* `Rest.sent`, `Rest.Keeps` : the requests of a method, and how a client goes on that sends none.
* `Rest.Stage.groups`, `Rest.Stage.arrived?` : what a call has gathered, and what has arrived.
* `Rest.gathered?` : what a call has gathered after a look at it.

## Main statements

* `Rest.keeps_start`, `Rest.keeps_look`, `Rest.keeps_abandon` : what sends none of a method.
* `Rest.gathers_of_look` : what a call for the groups has after a look at it.
-/

namespace NodeSupply

/-- The state that a look at something under way leaves, which is the given one if it waits. -/
def Progress.state {σ ω α : Type} (s : σ) : Progress σ ω α → σ
  | waiting => s
  | moved _ state => state
  | finished _ state => state

/-- The method of the request that a call starts with. -/
def Request.method : Request → HttpMethod
  | createNodeGroup _ => .post
  | deleteNodeGroup _ => .delete
  | _ => .get

namespace Rest

/-- The requests so far of a method, latest first. -/
def sent (s : Rest) (method : HttpMethod) : List HttpRequest :=
  s.service.requests.filter (·.method = method)

/-- The client stays, and sends no request of a method. -/
def Keeps (method : HttpMethod) (s s' : Rest) : Prop :=
  s'.client = s.client ∧ s'.sent method = s.sent method

theorem Keeps.refl (method : HttpMethod) (s : Rest) : Keeps method s s := ⟨rfl, rfl⟩

theorem Keeps.trans {method : HttpMethod} {s s' s'' : Rest} (first : Keeps method s s')
    (second : Keeps method s' s'') : Keeps method s s'' :=
  ⟨second.1.trans first.1, second.2.trans first.2⟩

/-! ### Requests -/

theorem client_send (s : Rest) (now : Instant) (method : HttpMethod) (address : String)
    (query : List (String × String)) (body : Option Json) :
    (s.send now method address query body).2.client = s.client := by
  unfold send
  split
  next => rfl
  next => split <;> rfl

theorem keeps_send (s : Rest) (now : Instant) {method method' : HttpMethod}
    (other : method ≠ method') (address : String) (query : List (String × String))
    (body : Option Json) : Keeps method' s (s.send now method address query body).2 := by
  refine ⟨client_send .., ?_⟩
  unfold send
  split
  next => rfl
  next => split <;> simp [sent, WebService.send, other]

/-- A call sends at most a request of its own method when it starts. -/
theorem keeps_start (s : Rest) (now : Instant) {r : Request} {method : HttpMethod}
    (other : r.method ≠ method) : Keeps method s (s.start now r).2 := by
  cases r with
  | clusterNetwork => exact .refl method s
  | nodeGroups => exact .refl method s
  | _ =>
    simp only [start, await]
    exact keeps_send s now other ..

theorem client_start (s : Rest) (now : Instant) (r : Request) :
    (s.start now r).2.client = s.client := by
  cases r with
  | clusterNetwork => rfl
  | nodeGroups => rfl
  | _ =>
    simp only [start, await]
    exact client_send ..

/-! ### Looks -/

variable {method : HttpMethod}

theorem keeps_afterInfo (reads : .get ≠ method) (s : Rest) (now : Instant) (info : ClusterInfo)
    {r : Request} (use : ClusterUse r) : Keeps method s ((s.afterInfo now info use).state s) := by
  cases use with
  | network => exact .refl method s
  | folder =>
    exact keeps_send s now reads s.client.groupsAddress (s.client.groupsPage info.folder "").query
      none

/-- In the course of a call only requests to read are sent. -/
theorem keeps_look (reads : .get ≠ method) (s : Rest) (now : Instant) {r : Request}
    (stage : Stage r) : Keeps method s ((s.look now r stage).state s) := by
  -- What is known about the cluster and who waits for it have nothing to do with requests.
  have told : ∀ (info : Option ClusterInfo) (line : FairLock Nat) (info' : ClusterInfo)
      (use : ClusterUse r),
      Keeps method s (({ s with info, line }.afterInfo now info' use).state s) :=
    fun info line info' use => by
      have h := keeps_afterInfo reads { s with info, line } now info' use
      cases use <;> exact h
  cases stage with
  | queued use number =>
    rw [look]
    split
    next info hinfo => exact told s.info (s.line.leave number) info use
    next =>
      split
      next => exact keeps_send s now reads s.client.clusterAddress [] none
      next => exact .refl method s
  | describing use number x =>
    rw [look]
    split
    next => exact .refl method s
    next =>
      dsimp only
      split
      next => exact ⟨rfl, rfl⟩
      next info _ => exact told (some info) (s.line.leave number) info use
  | reading x earlier =>
    rw [look]
    split
    next => exact .refl method s
    next =>
      split
      next => exact .refl method s
      next page earlier _ => exact keeps_send s now reads page.address page.query none

theorem keeps_abandon (s : Rest) {r : Request} (stage : Stage r) :
    Keeps method s (s.abandon stage) := by
  cases stage <;> exact ⟨rfl, rfl⟩

/-! ### Calls for the node groups -/

/-- Who is first in the line asks about the cluster. -/
theorem look_queued {s : Rest} {now : Instant} {number : Nat} (unknown : s.info = none)
    (first : s.line.isHeldBy number = true) {x : Exchange} {s' : Rest}
    (asks : s.send now .get s.client.clusterAddress [] none = (x, s')) :
    s.look now .nodeGroups (.queued .folder number) = .moved (.describing .folder number x) s' := by
  rw [look]
  simp [unknown, first, asks]

/-- Who knows about the cluster asks for the first page. -/
theorem look_describing {s : Rest} {now : Instant} {number : Nat} {x x' : Exchange}
    (due : x.due ≤ now) {info : ClusterInfo} {s' : Rest}
    (tells : readDocument "cluster" s.client.cluster ClusterInfo.ofJson? x.outcome = .ok info)
    (asks : { s with line := s.line.leave number, info := some info }.askPage now
      (s.client.groupsPage info.folder "") = (x', s')) :
    s.look now .nodeGroups (.describing .folder number x) =
      .moved (.reading x' (info.folder, [])) s' := by
  rw [look, if_neg (Nat.not_lt.2 due)]
  simp [tells, afterInfo, asks, await]

/-- The groups that a call for the node groups has gathered. -/
def Stage.groups : Stage .nodeGroups → List NodeGroup
  | .reading _ (_, groups) => groups
  | .queued .. => []
  | .describing .. => []

/-- What has arrived by some time of the page that a call for the node groups asks for. -/
def Stage.arrived? (now : Instant) : Stage .nodeGroups → Option (Except ProviderError Delivery)
  | .reading x _ => if now < x.due then none else some x.outcome
  | .queued .. => none
  | .describing .. => none

/-- What a call for the node groups has gathered after a step: what it had, and the groups of the
page if one has arrived. -/
def Gathers (home : String) (now : Instant) (stage : Stage .nodeGroups)
    (groups : List NodeGroup) : Prop :=
  stage.arrived? now = none ∧ groups = stage.groups ∨
    ∃ x folder documents token, stage.arrived? now = some x ∧
      readDocument "node groups" folder GroupDocument.page? x = .ok (documents, token) ∧
      groups = stage.groups ++ GroupDocument.managedGroups home documents

theorem Gathers.named {home name : String} {now : Instant} {stage : Stage .nodeGroups}
    {groups : List NodeGroup} (gathers : Gathers home now stage groups)
    (h : Named home name stage.groups ∨ ∃ x, stage.arrived? now = some x ∧ Mentions home name x) :
    Named home name groups := by
  rcases gathers with ⟨hnone, rfl⟩ | ⟨x, folder, documents, token, hx, hread, rfl⟩
  · rcases h with h | ⟨x, hx, -⟩
    · exact h
    · cases hnone.symm.trans hx
  · rcases h with ⟨g, hg, hnamed⟩ | ⟨x', hx', hmentions⟩
    · exact ⟨g, List.mem_append_left _ hg, hnamed⟩
    · cases hx.symm.trans hx'
      obtain ⟨g, hg, hnamed⟩ := hmentions.named hread
      exact ⟨g, List.mem_append_right _ hg, hnamed⟩

/-- The groups that an answer comes to with those before it, unless it ends in a failure. -/
def Next.groups? : Next .nodeGroups → Option (List NodeGroup)
  | .page _ (_, groups) => some groups
  | .finished (.ok groups) => some groups
  | .finished (.error _) => none

/-- The groups that a look at a call comes to, unless it waits or ends in a failure. -/
def gathered? : Progress Rest (Stage .nodeGroups) Request.nodeGroups.Outcome →
    Option (List NodeGroup)
  | .waiting => none
  | .moved stage _ => some stage.groups
  | .finished (.ok groups) _ => some groups
  | .finished (.error _) _ => none

/-- A page that is read either ends the call or leads on to the next one, and its groups count. -/
theorem gathers_of_readAnswer {c : RestClient} {now : Instant} {x : Exchange}
    (due : ¬ now < x.due) {earlier : String × List NodeGroup} {groups : List NodeGroup}
    (h : (readAnswer c .nodeGroups earlier x.outcome).groups? = some groups) :
    Gathers c.cluster now (.reading x earlier) groups := by
  obtain ⟨folder, sofar⟩ := earlier
  simp only [readAnswer] at h
  split at h
  next => cases h
  next documents token hread =>
    refine .inr ⟨x.outcome, folder, documents, token, if_neg due, hread, ?_⟩
    unfold turnPage at h
    split at h
    next =>
      cases h
      rfl
    next =>
      cases h
      rfl

/-- However a look at a call ends, the groups of the page that has arrived count. -/
theorem gathers_of_look {s : Rest} {now : Instant} {stage : Stage .nodeGroups}
    {groups : List NodeGroup} (h : gathered? (s.look now .nodeGroups stage) = some groups) :
    Gathers s.client.cluster now stage groups := by
  cases stage with
  | queued use number =>
    cases use
    rw [look] at h
    split at h
    next =>
      cases h
      exact .inl ⟨rfl, rfl⟩
    next =>
      split at h <;> cases h
      exact .inl ⟨rfl, rfl⟩
  | describing use number x =>
    cases use
    rw [look] at h
    split at h
    next => cases h
    next =>
      simp only at h
      split at h <;> cases h
      exact .inl ⟨rfl, rfl⟩
  | reading x earlier =>
    rw [look] at h
    split at h
    next => cases h
    next due =>
      refine gathers_of_readAnswer due (Eq.trans ?_ h)
      split
      next outcome hnext =>
        rw [hnext]
        cases outcome <;> rfl
      next next earlier' hnext =>
        rw [hnext]
        rfl

end Rest

end NodeSupply
