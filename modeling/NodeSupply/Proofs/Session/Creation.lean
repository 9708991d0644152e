import NodeSupply.Proofs.Rest.Listing
import NodeSupply.Proofs.Session.InMemory
import NodeSupply.Proofs.Session.Watch

/-!
# A group that is mentioned is not made again

The routine that makes a node group asks over the web for all groups first, page by page.  If one of
the pages mentions a group of the name, nothing is asked to be made: either a page does not read and
the routine fails, or the group is among those that were gathered and the routine finds it.

## Main definitions

* `Session.scripted` : the surroundings in which a service answers by any script.
* `Session.ReadsPage` : a task reads what has arrived.
* `CreateGroup.Heeds` : what is known of pages and requests where the routine stands.
* `Session.mentionWatch` : what is watched of the routine.

## Main statements

* `Session.Took.heeds`, `Session.History.heeds` : every step of the routine keeps this.
* `Session.no_post_of_mention` : what the routine promises, after any history.
-/

namespace NodeSupply

/-- What is known where the routine stands that makes a group for a request, `heard` saying that a
page mentioned a group of its name, and `posted` that it asked for one to be made. -/
def CreateGroup.Heeds (home : String) (r : NodeGroupRequest) (heard posted : Prop) :
    TaskState Rest (.createGroup r) → Prop
  | .ready => ¬ heard ∧ ¬ posted
  | .waiting (.queued r') _ _ => r' = r ∧ ¬ heard ∧ ¬ posted
  | .waiting (.listing r') (.call (stage : Rest.Stage .nodeGroups) _) _ =>
    r' = r ∧ (heard → Named home r.name stage.groups) ∧ ¬ posted
  | .waiting (.creating ..) _ _ => ¬ heard
  | .finished _ => ¬ (heard ∧ posted)
  | .cancelled => ¬ (heard ∧ posted)
  | .crashed => ¬ (heard ∧ posted)

/-- If a page mentioned a group of the name, none is asked for. -/
theorem CreateGroup.Heeds.not_and {home : String} {r : NodeGroupRequest} {heard posted : Prop}
    {state : TaskState Rest (.createGroup r)} (h : Heeds home r heard posted state) :
    ¬ (heard ∧ posted) := by
  unfold Heeds at h
  split at h
  next => exact fun hboth => h.1 hboth.1
  next => exact fun hboth => h.2.1 hboth.1
  next => exact fun hboth => h.2.2 hboth.2
  next => exact fun hboth => h hboth.1
  next => exact h
  next => exact h
  next => exact h

theorem CreateGroup.Heeds.mono {home : String} {r : NodeGroupRequest}
    {heard heard' posted posted' : Prop} {state : TaskState Rest (.createGroup r)}
    (h : Heeds home r heard posted state) (hears : heard' → heard) (posts : posted' → posted) :
    Heeds home r heard' posted' state := by
  unfold Heeds at h ⊢
  split at h
  next => exact ⟨mt hears h.1, mt posts h.2⟩
  next => exact ⟨h.1, mt hears h.2.1, mt posts h.2.2⟩
  next => exact ⟨h.1, fun hh => h.2.1 (hears hh), mt posts h.2.2⟩
  next => exact mt hears h
  next => exact fun hboth => h ⟨hears hboth.1, posts hboth.2⟩
  next => exact fun hboth => h ⟨hears hboth.1, posts hboth.2⟩
  next => exact fun hboth => h ⟨hears hboth.1, posts hboth.2⟩

namespace Session

/-- The surroundings in which anything may be asked, and a service answers by any script. -/
def scripted : Surroundings Rest where
  asks _ := True
  changes s s' := ∃ responses afterwards,
    s' = { s with service := { s.service with responses, afterwards } }

/-- At a moment a task reads what has arrived of a page of node groups. -/
def ReadsPage (m : Moment Rest) (n : Nat) (x : Except ProviderError Delivery) : Prop :=
  m.cause = .stepped n ∧ ∃ (limit : Limit) (stage : Rest.Stage .nodeGroups)
    (deadline : Option Instant), m.before.hold? n = some ⟨.call .nodeGroups limit,
      .call stage deadline⟩ ∧ stage.arrived? m.before.now = some x

/-! ### The provider -/

/-- Looks at what is waited for only ask to read. -/
theorem keeps_of_look_eq_moved (method : HttpMethod) (reads : .get ≠ method) {s : Session Rest}
    {w : Worker} {number : Nat} {a : Await} {hold hold' : Hold Rest a} {provider : Rest}
    (looked : s.look w number a hold = .moved hold' provider) :
    Rest.Keeps method s.provider provider := by
  obtain ⟨r, limit, rfl⟩ := exists_call_of_look_eq_moved looked
  obtain ⟨stage, stage', deadline, -, -, hmoved⟩ := look_call_moved looked
  have hreads := Rest.keeps_look reads s.provider s.now stage
  change Rest.look s.provider s.now r stage = _ at hmoved
  rwa [hmoved] at hreads

theorem keeps_of_look_eq_finished (method : HttpMethod) (reads : .get ≠ method)
    {s : Session Rest} {w : Worker} {number : Nat} {a : Await} {hold : Hold Rest a}
    {answer : a.Answer} {provider : Rest}
    (looked : s.look w number a hold = .finished answer provider) :
    Rest.Keeps method s.provider provider := by
  cases a with
  | call r limit =>
    obtain ⟨stage, deadline, -, hfinished | ⟨-, rfl⟩⟩ := look_call_finished looked
    · have hreads := Rest.keeps_look reads s.provider s.now stage
      change Rest.look s.provider s.now r stage = _ at hfinished
      rwa [hfinished] at hreads
    · exact Rest.keeps_abandon s.provider stage
  | turn gate =>
    cases hold
    rw [look] at looked
    split at looked <;> cases looked
    exact .refl method _
  | pause d =>
    cases hold
    rw [look] at looked
    split at looked <;> cases looked
    exact .refl method _

theorem keeps_cancel (method : HttpMethod) (s : Session Rest) (n : Nat) :
    Rest.Keeps method s.provider (s.cancel n).provider := by
  unfold cancel
  split
  next => exact .refl method _
  next j cancelAt point hold slot task =>
    simp only [setTask, provider_leave]
    rcases provider_abandon s hold with h | ⟨r, stage, h⟩ <;> rw [h]
    · exact .refl method _
    · exact Rest.keeps_abandon s.provider stage
  next => exact .refl method _

theorem client_toldNext (s : Rest) (now : Instant) (j : Job) (next : Next j.Point j.Result) :
    (toldNext s now j next).client = s.client := by
  cases next with
  | done result => rfl
  | crash => rfl
  | goOn point =>
    rw [toldNext]
    cases j.awaits point with
    | call r limit => exact Rest.client_start s now r
    | turn gate => rfl
    | pause d => rfl

/-- Nobody becomes another client. -/
theorem Move.client {s s' : Session Rest} {c : Cause} (move : Move scripted s c s') :
    s'.provider.client = s.provider.client := by
  cases move with
  | submit cancelAfter asked => rfl
  | step taken =>
    cases took_of_step? taken with
    | started task => rw [provider_proceed, client_toldNext, provider_keepCache]
    | moved task looked => exact (keeps_of_look_eq_moved .post nofun looked).1
    | answered task looked =>
      rw [provider_proceed, client_toldNext, provider_keepCache]
      exact (keeps_of_look_eq_finished .post nofun looked).1
    | dropped => exact (keeps_cancel .post s _).1
  | cancel number => exact (keeps_cancel .post s number).1
  | pass d => rfl
  | meddle changed =>
    obtain ⟨responses, afterwards, rfl⟩ := changed
    rfl

/-! ### What a move adds -/

/-- At a moment a task reads of a page that mentions a group of a name. -/
def Hears (home name : String) (m : Moment Rest) (n : Nat) : Prop :=
  ∃ x, ReadsPage m n x ∧ Rest.Mentions home name x

/-- At a moment a request of a method is sent. -/
def Sends (method : HttpMethod) (m : Moment Rest) : Prop :=
  m.after.provider.sent method ≠ m.before.provider.sent method

variable {home : String} {r : NodeGroupRequest} {heard posted : Prop} {s s' : Session Rest}
  {c : Cause} {n : Nat} {cancelAt : Option Instant}

theorem not_sends_of_keeps {method : HttpMethod}
    (h : Rest.Keeps method s.provider s'.provider) : ¬ Sends method ⟨s, c, s'⟩ :=
  fun hsends => hsends h.2

/-- A task that goes on sends no request to make something if the call that it starts sends none. -/
theorem not_posts_proceed {s₁ : Session Rest} {j : Job} {slot : Option Nat}
    {next : Next j.Point j.Result}
    (reads : Rest.Keeps .post s.provider (toldNext s₁.provider s₁.now j next)) :
    ¬ Sends .post ⟨s, c, s₁.proceed n j cancelAt slot next⟩ := by
  refine not_sends_of_keeps ?_
  rw [provider_proceed]
  exact reads

/-- Who waits for something else than an answer about all node groups reads no page of them. -/
theorem not_hears_of_hold? {name : String}
    (other : ∀ limit hold, s.hold? n ≠ some ⟨.call .nodeGroups limit, hold⟩) :
    ¬ Hears home name ⟨s, c, s'⟩ n := by
  rintro ⟨x, ⟨-, limit, stage, deadline, hhold, -⟩, -⟩
  exact other limit _ hhold

/-- Where a task of the routine stands after a move of its own. -/
def HeedsNow (home : String) (r : NodeGroupRequest) (heard posted : Prop) (m : Moment Rest)
    (n : Nat) (cancelAt : Option Instant) : Prop :=
  ∃ state, m.after.tasks.get? n = some ⟨.createGroup r, cancelAt, state⟩ ∧
    CreateGroup.Heeds home r (heard ∨ Hears home r.name m n) (posted ∨ Sends .post m) state

/-! ### Moves of the routine -/

theorem heeds_started (task : s.tasks.get? n = some ⟨.createGroup r, cancelAt, .ready⟩)
    (h : CreateGroup.Heeds home r heard posted .ready) (cache : VerdictCache) :
    HeedsNow home r heard posted ⟨s, .stepped n,
      (s.keepCache .keeper cache).proceed n (.createGroup r) cancelAt none (.goOn (.queued r))⟩ n
      cancelAt := by
  obtain ⟨hold, slot, hafter⟩ := exists_get?_tasks_proceed (s.keepCache .keeper cache) n
    (.createGroup r) cancelAt none (.queued r)
  have hquiet : ∀ limit hold, s.hold? n ≠ some ⟨.call .nodeGroups limit, hold⟩ := by
    intro limit hold h
    rw [hold?, task] at h
    cases h
  refine ⟨_, hafter, rfl, not_or.2 ⟨h.1, not_hears_of_hold? hquiet⟩, not_or.2 ⟨h.2, ?_⟩⟩
  exact not_posts_proceed (.refl ..)

theorem heeds_moved {point : CreateGroup.Point} {hold hold' : Hold Rest point.awaits}
    {slot : Option Nat} {provider : Rest}
    (task : s.tasks.get? n = some ⟨.createGroup r, cancelAt, .waiting point hold slot⟩)
    (h : CreateGroup.Heeds home r heard posted (.waiting point hold slot))
    (client : s.provider.client.cluster = home)
    (looked : s.look .keeper n point.awaits hold = .moved hold' provider) :
    HeedsNow home r heard posted ⟨s, .stepped n,
      { s with provider }.setTask n ⟨.createGroup r, cancelAt, .waiting point hold' slot⟩⟩ n
      cancelAt := by
  have hwaits := hold?_of_get? task
  have hquiet : ¬ Sends .post ⟨s, .stepped n, { s with provider }.setTask n
      ⟨.createGroup r, cancelAt, .waiting point hold' slot⟩⟩ :=
    not_sends_of_keeps (keeps_of_look_eq_moved .post nofun looked)
  refine ⟨_, get?_tasks_setTask_self .., ?_⟩
  cases point with
  | queued r' =>
    obtain ⟨_, _, hawaits⟩ := exists_call_of_look_eq_moved looked
    cases hawaits
  | listing r' =>
    obtain ⟨stage, stage', deadline, rfl, rfl, hmoved⟩ := look_call_moved looked
    obtain ⟨hr, hnamed, hposted⟩ := h
    have hgathers : Rest.Gathers home s.now stage (Rest.Stage.groups stage') :=
      client ▸ Rest.gathers_of_look (congrArg Rest.gathered? hmoved)
    refine ⟨hr, fun hheard => hgathers.named (hheard.imp hnamed ?_), not_or.2 ⟨hposted, hquiet⟩⟩
    rintro ⟨x, ⟨-, limit, stage, deadline, hhold, harrived⟩, hmentions⟩
    cases hwaits.symm.trans hhold
    exact ⟨x, harrived, hmentions⟩
  | creating r' spec =>
    refine not_or.2 ⟨h, not_hears_of_hold? fun limit hold' hhold => ?_⟩
    cases hwaits.symm.trans hhold

/-- A page that mentions a group of the name leaves it among those that are gathered in the end. -/
theorem named_of_hears {limit : Limit} {stage : Rest.Stage .nodeGroups} {deadline : Option Instant}
    {groups : List NodeGroup} {w : Worker} {provider : Rest}
    (waits : s.hold? n = some ⟨.call .nodeGroups limit, .call stage deadline⟩)
    (named : heard → Named home r.name stage.groups) (client : s.provider.client.cluster = home)
    (looked : s.look w n (.call .nodeGroups limit) (.call stage deadline) =
      .finished (.ok groups) provider)
    (hears : heard ∨ Hears home r.name ⟨s, c, s'⟩ n) : Named home r.name groups := by
  obtain ⟨stage', deadline', hhold, hfinished | ⟨herror, -⟩⟩ := look_call_finished looked
  · cases hhold
    have hgathers : Rest.Gathers home s.now stage groups :=
      client ▸ Rest.gathers_of_look (congrArg Rest.gathered? hfinished)
    refine hgathers.named (hears.imp named ?_)
    rintro ⟨x, ⟨-, limit, stage, deadline, hhold, harrived⟩, hmentions⟩
    cases waits.symm.trans hhold
    exact ⟨x, harrived, hmentions⟩
  · cases herror

/-- The routine ends and asks for nothing more. -/
theorem heeds_done {s₁ : Session Rest} {slot : Option Nat} (result : CreateGroup.Result)
    (reads : Rest.Keeps .post s.provider s₁.provider)
    (unposted : heard ∨ Hears home r.name ⟨s, c, s₁.proceed n (.createGroup r) cancelAt slot
      (.done result)⟩ n → ¬ posted) :
    HeedsNow home r heard posted
      ⟨s, c, s₁.proceed n (.createGroup r) cancelAt slot (.done result)⟩ n cancelAt := by
  exact ⟨_, get?_tasks_setTask_self .., fun hboth =>
    not_or.2 ⟨unposted hboth.1, not_posts_proceed reads⟩ hboth.2⟩

/-- The routine goes on to look at the groups. -/
theorem heeds_turn {s₁ : Session Rest} {slot : Option Nat} (posted_not : ¬ posted)
    (reads : Rest.Keeps .post s.provider s₁.provider)
    (unheard : ¬ (heard ∨ Hears home r.name ⟨s, c, s₁.proceed n (.createGroup r) cancelAt slot
      (.goOn (.listing r))⟩ n)) :
    HeedsNow home r heard posted
      ⟨s, c, s₁.proceed n (.createGroup r) cancelAt slot (.goOn (.listing r))⟩ n cancelAt := by
  obtain ⟨hold, slot', hafter⟩ :=
    exists_get?_tasks_proceed s₁ n (.createGroup r) cancelAt slot (.listing r)
  refine ⟨_, hafter, ?_⟩
  cases hold with
  | call stage deadline =>
    exact ⟨rfl, fun hheard => absurd hheard unheard,
      not_or.2 ⟨posted_not, not_posts_proceed reads⟩⟩

/-- The routine has looked at the groups: it goes on to make one only if no page mentioned one. -/
theorem heeds_listed {s₁ : Session Rest} {slot : Option Nat} (posted_not : ¬ posted)
    (reads : Rest.Keeps .post s.provider s₁.provider) {settings : Settings}
    (cluster : settings.cluster = home) (answer : Request.nodeGroups.Outcome)
    (named : ∀ groups s', answer = .ok groups → heard ∨ Hears home r.name ⟨s, c, s'⟩ n →
      Named home r.name groups) :
    HeedsNow home r heard posted ⟨s, c, s₁.proceed n (.createGroup r) cancelAt slot
      (CreateGroup.resume settings (.listing r) answer)⟩ n cancelAt := by
  cases answer with
  | error e => exact heeds_done _ reads fun _ => posted_not
  | ok groups =>
    cases hfind : (groups.filter (·.isManagedIn settings.cluster)).find? (·.name == r.name) with
    | some g =>
      simp only [CreateGroup.resume, hfind]
      exact heeds_done _ reads fun _ => posted_not
    | none =>
      simp only [CreateGroup.resume, hfind]
      obtain ⟨hold, slot', hafter⟩ := exists_get?_tasks_proceed s₁ n (.createGroup r) cancelAt slot
        (.creating r (r.spec settings.cluster))
      refine ⟨_, hafter, fun hears => ?_⟩
      -- The routine would have found the group that the page mentioned.
      obtain ⟨g, hg, hmanaged, hname⟩ := named groups _ rfl hears
      have hmem : g ∈ groups.filter (·.isManagedIn settings.cluster) :=
        List.mem_filter.2 ⟨hg, by rw [cluster, hmanaged]⟩
      exact List.find?_eq_none.1 hfind g hmem (beq_iff_eq.2 hname)

theorem heeds_answered {point : CreateGroup.Point} {hold : Hold Rest point.awaits}
    {slot : Option Nat} {answer : point.awaits.Answer} {provider : Rest}
    (task : s.tasks.get? n = some ⟨.createGroup r, cancelAt, .waiting point hold slot⟩)
    (h : CreateGroup.Heeds home r heard posted (.waiting point hold slot))
    (client : s.provider.client.cluster = home) (cluster : s.setup.settings.cluster = home)
    (looked : s.look .keeper n point.awaits hold = .finished answer provider)
    (cache : VerdictCache) :
    HeedsNow home r heard posted ⟨s, .stepped n,
      ({ s with provider }.keepCache .keeper cache).proceed n (.createGroup r) cancelAt slot
        (CreateGroup.resume s.setup.settings point answer)⟩ n cancelAt := by
  have hwaits := hold?_of_get? task
  have hreads : Rest.Keeps .post s.provider
      ({ s with provider }.keepCache .keeper cache).provider :=
    keeps_of_look_eq_finished .post nofun looked
  cases point with
  | queued r' =>
    obtain ⟨rfl, hheard, hposted⟩ := h
    refine heeds_turn hposted hreads (not_or.2 ⟨hheard, not_hears_of_hold? fun _ _ hhold => ?_⟩)
    cases hwaits.symm.trans hhold
  | listing r' =>
    cases hold with
    | call stage deadline =>
      obtain ⟨rfl, hnamed, hposted⟩ := h
      refine heeds_listed hposted hreads cluster answer fun groups s' hanswer hears => ?_
      subst hanswer
      exact named_of_hears hwaits hnamed client looked hears
  | creating r' spec =>
    have hunheard : ∀ s', ¬ (heard ∨ Hears home r.name ⟨s, .stepped n, s'⟩ n) := fun s' =>
      not_or.2 ⟨h, not_hears_of_hold? fun _ _ hhold => by cases hwaits.symm.trans hhold⟩
    cases answer <;> exact heeds_done _ hreads fun hears => absurd hears (hunheard _)

/-- A page that has mentioned a group by now, or does so now, finds that none was asked for. -/
theorem not_posted_of_hears {state : TaskState Rest (.createGroup r)}
    (task : s.tasks.get? n = some ⟨.createGroup r, cancelAt, state⟩)
    (h : CreateGroup.Heeds home r heard posted state)
    (hears : heard ∨ Hears home r.name ⟨s, c, s'⟩ n) : ¬ posted := by
  have idle : (∀ limit hold, s.hold? n ≠ some ⟨.call .nodeGroups limit, hold⟩) → heard :=
    fun other => hears.resolve_right (not_hears_of_hold? other)
  have hwaits : s.hold? n = Task.hold? ⟨.createGroup r, cancelAt, state⟩ := by
    rw [hold?, task]
    rfl
  cases state with
  | ready => exact h.2
  | waiting point hold slot =>
    cases point with
    | queued r' => exact h.2.2
    | listing r' =>
      cases hold with
      | call stage deadline => exact h.2.2
    | creating r' spec =>
      have hheard : heard := idle fun _ _ hhold => by cases hwaits.symm.trans hhold
      exact absurd hheard h
  | finished result =>
    have hheard : heard := idle fun _ _ hhold => by cases hwaits.symm.trans hhold
    exact fun hposted => h ⟨hheard, hposted⟩
  | cancelled =>
    have hheard : heard := idle fun _ _ hhold => by cases hwaits.symm.trans hhold
    exact fun hposted => h ⟨hheard, hposted⟩
  | crashed =>
    have hheard : heard := idle fun _ _ hhold => by cases hwaits.symm.trans hhold
    exact fun hposted => h ⟨hheard, hposted⟩

theorem heeds_cancelled {state : TaskState Rest (.createGroup r)}
    (task : s.tasks.get? n = some ⟨.createGroup r, cancelAt, state⟩)
    (h : CreateGroup.Heeds home r heard posted state) :
    HeedsNow home r heard posted ⟨s, c, s.cancel n⟩ n cancelAt := by
  have hquiet : ¬ Sends .post ⟨s, c, s.cancel n⟩ := not_sends_of_keeps (keeps_cancel .post s n)
  have hnot : ¬ ((heard ∨ Hears home r.name ⟨s, c, s.cancel n⟩ n) ∧
      (posted ∨ Sends .post ⟨s, c, s.cancel n⟩)) := fun hboth =>
    not_or.2 ⟨not_posted_of_hears task h hboth.1, hquiet⟩ hboth.2
  obtain ⟨state', hafter, rfl | rfl | ⟨result, rfl⟩⟩ := exists_get?_tasks_cancel task
  · exact ⟨_, hafter, hnot⟩
  · exact ⟨_, hafter, hnot⟩
  · exact ⟨_, hafter, hnot⟩

/-- Every step of the routine keeps what is known of pages and requests. -/
theorem Took.heeds (took : Took s n s') {state : TaskState Rest (.createGroup r)}
    (task : s.tasks.get? n = some ⟨.createGroup r, cancelAt, state⟩)
    (h : CreateGroup.Heeds home r heard posted state)
    (client : s.provider.client.cluster = home) (cluster : s.setup.settings.cluster = home) :
    HeedsNow home r heard posted ⟨s, .stepped n, s'⟩ n cancelAt := by
  cases took with
  | started task' =>
    cases task.symm.trans task'
    exact heeds_started task h _
  | moved task' looked =>
    cases task.symm.trans task'
    exact heeds_moved task h client looked
  | answered task' looked =>
    cases task.symm.trans task'
    exact heeds_answered task h client cluster looked _
  | dropped => exact heeds_cancelled task h

/-! ### Histories -/

variable {setup : Setup} {client : RestClient} {service : WebService} {past : List (Moment Rest)}

theorem History.client_eq (h : History scripted (begin setup (Rest.begin client service)) past s) :
    s.provider.client = client := by
  induction h with
  | start => rfl
  | go _ move ih => exact move.client.trans ih

/-- What is watched of the routine: pages that mention a group of its name, and requests to make
something. -/
def mentionWatch (home : String) (r : NodeGroupRequest) : Watch Rest (.createGroup r) where
  learns m n := Hears home r.name m n
  acts := Sends .post
  known := CreateGroup.Heeds home r
  steps := by
    rintro m n ⟨x, ⟨hcause, limit, stage, deadline, hhold, -⟩, -⟩
    refine ⟨hcause, fun hnone => ?_⟩
    rw [hold?, hnone] at hhold
    cases hhold
  still s c n := not_sends_of_keeps (keeps_cancel .post s n)
  ready := ⟨id, id⟩
  mono h hears posts := h.mono hears posts

/-- After any history, what a task of the routine has read and sent is as is known where it
stands. -/
theorem History.heeds (home_eq : client.cluster = setup.settings.cluster)
    (h : History scripted (begin setup (Rest.begin client service)) past s)
    {state : TaskState Rest (.createGroup r)}
    (task : s.tasks.get? n = some ⟨.createGroup r, cancelAt, state⟩) :
    CreateGroup.Heeds client.cluster r ((mentionWatch client.cluster r).Learned past n)
      ((mentionWatch client.cluster r).Acted past n) state := by
  refine h.watch rfl (mentionWatch client.cluster r) (fun h task known => ?_) task
  have hclient := congrArg RestClient.cluster h.client_eq
  have hcluster := (congrArg (·.settings.cluster) h.setup).trans home_eq.symm
  exact ⟨fun s' took => ⟨_, took.heeds task known hclient hcluster⟩,
    ⟨_, heeds_cancelled task known⟩⟩

end Session

/-! ### Runs -/

/-- A service that tells of a cluster and of one page of node groups, and then of nothing. -/
def WebService.onePage (p : GroupPage) : WebService where
  responses := [⟨0, .answered 200 (some [123, 125])⟩, p.response, ⟨0, .lost⟩]
  afterwards := ⟨0, .lost⟩
  requests := []

namespace Session

/-- A session in which a group called `node` is to be made, and its task has come to look at all
groups. -/
def asking (service : WebService) : Session Rest :=
  ((begin Setup.small (Rest.begin .small service)).submit (.createGroup (.small "a" "subnet-a"))
    none).2.runTasks 2 [0] [0] false

/-- The task of `asking` has come to a stage of its call. -/
structure AtStage (s : Session Rest) (provider : Rest) (stage : Rest.Stage .nodeGroups) : Prop where
  setup : s.setup = .small
  now : s.now = 0
  provider : s.provider = provider
  task : s.tasks.get? 0 = some ⟨.createGroup (.small "a" "subnet-a"), none,
    .waiting (.listing (.small "a" "subnet-a")) (.call stage (some 2)) (some 0)⟩

theorem AtStage.moved {s : Session Rest} {provider provider' : Rest}
    {stage stage' : Rest.Stage .nodeGroups} (h : AtStage s provider stage)
    (moved : provider.look 0 .nodeGroups stage = .moved stage' provider') :
    ∃ s', s.step? 0 = some s' ∧ AtStage s' provider' stage' := by
  have hlook : Provider.look s.provider s.now .nodeGroups stage = .moved stage' provider' := by
    rw [h.provider, h.now]
    exact moved
  refine ⟨_, step?_of_look_moved h.task (look_call_of_moved _ 0 (some 2) hlook), ?_⟩
  exact ⟨h.setup, h.now, rfl, get?_tasks_setTask_self ..⟩

/-- The first page arrives, whatever it has. -/
theorem exists_atStage (p : GroupPage) (prompt : p.stall = 0) : ∃ past s requests line,
    History scripted (begin Setup.small (Rest.begin .small (.onePage p))) past s ∧
      AtStage s ⟨.small, ⟨[⟨0, .lost⟩], ⟨0, .lost⟩, requests⟩, some ⟨"", ""⟩, line, 1⟩
        (.reading ⟨0, .ok p.response.delivery⟩ ("", [])) := by
  have hstart : History scripted (begin Setup.small (Rest.begin .small (.onePage p))) [] _ :=
    .start
  have hsubmitted := hstart.go (.submit (j := .createGroup (.small "a" "subnet-a")) none trivial)
  obtain ⟨past, hasking⟩ := hsubmitted.runTasks 2 [0] [0] false
  have header := RestClient.isHeaderText_small
  have hcluster : (Url.parse? RestClient.small.clusterAddress).isSome = true := by cbv
  let line : FairLock Nat := FairLock.idle.enter 0
  have hqueued : AtStage (asking (.onePage p)) ⟨.small, .onePage p, none, line, 1⟩
    (.queued .folder 0) := ⟨rfl, rfl, rfl, rfl⟩
  obtain ⟨q, -, hask⟩ := Rest.send_eq (s := ⟨.small, .onePage p, none, line, 1⟩) 0 .get [] none
    hcluster header rfl (Nat.zero_le _)
  obtain ⟨s₁, hstep₁, hdescribing⟩ := hqueued.moved (Rest.look_queued rfl rfl hask)
  have hstall : p.response.stall ≤ RestClient.small.requestTimeout :=
    Nat.le_trans (Nat.le_of_eq prompt) (Nat.zero_le _)
  obtain ⟨q', -, hask'⟩ := Rest.send_eq
    (s := ⟨.small, ⟨[p.response, ⟨0, .lost⟩], ⟨0, .lost⟩, [q]⟩, some ⟨"", ""⟩, line.leave 0, 1⟩)
    0 .get (RestClient.small.groupsPage "" "").query none RestClient.isSome_small_groupsAddress
    header rfl hstall
  have hcluster : Rest.readDocument "cluster" "home" ClusterInfo.ofJson?
      (.ok (.answered 200 (some [123, 125]))) = .ok ⟨"", ""⟩ := rfl
  have hdue : 0 + p.response.stall = 0 := (Nat.zero_add _).trans prompt
  rw [hdue] at hask'
  obtain ⟨s₂, hstep₂, hreading⟩ := hdescribing.moved
    (Rest.look_describing (Nat.le_refl 0) hcluster hask')
  exact ⟨_, s₂, _, _, (History.go hasking (.step hstep₁)).go (.step hstep₂), hreading⟩

/-- The last page is read, and the task goes on from what it comes to. -/
theorem AtStage.finished {s : Session Rest} {provider : Rest} (client : provider.client = .small)
    {p : GroupPage} (last : p.token = "")
    (h : AtStage s provider (.reading ⟨0, .ok p.response.delivery⟩ ("", []))) :
    s.step? 0 = some (({ s with provider }.keepCache .keeper s.keeper.cache).proceed 0
      (.createGroup (.small "a" "subnet-a")) none (some 0)
        (CreateGroup.resume Setup.small.settings (.listing (.small "a" "subnet-a"))
          (Rest.listed "home" [] p.items))) := by
  have hanswer : Rest.look provider s.now .nodeGroups
      (.reading ⟨0, .ok p.response.delivery⟩ ("", [])) =
        .finished (Rest.listed "home" [] p.items) provider := by
    rw [Rest.look_lastPage last (Nat.zero_le _) rfl, client]
    rfl
  rw [← h.provider] at hanswer ⊢
  rw [← h.setup]
  exact step?_of_look h.task (look_call_of_finished _ 0 (some 2) hanswer) rfl

/-- What a task reads that has come to its first page. -/
theorem AtStage.readsPage {s s' : Session Rest} {provider : Rest}
    {x : Except ProviderError Delivery} (h : AtStage s provider (.reading ⟨0, x⟩ ("", []))) :
    ReadsPage ⟨s, .stepped 0, s'⟩ 0 x := by
  refine ⟨rfl, _, _, _, hold?_of_get? h.task, ?_⟩
  rw [h.now]
  rfl

end Session

namespace GroupPage

/-- The bytes of `found`. -/
def foundBody : List UInt8 :=
  bytes ("\x7b\"nodeGroups\":[\x7b".toList ++ oursText ++ ",".toList ++ fullCoresText ++
    "\x7d]\x7d".toList)

/-- A page with a group on full cores that was made here. -/
def found : GroupPage where
  stall := 0
  body := foundBody
  members := [("nodeGroups", .array [ours [fullCores]])]
  items := [ours [fullCores]]
  token := ""
  reads := by cbv
  lists := rfl
  names := .inr ⟨rfl, rfl⟩

/-- The bytes of `coreless`. -/
def corelessBody : List UInt8 :=
  bytes ("\x7b\"nodeGroups\":[\x7b".toList ++ oursText ++ "\x7d]\x7d".toList)

/-- A page with a group that was made here and whose cores are not written down. -/
def coreless : GroupPage where
  stall := 0
  body := corelessBody
  members := [("nodeGroups", .array [ours []])]
  items := [ours []]
  token := ""
  reads := by cbv
  lists := rfl
  names := .inr ⟨rfl, rfl⟩

end GroupPage

namespace Session

/-! ### What the routine promises -/

variable {setup : Setup} {client : RestClient} {service : WebService} {past : List (Moment Rest)}
  {s : Session Rest} {n : Nat} {r : NodeGroupRequest}

/-- After any history, however the tasks are interleaved and whatever the service answers: where a
task of the routine read of a page that mentions a group of its name which was made here for the
cluster, none of its moves sent a request to make something. -/
theorem no_post_of_mention (home_eq : client.cluster = setup.settings.cluster)
    (h : History scripted (begin setup (Rest.begin client service)) past s)
    (job : s.job? n = some (.createGroup r)) {m : Moment Rest} (mem : m ∈ past)
    {x : Except ProviderError Delivery} (reads : ReadsPage m n x)
    (mentions : Rest.Mentions client.cluster r.name x) :
    ∀ m' ∈ past, m'.IsOf n → m'.after.provider.sent .post = m'.before.provider.sent .post := by
  obtain ⟨⟨j, cancelAt, state⟩, task, hj⟩ := Option.map_eq_some_iff.1 job
  cases hj
  have hheeds := h.heeds home_eq task
  intro m' hm' hof
  refine Classical.byContradiction fun hposts => ?_
  exact hheeds.not_and ⟨⟨m, mem, x, reads, mentions⟩, m', hm', hof, hposts⟩

/-- A task that reads of its group finds it, and asks for none to be made. -/
theorem found_not_posted : ∃ past s,
    History scripted (begin Setup.small (Rest.begin .small (.onePage .found))) past s ∧
      s.standing? 0 = some ⟨.createGroup (.small "a" "subnet-a"), .done (.ok "group")⟩ ∧
      ∀ m ∈ past, m.IsOf 0 → m.after.provider.sent .post = m.before.provider.sent .post := by
  obtain ⟨past, s, requests, line, h, hat⟩ := exists_atStage .found rfl
  have hstep := hat.finished rfl rfl
  have hgo := h.go (.step hstep)
  have hmentions : Rest.Mentions "home" "node" (.ok GroupPage.found.response.delivery) :=
    ⟨_, Rest.shows_response .found List.mem_cons_self, ⟨rfl, rfl, _, rfl, rfl⟩, fun d hd => by
      cases hd
      decide⟩
  refine ⟨_, _, hgo, ?_, no_post_of_mention (r := .small "a" "subnet-a")
    rfl hgo ?_ List.mem_cons_self hat.readsPage hmentions⟩
  · rw [standing?_proceed, if_pos rfl]
    rfl
  · exact ((took_of_step? hstep).job? 0).trans (job?_of_get? hat.task)

/-- A task that reads of its group asks for another one if the cores of it are not written down. -/
theorem coreless_posted : ∃ past s m x item,
    History scripted (begin Setup.small (Rest.begin .small (.onePage .coreless))) past s ∧
      s.job? 0 = some (.createGroup (.small "a" "subnet-a")) ∧
      m ∈ past ∧ ReadsPage m 0 x ∧ Rest.Shows item x ∧ item.NamesGroup "home" "node" ∧
      m.after.provider.sent .post ≠ m.before.provider.sent .post := by
  obtain ⟨past, s, requests, line, h, hat⟩ := exists_atStage .coreless rfl
  have hstep := hat.finished rfl rfl
  refine ⟨_, _, _, _, _, h.go (.step hstep), ?_, List.mem_cons_self, hat.readsPage,
    Rest.shows_response .coreless List.mem_cons_self, ⟨rfl, rfl, _, rfl, rfl⟩, ?_⟩
  · exact ((took_of_step? hstep).job? 0).trans (job?_of_get? hat.task)
  · obtain ⟨q, hq, hsend⟩ := Rest.send_eq (s := ⟨.small, ⟨[⟨0, .lost⟩], ⟨0, .lost⟩, requests⟩,
      some ⟨"", ""⟩, line, 1⟩) s.now .post [] (some (NodeGroupRequest.spec "home"
        (.small "a" "subnet-a")).document) RestClient.isSome_small_groupsAddress
      RestClient.isHeaderText_small rfl (Nat.zero_le _)
    have hafter : (Rest.start ⟨.small, ⟨[⟨0, .lost⟩], ⟨0, .lost⟩, requests⟩, some ⟨"", ""⟩, line, 1⟩
        s.now (.createNodeGroup (NodeGroupRequest.spec "home" (.small "a" "subnet-a")))).2.sent
          .post = q :: requests.filter (·.method = .post) := by
      rw [Rest.start, hsend]
      simp [Rest.await, Rest.sent, hq]
    rw [provider_proceed, provider_keepCache, hat.provider]
    exact fun heq => List.cons_ne_self _ _ (hafter.symm.trans heq)

end Session

end NodeSupply
