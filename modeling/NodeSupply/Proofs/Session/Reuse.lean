import NodeSupply.Proofs.Session.Deletions
import NodeSupply.Proofs.Session.Names

/-!
# Groups that are given again

A group whose deletion was asked for keeps its record, and the routine that makes a group of a name
does not ask in which state a group of that name is.  So a group that is going away may be given
once more, but only for its own name: whoever is given an id has asked for the name that the group
of that id has at that moment, and the name stays as long as no other group takes the id.

## Main definitions

* `Session.Standing.Removes` : how far a task has come that deletes a group.
* `Session.Standing.Gives` : a task was given a group for a name.
* `Session.Given` : a moment at which that happens.

## Main statements

* `Session.History.exists_given` : who was given a group was given it at some moment.
* `Session.History.names_of_given` : the group has the name that was asked for.
* `Session.removed_group_given_by_name` : for which names a deleted group is given.
-/

namespace NodeSupply

theorem LaunchPlan.name_request_of_of {brief : Brief} {c : NodeClass} {r : NodeRequest}
    {plan : LaunchPlan} (h : LaunchPlan.of brief c r = .ok plan) : plan.request.name = r.name := by
  obtain ⟨candidates, x, subnet, disk, -, -, -, -, hrequest⟩ := LaunchPlan.exists_of_of h
  rw [hrequest]

/-- Nothing is lost when a deletion is a part of launching nodes. -/
theorem Job.asProvision_inj {next next' : Next DeleteGroup.Point DeleteGroup.Result} :
    Job.asProvision next = Job.asProvision next' ↔ next = next' := by
  refine ⟨fun h => ?_, congrArg _⟩
  rcases next with p | (e | d) | _ <;> rcases next' with p' | (e' | d') | _ <;> cases h <;> rfl

namespace Session

/-- How far a task has come that deletes a group, for its own sake or as that of a launched node. -/
inductive Standing.Removes :
    Standing → NodeGroupId → Next DeleteGroup.Point DeleteGroup.Result → Prop where
  | deleting (id : NodeGroupId) (next : Next DeleteGroup.Point DeleteGroup.Result) :
      Removes (.deleting id next) id next
  | deprovisioning (id : NodeGroupId) (next : Next DeleteGroup.Point DeleteGroup.Result) :
      Removes ⟨.deprovision id, Job.asProvision next⟩ id next

/-- A task was given a group for a name: that is its result, or it launches a node in the group. -/
inductive Standing.Gives : Standing → String → NodeGroupId → Prop where
  | made (r : NodeGroupRequest) (id : NodeGroupId) : Gives (.making r (.done (.ok id))) r.name id
  | launching {c : NodeClass} {r : NodeRequest} {next : Next Provision.Point Provision.Result}
      {id : NodeGroupId} (group : Provision.group? next = some id) :
      Gives (.launching c r next) r.name id

/-- At a moment a task is given a group for a name. -/
structure Given (m : Moment Memory) (number : Nat) (name : String) (id : NodeGroupId) : Prop where
  cause : m.cause = .stepped number
  after : ∃ x, m.after.standing? number = some x ∧ x.Gives name id
  before : ∀ x, m.before.standing? number = some x → ¬ x.Gives name id

section

variable {w : Surroundings Memory} {setup : Setup} {network : NetworkId}
  {past : List (Moment Memory)} {s : Session Memory}

/-! ### Deletions -/

/-- A task that deletes a group has just begun, or went on from the point where it stood. -/
theorem Arrives.removes {n : Nat} {j : Job} {next : Next j.Point j.Result} {provider : Memory}
    (arrives : Arrives s n j next provider) {id : NodeGroupId}
    {next' : Next DeleteGroup.Point DeleteGroup.Result}
    (removes : Standing.Removes ⟨j, next⟩ id next') :
    next' = .goOn (.queued id) ∨ ∃ x p, s.standing? n = some x ∧ x.Removes id (.goOn p) ∧
      (∀ p', next' = .goOn p' → p'.group = p.group) ∧
      DeleteGroup.Took s.provider p next' provider := by
  cases removes with
  | deleting =>
    rcases arrives.exists with ⟨-, rfl, -⟩ | ⟨_, p, hold, _, answer, task, looked, rfl⟩
    · exact .inl rfl
    · refine .inr ⟨_, p, standing?_of_get? task, .deleting id _, fun p' hp' => ?_, ?_⟩
      · exact DeleteGroup.group_of_resume hp'
      · exact deleteTook_of_look looked
  | deprovisioning =>
    rcases arrives.exists with ⟨-, hnext, -⟩ | ⟨_, p, hold, _, answer, task, looked, hnext⟩
    · exact .inl (Job.asProvision_inj.1 hnext)
    · obtain rfl : next' = DeleteGroup.resume p answer := Job.asProvision_inj.1 hnext
      refine .inr ⟨_, p, standing?_of_get? task, .deprovisioning id (.goOn p), fun p' hp' => ?_, ?_⟩
      · exact DeleteGroup.group_of_resume hp'
      · exact deleteTook_of_look looked

/-- A task that deletes a group stays with it. -/
theorem History.group_of_removes {s₀ : Session Memory} (h : History w s₀ past s)
    (begins : s₀.tasks = .empty) {n : Nat} {x : Standing} (hn : s.standing? n = some x)
    {id : NodeGroupId} {p : DeleteGroup.Point} (removes : x.Removes id (.goOn p)) :
    p.group = id := by
  refine h.standing?_induction (P := fun _ _ x => ∀ p, x.Removes id (.goOn p) → p.group = id)
    begins (fun _ _ _ hx => hx) ?_ hn p removes
  intro past s s' n j next provider _ arrives _ ih p hremoves
  rcases arrives.removes hremoves with hqueued | ⟨x, p', hx, hbefore, hstays, -⟩
  · cases hqueued
    rfl
  · exact (hstays p rfl).trans (ih x hx p' hbefore)

/-- A group whose deletion was asked for was there then. -/
theorem History.exists_made?_of_removes
    (told : ∀ m m', w.changes m m' → Memory.Told (fun _ => True) m m')
    (h : History w (begin setup (Memory.ofNetwork network)) past s) {n : Nat} {x : Standing}
    (hn : s.standing? n = some x) {id : NodeGroupId}
    (removes : x.Removes id (.done (.ok .requested))) :
    ∃ m ∈ past, ∃ g, m.after.provider.made? id = some g := by
  refine h.standing?_induction (P := fun past _ x => x.Removes id (.done (.ok .requested)) →
    ∃ m ∈ past, ∃ g, m.after.provider.made? id = some g) rfl ?_ ?_ hn removes
  · intro past m n x hx hremoves
    exact List.exists_mem_cons_of_exists (hx hremoves)
  · intro past s s' n j next provider h arrives provider_eq _ hremoves
    rcases arrives.removes hremoves with hqueued | ⟨x, p, hx, hbefore, -, took⟩
    · cases hqueued
    · have hgroup := h.group_of_removes rfl hx hbefore
      cases took with
      | done p idle => exact absurd rfl idle
      | @deleted id' g get =>
        obtain rfl : id' = id := hgroup
        refine ⟨_, List.mem_cons_self, g.made, ?_⟩
        change s'.provider.made? id' = some g.made
        rw [provider_eq, Memory.made?_congr (nodeGroups_toldNext ..).1,
          Memory.made?_delete (h.keyed told) get]
        exact Memory.made?_of_get? get

/-! ### Names -/

/-- The routine that makes a group does so for the request of its task. -/
theorem History.isFor {s₀ : Session Memory} (h : History w s₀ past s) (begins : s₀.tasks = .empty)
    {n : Nat} {r : NodeGroupRequest} {p : CreateGroup.Point}
    (hn : s.standing? n = some (.making r (.goOn p))) : p.IsFor s₀.setup.settings.cluster r := by
  refine h.standing?_induction (P := fun _ _ x => ∀ p, x = .making r (.goOn p) →
    p.IsFor s₀.setup.settings.cluster r) begins (fun _ _ _ hx => hx) ?_ hn p rfl
  intro past s s' n j next provider h arrives _ ih p hx
  cases hx
  rcases arrives.exists with ⟨-, hnext, -⟩ | ⟨_, p', hold, _, answer, task, -, hnext⟩
  · cases hnext
    rfl
  · have hbefore := ih _ (standing?_of_get? task) p' rfl
    rw [← h.setup] at hbefore ⊢
    exact CreateGroup.isFor_of_resume hbefore hnext.symm

/-- Where the routine that makes a group succeeds, the group has the name that was asked for. -/
theorem names_of_resume {q : Session Memory} (keyed : q.provider.Keyed) {settings : Settings}
    {worker : Worker} {number : Nat} {p : CreateGroup.Point} {hold : Hold Memory p.awaits}
    {answer : p.awaits.Answer} {provider : Memory}
    (looked : q.look worker number p.awaits hold = .finished answer provider)
    {r : NodeGroupRequest} (isFor : p.IsFor settings.cluster r) {id : NodeGroupId}
    (next : CreateGroup.resume settings p answer = .done (.ok id)) :
    provider.Names settings.cluster r.name id := by
  have took := took_of_look looked settings
  rw [next] at took
  cases took with
  | @found r' g mem name =>
    obtain rfl : r' = r := isFor
    exact (Memory.Names.iff_exists_mem keyed).2 ⟨g, mem, name, rfl⟩
  | made r' spec =>
    obtain ⟨rfl, rfl⟩ := isFor
    have hmade := (q.provider.put_create (r'.spec settings.cluster) _).trans (if_pos rfl)
    exact ⟨_, hmade, r'.isManagedIn_group_spec settings.cluster _, rfl⟩

/-- A task that was given a group has just found it or made it, or had been given it before. -/
theorem History.names_of_arrives (told : ∀ m m', w.changes m m' → Memory.Told (fun _ => True) m m')
    (h : History w (begin setup (Memory.ofNetwork network)) past s) {n : Nat} {j : Job}
    {next : Next j.Point j.Result} {provider : Memory} (arrives : Arrives s n j next provider)
    {name : String} {id : NodeGroupId} (gives : Standing.Gives ⟨j, next⟩ name id) :
    provider.Names setup.settings.cluster name id ∨
      ∃ x, s.standing? n = some x ∧ x.Gives name id := by
  have hkeyed := h.keyed told
  have hsetup : s.setup = setup := h.setup
  cases gives with
  | made r id =>
    rcases arrives.exists with ⟨-, hnext, -⟩ | ⟨_, p, hold, _, answer, task, looked, hnext⟩
    · cases hnext
    · have hfor : p.IsFor setup.settings.cluster r := h.isFor rfl (standing?_of_get? task)
      rw [← hsetup] at hfor ⊢
      exact .inl (names_of_resume hkeyed looked hfor hnext.symm)
  | @launching c r next id group =>
    rcases arrives.exists with ⟨-, rfl, -⟩ | ⟨_, point, hold, _, answer, task, looked, rfl⟩
    · cases (Provision.group?_reconciling _).symm.trans group
    · have hbefore := standing?_of_get? task
      cases point with
      | reconciling r' q => cases (Provision.group?_reconciling _).symm.trans group
      | resolving plan group' q =>
        obtain rfl := Provision.eq_of_group?_resolving group
        exact .inr ⟨_, hbefore, .launching rfl⟩
      | creating plan q =>
        obtain ⟨hplan, hfor⟩ : LaunchPlan.of (setup.brief n) c r = .ok plan ∧
          q.IsFor setup.settings.cluster plan.request := h.provision_fits rfl hbefore
        have hdone := Provision.eq_done_of_group?_creating group
        rw [← LaunchPlan.name_request_of_of hplan]
        rw [← hsetup] at hfor ⊢
        exact .inl (names_of_resume hkeyed looked hfor hdone)

/-- Who is given a group for a name is given one that has the name. -/
theorem History.names_of_given (told : ∀ m m', w.changes m m' → Memory.Told (fun _ => True) m m')
    (h : History w (begin setup (Memory.ofNetwork network)) past s) {m : Moment Memory}
    (mem : m ∈ past) {n : Nat} {name : String} {id : NodeGroupId} (given : Given m n name id) :
    m.after.provider.Names setup.settings.cluster name id := by
  obtain ⟨x, hafter, hgives⟩ := given.after
  obtain ⟨earlier, hearlier, hmove⟩ := h.exists_of_mem mem
  have heffect := hmove.effect (hearlier.fresh (fresh_begin setup _))
  rw [given.cause] at heffect
  cases heffect with
  | quiet standing idles => exact absurd hgives (given.before x ((standing n).eq_some hafter))
  | @arrived _ j next provider _ arrives standing provider_eq =>
    cases ((standing n).trans (if_pos rfl)).symm.trans hafter
    rcases hearlier.names_of_arrives told arrives hgives with hnames | ⟨y, hy, hbefore⟩
    · rw [provider_eq, Memory.names_congr (Memory.made?_congr (nodeGroups_toldNext ..).1)]
      exact hnames
    · exact absurd hbefore (given.before y hy)

/-! ### Moments -/

/-- Who was given a group was given it at some moment. -/
theorem History.exists_given {s₀ : Session Memory} (h : History w s₀ past s)
    (begins : s₀.tasks = .empty) {n : Nat} {x : Standing} (hn : s.standing? n = some x)
    {name : String} {id : NodeGroupId} (gives : x.Gives name id) :
    ∃ later m earlier, past = later ++ m :: earlier ∧ Given m n name id := by
  induction h generalizing x with
  | start => simp [standing?, begins] at hn
  | @go past s s' c h move ih =>
    by_cases hbefore : ∃ y, s.standing? n = some y ∧ y.Gives name id
    · obtain ⟨y, hy, hgives⟩ := hbefore
      obtain ⟨later, m, earlier, rfl, hgiven⟩ := ih hy hgives
      exact ⟨_ :: later, m, earlier, rfl, hgiven⟩
    · have hunknown : ∀ y, s.standing? n = some y → ¬ y.Gives name id :=
        fun y hy hgives => hbefore ⟨y, hy, hgives⟩
      cases move.effect (h.fresh (fresh_of_empty begins)) with
      | quiet standing idles => exact absurd gives (hunknown x ((standing n).eq_some hn))
      | meddled standing changed => exact absurd gives (hunknown x (standing n ▸ hn))
      | @arrived k j next provider _ arrives standing provider_eq =>
        by_cases hk : n = k
        · exact ⟨[], _, past, rfl, hk ▸ rfl, ⟨x, hn, gives⟩, hunknown⟩
        · rw [standing, if_neg hk] at hn
          exact absurd gives (hunknown x hn)

/-- A group that no later moment replaces is as it was. -/
theorem History.made?_eq_of_append {s₀ : Session Memory} {later earlier : List (Moment Memory)}
    {m : Moment Memory} (h : History w s₀ (later ++ m :: earlier) s) {id : NodeGroupId}
    (kept : ∀ m' ∈ later, m'.after.provider.made? id = m'.before.provider.made? id) :
    s.provider.made? id = m.after.provider.made? id := by
  induction later generalizing s with
  | nil =>
    cases h with
    | go h move => rfl
  | cons m' later ih =>
    cases h with
    | go h move =>
      obtain ⟨hlast, hothers⟩ := List.forall_mem_cons.1 kept
      exact hlast.trans (ih h hothers)

/-- After any history in which the deletion of a group was asked for, however tasks are interleaved,
whatever fails, is given up or takes long, and whatever others put into the provider: there is a
group of that id; who was given it was given it at a moment at which the group of that id was one of
the cluster that was made here, and had the name that was asked for; and it has that name still,
unless another group was put in its place since.  Its state has no part in this. -/
theorem removed_group_given_by_name
    (told : ∀ m m', w.changes m m' → Memory.Told (fun _ => True) m m')
    (h : History w (begin setup (Memory.ofNetwork network)) past s) {k : Nat} {x : Standing}
    {id : NodeGroupId} (hk : s.standing? k = some x)
    (removes : x.Removes id (.done (.ok .requested))) :
    ∃ g, s.provider.nodeGroups.get? id = some g ∧
      ∀ n y name, s.standing? n = some y → y.Gives name id →
        ∃ later m earlier, past = later ++ m :: earlier ∧ Given m n name id ∧
          m.after.provider.Names setup.settings.cluster name id ∧
          ((∀ m' ∈ later, m'.after.provider.made? id = m'.before.provider.made? id) →
            g.isManagedIn setup.settings.cluster = true ∧ g.name = name) := by
  obtain ⟨m, hm, _, hmade⟩ := h.exists_made?_of_removes told hk removes
  obtain ⟨_, hmade⟩ := h.exists_made? told hm hmade
  obtain ⟨g, hg, rfl⟩ := Option.map_eq_some_iff.1 hmade
  refine ⟨g, hg, fun n y name hn hgives => ?_⟩
  obtain ⟨later, m, earlier, rfl, hgiven⟩ := h.exists_given rfl hn hgives
  have hmem : m ∈ later ++ m :: earlier := List.mem_append_right _ List.mem_cons_self
  have hnames := h.names_of_given told hmem hgiven
  refine ⟨later, m, earlier, rfl, hgiven, hnames, fun hkept => ?_⟩
  obtain ⟨g', hg', hmanaged, hname⟩ := hnames
  cases (hmade.symm.trans (h.made?_eq_of_append hkept)).trans hg'
  exact ⟨hmanaged, hname⟩

end

/-- The group `ng-1` goes away because a launched node does, and is given once more for its own
name; for another name another group is made. -/
theorem removed_group_given_for_node :
    ∃ past s m, History ⟨fun _ => True, Memory.Told fun _ => True⟩
        (begin Setup.small (Memory.ofNetwork "network")) past s ∧
      s.standing? 1 = some ⟨.deprovision "ng-1", .done (.ok .requested)⟩ ∧
      s.standing? 2 = some (.making smallRequest (.done (.ok "ng-1"))) ∧
      s.standing? 3 = some (.making { smallRequest with name := "other" } (.done (.ok "ng-2"))) ∧
      m ∈ past ∧ Given m 2 "node" "ng-1" ∧ m.after.provider.Names "home" "node" "ng-1" := by
  have h : History ⟨fun _ => True, Memory.Told fun _ => True⟩
      (begin Setup.small (Memory.ofNetwork "network")) [] _ := .start
  obtain ⟨_, h⟩ := (h.go (.submit (j := .createGroup smallRequest) none trivial)).runTasks
    20 [0] [0] false
  obtain ⟨_, h⟩ := (h.go (.submit (j := .deprovision "ng-1") none trivial)).runTasks
    20 [1] [1] false
  have h := h.go (.submit (j := .createGroup smallRequest) none trivial)
  obtain ⟨_, h⟩ := (h.go (.submit (j := .createGroup { smallRequest with name := "other" }) none
    trivial)).runTasks 20 [2, 3] [2, 3] false
  obtain ⟨g, -, hgiven⟩ := removed_group_given_by_name (fun _ _ => id) h (k := 1) rfl
    (.deprovisioning "ng-1" (.done (.ok .requested)))
  obtain ⟨later, m, earlier, rfl, hmoment, hnames, -⟩ :=
    hgiven 2 _ "node" rfl (.made smallRequest "ng-1")
  have hmem : m ∈ later ++ m :: earlier := List.mem_append_right _ List.mem_cons_self
  exact ⟨_, _, m, h, rfl, rfl, rfl, hmem, hmoment, hnames⟩

/-- Where only one manager asks, a group whose deletion was asked for is given again to a task that
was submitted later, while its state says that it is going away. -/
theorem removed_group_given_again :
    ∃ later m earlier s, History ⟨fun j => j.worker = .keeper, fun _ _ => False⟩
        (begin Setup.small (Memory.ofNetwork "network")) (later ++ m :: earlier) s ∧
      m.cause = .submitted 2 ∧
      m.before.standing? 1 = some (.deleting "ng-1" (.done (.ok .requested))) ∧
      s.standing? 2 = some (.making smallRequest (.done (.ok "ng-1"))) ∧
      (s.provider.nodeGroups.get? "ng-1").map (·.state) = some .deleting := by
  have h : History ⟨fun j => j.worker = .keeper, fun _ _ => False⟩
      (begin Setup.small (Memory.ofNetwork "network")) [] _ := .start
  obtain ⟨_, h⟩ := (h.go (.submit (j := .createGroup smallRequest) none rfl)).runTasks
    20 [0] [0] false
  obtain ⟨earlier, h⟩ := (h.go (.submit (j := .deleteGroup "ng-1") none rfl)).runTasks
    20 [1] [1] false
  have h := h.go (.submit (j := .createGroup smallRequest) none rfl)
  have h := h.go (c := .stepped 2) (.step rfl)
  have h := h.go (c := .stepped 2) (.step rfl)
  have h := h.go (c := .stepped 2) (.step rfl)
  exact ⟨[_, _, _], _, earlier, _, h, rfl, rfl, rfl, rfl⟩

end Session

end NodeSupply
