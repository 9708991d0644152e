import NodeSupply.Proofs.Provider.Instances
import NodeSupply.Proofs.Session.Launch
import NodeSupply.Proofs.Session.Names

/-!
# External ids lead back to their groups

The search for an external id takes the instance that a group shows, and the search for the group
behind an external id asks first whose the instance is and then for that group.  As a group goes on
to show its instance, the second search finds what the first was about.

## Main definitions

* `Session.Standing.Seeks`, `Session.Standing.Identifies` : a task searches for an external id, and
  has found one.
* `Session.CallActs` : the call that a task waits for neither fails nor takes too long.
* `FindGroup.Onward` : how a search for a group goes on that finds it.

## Main statements

* `Session.History.keeps` : what a history keeps of instances.
* `Session.History.exists_of_identifies` : a group shows the instance of its external id.
* `Session.external_ids_lead_back` : the way back, after any history.
-/

namespace NodeSupply

/-! ### The two searches -/

namespace ResolveId

variable (settings : Settings) (now : Instant)

/-- The group that a search is about. -/
def Point.group : Point → NodeGroupId
  | polling search _ => search.id
  | resting search _ => search.id

/-- A search goes on about a group, is given up, or breaks off. -/
def Stays (id : NodeGroupId) : Next Point Result → Prop
  | .goOn q => q.group = id
  | .done (.error _) => True
  | .done (.ok _) => False
  | .crash => True

theorem Search.stays_ask (search : Search) : Stays search.id (search.ask settings now) := by
  simp only [ask, giveUp]
  split <;> simp [Stays, Point.group]

theorem Search.stays_rest (search : Search) : Stays search.id (search.rest settings now) := by
  simp only [rest, giveUp]
  split <;> simp [Stays, Point.group]

theorem stays_start (id : NodeGroupId) : Stays id (start settings now id) := by
  unfold start
  split
  · exact Search.stays_ask settings now ⟨id, now, none⟩
  · trivial

/-- All that can come of what a search waited for. -/
inductive Took : (q : Point) → q.awaits.Answer → Next Point Result → Prop where
  | named (search : Search) (left : Duration) (i : String) :
      Took (.polling search left) (.ok (some i)) (.done (.ok (.forInstance i)))
  | unnamed {q : Point} {answer : q.awaits.Answer} {next : Next Point Result}
      (stays : Stays q.group next) : Took q answer next

theorem took_resume (q : Point) (answer : q.awaits.Answer) :
    Took q answer (resume settings now q answer) := by
  cases q with
  | resting search d => exact .unnamed (search.stays_ask settings now)
  | polling search left =>
    rcases answer with e | (_ | i)
    · exact .unnamed (Search.stays_rest settings now { search with lastError := some e.message })
    · exact .unnamed (search.stays_rest settings now)
    · simp only [resume]
      split
      next => exact .unnamed (search.stays_rest settings now)
      next => exact .named search left i

variable {settings now}

theorem group_of_start {id : NodeGroupId} {q : Point} (h : start settings now id = .goOn q) :
    q.group = id := by
  have hstays := stays_start settings now id
  rwa [h] at hstays

theorem start_ne_ok {id : NodeGroupId} {p : ProviderId} :
    start settings now id ≠ .done (.ok p) := fun h => by
  have hstays := stays_start settings now id
  rwa [h] at hstays

theorem group_of_resume {q q' : Point} {answer : q.awaits.Answer}
    (h : resume settings now q answer = .goOn q') : q'.group = q.group := by
  have htook := took_resume settings now q answer
  rw [h] at htook
  cases htook with
  | unnamed hstays => exact hstays

end ResolveId

namespace Provision

variable {plan plan' : LaunchPlan} {id : NodeGroupId}
  {next : Next ResolveId.Point ResolveId.Result}

theorem eq_goOn_of_resolving {q : ResolveId.Point} (h : .goOn (.resolving plan id q) =
      next.map (.resolving plan' id) (afterResolve plan' id)) : next = .goOn q := by
  rcases next with q' | (e | p) | _ <;> cases h
  rfl

theorem eq_done_of_resolving {node : LaunchedNode} (h : .done (.ok node) =
      next.map (.resolving plan' id) (afterResolve plan' id)) :
    next = .done (.ok node.externalId) := by
  rcases next with q' | (e | p) | _ <;> cases h
  rfl

end Provision

theorem FindGroup.byExternalId_forInstance {i : String} (h : i ≠ "") :
    byExternalId (ProviderId.forInstance i).text = .goOn (.owner i) := by
  simp only [byExternalId, ProviderId.parse?_forInstance h, ProviderId.instance_forInstance]

/-- A search for the group behind an instance goes on from a point and finds it in the end. -/
inductive FindGroup.Onward (id : NodeGroupId) (instance_ : String) :
    FindGroup.Point → Next FindGroup.Point FindGroup.Result → Prop where
  | owned : Onward id instance_ (.owner instance_) (.goOn (.group id))
  | found {g : NodeGroup} (own : g.id = id) (shown : g.instanceId = some instance_) :
      Onward id instance_ (.group id) (.done (.ok (some g)))

namespace Session

/-- A task searches at some point for the external id of the node of a group. -/
inductive Standing.Seeks : Standing → NodeGroupId → ResolveId.Point → Prop where
  | resolving (id : NodeGroupId) (q : ResolveId.Point) : Seeks ⟨.resolveId id, .goOn q⟩ id q
  | launching (c : NodeClass) (r : NodeRequest) (plan : LaunchPlan) (id : NodeGroupId)
      (q : ResolveId.Point) : Seeks (.launching c r (.goOn (.resolving plan id q))) id q

/-- A task has found the external id of the node of a group, perhaps of one that it launched. -/
inductive Standing.Identifies : Standing → NodeGroupId → ProviderId → Prop where
  | resolved (id : NodeGroupId) (p : ProviderId) : Identifies ⟨.resolveId id, .done (.ok p)⟩ id p
  | launched (c : NodeClass) (r : NodeRequest) (node : LaunchedNode) :
      Identifies (.launching c r (.done (.ok node))) node.group node.externalId

/-- How far a task has come that searches for the group behind an external id. -/
abbrev Standing.tracing (value : String) (next : Next FindGroup.Point FindGroup.Result) :
    Standing where
  job := .findByExternalId value
  next

/-- The call that a task waits for has come through: it neither fails nor takes too long. -/
def CallActs (s : Session Memory) (number : Nat) : Prop :=
  ∃ (r : Request) (limit : Limit) (hold : Hold Memory (.call r limit)),
    s.hold? number = some ⟨.call r limit, hold⟩ ∧ ActsOn s.now hold

/-- All calls that a task made in some time came through. -/
def Unhindered (moments : List (Moment Memory)) (number : Nat) : Prop :=
  ∀ m ∈ moments, m.cause = .stepped number → (m.before.hold? number).isSome = true →
    m.before.CallActs number

theorem CallActs.look {s : Session Memory} {number : Nat} (acts : s.CallActs number) {r : Request}
    {limit : Limit} {hold : Hold Memory (.call r limit)}
    (waits : s.hold? number = some ⟨.call r limit, hold⟩) (w : Worker) :
    s.look w number (.call r limit) hold =
      .finished (s.provider.answer r).1 (s.provider.answer r).2 := by
  obtain ⟨r', limit', hold', hwaits, hacts⟩ := acts
  cases hwaits.symm.trans waits
  exact look_of_actsOn w number hacts

/-! ### Searching for an external id -/

section

variable {σ : Type} [Provider σ] {s : Session σ}

/-- A task that launches a node and knows of a group has just begun to search for the external id of
the node, or went on from a point of that search. -/
theorem Arrives.searches {n : Nat} {c : NodeClass} {r : NodeRequest}
    {next : Next Provision.Point Provision.Result} {provider : σ}
    (arrives : Arrives s n (.provision c r) next provider) {id : NodeGroupId}
    (known : Provision.group? next = some id) :
    (∃ plan, next = (ResolveId.start s.setup.settings s.now id).map (.resolving plan id)
        (Provision.afterResolve plan id)) ∨
      ∃ plan q cancelAt hold slot answer,
        s.tasks.get? n = some ⟨.provision c r, cancelAt,
          .waiting (Provision.Point.resolving plan id q) hold slot⟩ ∧
        s.look .launcher n q.awaits hold = .finished answer provider ∧
        next = (ResolveId.resume s.setup.settings s.now q answer).map (.resolving plan id)
          (Provision.afterResolve plan id) := by
  rcases arrives.exists with ⟨-, rfl, -⟩ | ⟨cancelAt, point, hold, slot, answer, task, looked, rfl⟩
  · cases (Provision.group?_reconciling _).symm.trans known
  · cases point with
    | reconciling r' p => cases (Provision.group?_reconciling _).symm.trans known
    | creating plan p =>
      have hdone : CreateGroup.resume s.setup.settings p answer = .done (.ok id) :=
        Provision.eq_done_of_group?_creating known
      refine .inl ⟨plan, ?_⟩
      change (CreateGroup.resume s.setup.settings p answer).map (.creating plan)
        (Provision.afterCreate (s.setup.brief n) s.now plan) = _
      rw [hdone]
      rfl
    | resolving plan group q =>
      obtain rfl := Provision.eq_of_group?_resolving known
      exact .inr ⟨plan, q, cancelAt, hold, slot, answer, task, looked, rfl⟩

/-- A task that searches has just begun to, or went on from a point of the same search. -/
theorem Arrives.seeks {n : Nat} {j : Job} {next : Next j.Point j.Result} {provider : σ}
    (arrives : Arrives s n j next provider) {id : NodeGroupId} {q : ResolveId.Point}
    (seeks : Standing.Seeks ⟨j, next⟩ id q) :
    q.group = id ∨
      ∃ x q', s.standing? n = some x ∧ x.Seeks id q' ∧ q.group = q'.group := by
  cases seeks with
  | resolving =>
    rcases arrives.exists with ⟨-, hnext, -⟩ | ⟨_, q', hold, _, answer, task, looked, hnext⟩
    · exact .inl (ResolveId.group_of_start hnext.symm)
    · exact .inr ⟨_, q', standing?_of_get? task, .resolving id q',
        ResolveId.group_of_resume hnext.symm⟩
  | launching c r plan =>
    rcases arrives.searches rfl with ⟨plan', hnext⟩ | ⟨plan', q', _, _, _, _, task, -, hnext⟩
    · exact .inl (ResolveId.group_of_start (Provision.eq_goOn_of_resolving hnext))
    · exact .inr ⟨_, q', standing?_of_get? task, .launching c r plan' id q',
        ResolveId.group_of_resume (Provision.eq_goOn_of_resolving hnext)⟩

/-- A task that searches stays with the group. -/
theorem History.group_of_seeks {w : Surroundings σ} {s₀ : Session σ} {past : List (Moment σ)}
    (h : History w s₀ past s) (begins : s₀.tasks = .empty) {n : Nat} {x : Standing}
    (hn : s.standing? n = some x) {id : NodeGroupId} {q : ResolveId.Point} (seeks : x.Seeks id q) :
    q.group = id := by
  refine h.standing?_induction (P := fun _ _ x => ∀ q, x.Seeks id q → q.group = id) begins
    (fun _ _ _ hx => hx) ?_ hn q seeks
  intro past s s' n j next provider _ arrives _ ih q hseeks
  rcases arrives.seeks hseeks with hgroup | ⟨x, q', hx, hbefore, hgroup⟩
  · exact hgroup
  · exact hgroup.trans (ih x hx q' hbefore)

end

/-! ### What a history keeps of instances -/

section

variable {w : Surroundings Memory} {s₀ s s' : Session Memory} {past : List (Moment Memory)}

theorem exposes_toldNext (m : Memory) (now : Instant) (j : Job) (next : Next j.Point j.Result) :
    m.Exposes (toldNext m now j next) := by
  cases next with
  | done result => exact Memory.exposes_of_eq rfl rfl rfl rfl
  | crash => exact Memory.exposes_of_eq rfl rfl rfl rfl
  | goOn point =>
    rw [toldNext]
    cases j.awaits point <;> exact Memory.exposes_of_eq rfl rfl rfl rfl

theorem Arrives.exposes (keyed : s.provider.Keyed) {n : Nat} {j : Job}
    {next : Next j.Point j.Result} {provider : Memory} (arrives : Arrives s n j next provider) :
    s.provider.Exposes provider := by
  rcases arrives.exists with ⟨-, -, rfl⟩ | ⟨_, point, hold, _, answer, task, looked, -⟩
  · exact .refl _
  · rcases provider_of_look looked with rfl | ⟨r, limit, -, rfl⟩
    · exact .refl _
    · exact Memory.exposes_answer keyed r

/-- A move keeps what is known of instances, unless others put groups there. -/
theorem Effect.keeps {c : Cause} (effect : Effect w s c s')
    (told : ∀ m m', w.changes m m' → Memory.Told (fun _ => False) m m')
    (h : s.provider.Assigned) : s.provider.Keeps s'.provider := by
  cases effect with
  | quiet standing idles =>
    rw [eq_of_idles idles]
    exact h.keeps (.refl _)
  | meddled standing changed => exact h.keeps (told _ _ changed).exposes
  | @arrived n j next provider _ arrives standing provider_eq =>
    have hstep := h.keeps (arrives.exposes h.keyed)
    rw [provider_eq]
    exact hstep.trans (hstep.assigned.keeps (exposes_toldNext ..))

theorem History.keeps (told : ∀ m m', w.changes m m' → Memory.Told (fun _ => False) m m')
    (h : History w s₀ past s) (begins : s₀.Fresh) (assigned : s₀.provider.Assigned) :
    s₀.provider.Keeps s.provider := by
  induction h with
  | start => exact ⟨assigned, fun _ _ hi => hi⟩
  | go h move ih => exact ih.trans ((move.effect (h.fresh begins)).keeps told ih.assigned)

/-- A search that ends with an external id was told of the instance. -/
theorem answer_of_resume {n : Nat} {q : ResolveId.Point} {worker : Worker}
    {hold : Hold Memory q.awaits} {answer : q.awaits.Answer} {provider : Memory}
    (looked : s.look worker n q.awaits hold = .finished answer provider) {settings : Settings}
    {p : ProviderId} (h : ResolveId.resume settings s.now q answer = .done (.ok p)) :
    ∃ i, p = .forInstance i ∧
      (.ok (some i), provider) = s.provider.answer (.instanceOf q.group) := by
  have htook := ResolveId.took_resume settings s.now q answer
  rw [h] at htook
  cases htook with
  | unnamed hstays => cases hstays
  | named search left i =>
    rcases look_call looked with ⟨e, he, -⟩ | hanswer
    · cases he
    · exact ⟨i, rfl, hanswer⟩

/-- A task that comes to an external id was told of the instance of the group that it searched. -/
theorem Arrives.identifies {n : Nat} {j : Job} {next : Next j.Point j.Result} {provider : Memory}
    (arrives : Arrives s n j next provider) {id : NodeGroupId} {p : ProviderId}
    (identifies : Standing.Identifies ⟨j, next⟩ id p) :
    ∃ x q i, s.standing? n = some x ∧ x.Seeks id q ∧ p = .forInstance i ∧
      (.ok (some i), provider) = s.provider.answer (.instanceOf q.group) := by
  cases identifies with
  | resolved =>
    rcases arrives.exists with ⟨-, hnext, -⟩ | ⟨_, q, hold, _, answer, task, looked, hnext⟩
    · exact absurd hnext.symm ResolveId.start_ne_ok
    · obtain ⟨i, hp, hanswer⟩ := answer_of_resume looked hnext.symm
      exact ⟨_, q, i, standing?_of_get? task, .resolving id q, hp, hanswer⟩
  | launched c r node =>
    rcases arrives.searches rfl with ⟨plan, hnext⟩ | ⟨plan, q, _, _, _, _, task, looked, hnext⟩
    · exact absurd (Provision.eq_done_of_resolving hnext) ResolveId.start_ne_ok
    · obtain ⟨i, hp, hanswer⟩ := answer_of_resume looked (Provision.eq_done_of_resolving hnext)
      exact ⟨_, q, i, standing?_of_get? task, .launching c r plan _ q, hp, hanswer⟩

end

/-! ### After any history -/

section

variable {w : Surroundings Memory} {setup : Setup} {network : NetworkId}
  {past later : List (Moment Memory)} {s s' : Session Memory} {id : NodeGroupId} {i : String}

theorem History.assigned (told : ∀ m m', w.changes m m' → Memory.Told (fun _ => False) m m')
    (h : History w (begin setup (Memory.ofNetwork network)) past s) : s.provider.Assigned :=
  (h.keeps told (fresh_begin setup _) (Memory.assigned_ofNetwork network)).assigned

/-- If a task found an external id, the group shows the instance that the id names. -/
theorem History.exists_of_identifies
    (told : ∀ m m', w.changes m m' → Memory.Told (fun _ => False) m m')
    (h : History w (begin setup (Memory.ofNetwork network)) past s) {k : Nat} {x : Standing}
    (hk : s.standing? k = some x) {p : ProviderId} (identifies : x.Identifies id p) :
    ∃ i, p = .forInstance i ∧ s.provider.shown? id = some i := by
  induction h generalizing x with
  | start => cases hk
  | @go past s s' c h move ih =>
    have hassigned := h.assigned told
    have heffect := move.effect (h.fresh (fresh_begin setup _))
    have hkeeps := heffect.keeps told hassigned
    have older (hk : s.standing? k = some x) : ∃ i, p = .forInstance i ∧
        s'.provider.shown? id = some i := by
      obtain ⟨i, hp, hshown⟩ := ih hk identifies
      exact ⟨i, hp, hkeeps.shown id i hshown⟩
    cases heffect with
    | quiet standing idles => exact older ((standing k).eq_some hk)
    | meddled standing changed => exact older (standing k ▸ hk)
    | @arrived n j next provider _ arrives standing provider_eq =>
      rw [standing] at hk
      split at hk
      next =>
        cases hk
        obtain ⟨y, q, i, hbefore, hseeks, hp, hanswer⟩ := arrives.identifies identifies
        rw [h.group_of_seeks rfl hbefore hseeks] at hanswer
        have hshown := hassigned.shown?_of_answer hanswer
        have hstep := hassigned.keeps (arrives.exposes hassigned.keyed)
        rw [provider_eq]
        exact ⟨i, hp, (hstep.assigned.keeps (exposes_toldNext ..)).shown id i hshown⟩
      next => exact older hk

/-- A search for the group behind an instance asks for no other instance and no other group. -/
theorem History.point_of_tracing
    (told : ∀ m m', w.changes m m' → Memory.Told (fun _ => False) m m')
    (h : History w (begin setup (Memory.ofNetwork network)) past s) (paired : Memory.Paired i id)
    {n : Nat} {q : FindGroup.Point}
    (hn : s.standing? n = some (.tracing (ProviderId.forInstance i).text (.goOn q))) :
    q = .owner i ∨ q = .group id := by
  refine h.standing?_induction (P := fun _ _ x => ∀ q,
    x = .tracing (ProviderId.forInstance i).text (.goOn q) → q = .owner i ∨ q = .group id) rfl
    (fun _ _ _ hx => hx) ?_ hn q rfl
  intro past s s' n j next provider h arrives _ ih q hx
  cases hx
  rcases arrives.exists with ⟨-, hnext, -⟩ | ⟨_, q', hold, _, answer, task, looked, hnext⟩
  · cases hnext.trans (FindGroup.byExternalId_forInstance paired.ne_empty)
    exact .inl rfl
  · rcases ih _ (standing?_of_get? task) q' rfl with rfl | rfl
    · -- Only the answer to the first call leads on, and it is the group that the instance came with.
      rcases look_call looked with ⟨e, rfl, -⟩ | hanswer
      · cases hnext
      · have hreply : answer = (s.provider.answer (.ownerOf i)).1 := congrArg Prod.fst hanswer
        rcases answer with e | (_ | id')
        · cases hnext
        · cases hnext
        · obtain rfl := paired.eq_group ((h.assigned told).paired_of_answer hreply.symm)
          cases hnext
          exact .inr rfl
    · cases answer <;> cases hnext

/-- As long as a group shows its instance, a search for the group behind the instance goes on with
every call that comes through, and the second call finds the group. -/
theorem CallActs.exists_onward (assigned : s.provider.Assigned)
    (shown : s.provider.shown? id = some i) {value : String} {n : Nat} {q : FindGroup.Point}
    {cancelAt : Option Instant} {hold : Hold Memory q.awaits} {slot : Option Nat}
    (task : s.tasks.get? n = some ⟨.findByExternalId value, cancelAt, .waiting q hold slot⟩)
    (acts : s.CallActs n) (way : q = .owner i ∨ q = .group id) :
    ∃ answer provider, s.look .keeper n q.awaits hold = .finished answer provider ∧
      FindGroup.Onward id i q (FindGroup.resume q answer) := by
  have hwaits := hold?_of_get? task
  rcases way with rfl | rfl
  · refine ⟨_, _, acts.look hwaits .keeper, ?_⟩
    rw [assigned.answer_ownerOf shown]
    exact .owned
  · obtain ⟨g, hg, hown, hi⟩ := assigned.answer_nodeGroup shown
    refine ⟨_, _, acts.look hwaits .keeper, ?_⟩
    rw [hg]
    exact .found hown hi

theorem exists_step?_of_callActs (assigned : s.provider.Assigned)
    (shown : s.provider.shown? id = some i) {value : String} {n : Nat} {q : FindGroup.Point}
    (hn : s.standing? n = some (.tracing value (.goOn q))) (acts : s.CallActs n)
    (way : q = .owner i ∨ q = .group id) :
    ∃ s' next, s.step? n = some s' ∧ s'.standing? n = some (.tracing value next) ∧
      FindGroup.Onward id i q next := by
  obtain ⟨cancelAt, hold, slot, task⟩ := exists_get?_of_standing? hn
  obtain ⟨answer, provider, looked, honward⟩ := acts.exists_onward assigned shown task way
  exact ⟨_, _, step?_of_look task looked rfl, (standing?_proceed ..).trans (if_pos rfl), honward⟩

theorem exists_step?_of_ready (known : i ≠ "") {n : Nat} {cancelAt : Option Instant}
    (task : s.tasks.get? n =
      some ⟨.findByExternalId (ProviderId.forInstance i).text, cancelAt, .ready⟩) :
    ∃ s', s.step? n = some s' ∧
      s'.standing? n = some (.tracing (ProviderId.forInstance i).text (.goOn (.owner i))) := by
  rw [← FindGroup.byExternalId_forInstance known]
  exact ⟨_, step?_of_ready task rfl, (standing?_proceed ..).trans (if_pos rfl)⟩

/-- A search that was not over when its group already showed the instance finds the group, unless a
call of it fails or takes too long. -/
theorem History.found_of_tracing
    (told : ∀ m m', w.changes m m' → Memory.Told (fun _ => False) m m')
    (h : History w (begin setup (Memory.ofNetwork network)) past s)
    (shown : s.provider.shown? id = some i) (h' : History w s later s') {n : Nat}
    (going : ∀ result,
      s.standing? n ≠ some (.tracing (ProviderId.forInstance i).text (.done result)))
    (unhindered : Unhindered later n) {result : FindGroup.Result}
    (hn : s'.standing? n = some (.tracing (ProviderId.forInstance i).text (.done result))) :
    ∃ g, result = .ok (some g) ∧ g.id = id ∧ g.instanceId = some i := by
  have hassigned := h.assigned told
  have hfresh := h.fresh (fresh_begin setup _)
  have hpaired := hassigned.paired (hassigned.shown id i shown)
  -- The result came with the last step that the task took, and that was the answer to its call.
  induction h' with
  | start => exact absurd hn (going result)
  | @go later s₁ s' c h' move ih =>
    obtain ⟨hlast, hothers⟩ := List.forall_mem_cons.1 unhindered
    cases move.effect (h'.fresh hfresh) with
    | quiet standing idles => exact ih hothers ((standing n).eq_some hn)
    | meddled standing changed => exact ih hothers (standing n ▸ hn)
    | @arrived k j next provider _ arrives standing provider_eq =>
      rw [standing] at hn
      split at hn
      next hk =>
        cases hn
        subst hk
        rcases arrives.exists with ⟨-, hnext, -⟩ | ⟨_, q, hold, _, answer, task, looked, hnext⟩
        · cases hnext.trans (FindGroup.byExternalId_forInstance hpaired.ne_empty)
        · have hway := (h.append h').point_of_tracing told hpaired (standing?_of_get? task)
          have hacts := hlast rfl (by rw [hold?_of_get? task]; rfl)
          have hkeeps := h'.keeps told hfresh hassigned
          obtain ⟨answer', provider', hlook, honward⟩ :=
            hacts.exists_onward hkeeps.assigned (hkeeps.shown id i shown) task hway
          cases looked.symm.trans hlook
          change .done result = FindGroup.resume q answer at hnext
          rw [← hnext] at honward
          cases honward with
          | found hown hi => exact ⟨_, rfl, hown, hi⟩
      next => exact ih hothers hn

/-- An external id names the instance that it was made for, and every text that is an external id
is one made for an instance.  After any history in which groups and instances are only those made by
calls, however tasks are interleaved, whatever fails, is given up or takes long: if a task found the
external id of the node of a group, then from then on who searches for the group behind it asks for
the owner of the instance and for the group, goes on with each of the two calls that comes through,
and if both do is given that group with that instance; and who finds an external id finds the same
one exactly if it is for the same group. -/
theorem external_ids_lead_back :
    (∀ i, (ProviderId.forInstance i).instance_ = i) ∧
    (∀ value p, ProviderId.parse? value = some p → p = .forInstance p.instance_) ∧
    ∀ {w : Surroundings Memory} {setup : Setup} {network : NetworkId}
      {past later : List (Moment Memory)} {s s' : Session Memory},
      (∀ m m', w.changes m m' → Memory.Told (fun _ => False) m m') →
      History w (begin setup (Memory.ofNetwork network)) past s →
      ∀ {k : Nat} {x : Standing} {id : NodeGroupId} {p : ProviderId},
      s.standing? k = some x → x.Identifies id p → History w s later s' →
      (∀ n result, (∀ earlier, s.standing? n ≠ some (.tracing p.text (.done earlier))) →
        Unhindered later n → s'.standing? n = some (.tracing p.text (.done result)) →
        ∃ g, result = .ok (some g) ∧ g.id = id ∧ g.instanceId = some p.instance_) ∧
      (∀ n cancelAt, s'.tasks.get? n = some ⟨.findByExternalId p.text, cancelAt, .ready⟩ →
        ∃ s'', s'.step? n = some s'' ∧
          s''.standing? n = some (.tracing p.text (.goOn (.owner p.instance_)))) ∧
      (∀ n q, s'.standing? n = some (.tracing p.text (.goOn q)) → s'.CallActs n →
        ∃ s'' next, s'.step? n = some s'' ∧ s''.standing? n = some (.tracing p.text next) ∧
          FindGroup.Onward id p.instance_ q next) ∧
      ∀ k' x' id' p', s'.standing? k' = some x' → x'.Identifies id' p' → (p' = p ↔ id' = id) := by
  refine ⟨ProviderId.instance_forInstance, fun _ _ => ProviderId.eq_forInstance_of_parse?, ?_⟩
  intro w setup network past later s s' told h k x id p hk identifies h'
  have hassigned := h.assigned told
  obtain ⟨i, rfl, hshown⟩ := h.exists_of_identifies told hk identifies
  have hpaired := hassigned.paired (hassigned.shown id i hshown)
  have hkeeps := h'.keeps told (h.fresh (fresh_begin setup _)) hassigned
  have hlater := hkeeps.shown id i hshown
  rw [ProviderId.instance_forInstance]
  refine ⟨fun n result going unhindered hn => ?_, fun n cancelAt task => ?_,
    fun n q hn acts => ?_, fun k' x' id' p' hk' identifies' => ?_⟩
  · exact h.found_of_tracing told hshown h' going unhindered hn
  · exact exists_step?_of_ready hpaired.ne_empty task
  · have hway := (h.append h').point_of_tracing told hpaired hn
    exact exists_step?_of_callActs hkeeps.assigned hlater hn acts hway
  · obtain ⟨i', rfl, hshown'⟩ := (h.append h').exists_of_identifies told hk' identifies'
    rw [ProviderId.forInstance_inj]
    constructor
    · rintro rfl
      exact Option.some.inj ((hkeeps.assigned.shown id' i' hshown').symm.trans
        (hkeeps.assigned.shown id i' hlater))
    · rintro rfl
      exact Option.some.inj (hshown'.symm.trans hlater)

end

/-- A session in which the group `ng-1` was made and the external id of its node was found. -/
def identified : Session Memory :=
  let s := begin Setup.small (Memory.ofNetwork "network")
  let s := (s.submit (.createGroup smallRequest) none).2.runTasks 20 [0] [0] false
  (s.submit (.resolveId "ng-1") none).2.runTasks 20 [1] [1] false

/-- The session after so many steps of a task that searches for the group by the external id. -/
def traced : Nat → Session Memory
  | 0 => (identified.submit (.findByExternalId "yandex://inst-1") none).2
  | steps + 1 => ((traced steps).step? 2).getD (traced steps)

/-- The group is found by the external id of its node. -/
theorem group_of_identified :
    ∃ past later g, History ⟨fun _ => True, fun _ _ => False⟩
        (begin Setup.small (Memory.ofNetwork "network")) past identified ∧
      identified.standing? 1 = some ⟨.resolveId "ng-1", .done (.ok ⟨"yandex://inst-1"⟩)⟩ ∧
      History ⟨fun _ => True, fun _ _ => False⟩ identified later (traced 3) ∧
      Unhindered later 2 ∧
      (traced 3).standing? 2 = some (.tracing "yandex://inst-1" (.done (.ok (some g)))) ∧
      g.id = "ng-1" ∧ g.instanceId = some "inst-1" := by
  have h : History ⟨fun _ => True, fun _ _ => False⟩
      (begin Setup.small (Memory.ofNetwork "network")) [] _ := .start
  obtain ⟨_, h⟩ := (h.go (.submit (j := .createGroup smallRequest) none trivial)).runTasks
    20 [0] [0] false
  obtain ⟨past, h⟩ := (h.go (.submit (j := .resolveId "ng-1") none trivial)).runTasks
    20 [1] [1] false
  have hresolved : identified.standing? 1 =
      some ⟨.resolveId "ng-1", .done (.ok ⟨"yandex://inst-1"⟩)⟩ := rfl
  have hstep (steps : Nat) (taken : ((traced steps).step? 2).isSome = true) :
      Move ⟨fun _ => True, fun _ _ => False⟩ (traced steps) (.stepped 2) (traced (steps + 1)) := by
    obtain ⟨s', hs'⟩ := Option.isSome_iff_exists.1 taken
    refine .step ?_
    rw [traced, hs', Option.getD_some]
  have h' : History ⟨fun _ => True, fun _ _ => False⟩ identified _ (traced 3) :=
    (((History.start.go (.submit (j := .findByExternalId "yandex://inst-1") none trivial)).go
      (hstep 0 rfl)).go (hstep 1 rfl)).go (hstep 2 rfl)
  have hunhindered : Unhindered
      [⟨traced 2, .stepped 2, traced 3⟩, ⟨traced 1, .stepped 2, traced 2⟩,
        ⟨traced 0, .stepped 2, traced 1⟩, ⟨identified, .submitted 2, traced 0⟩] 2 := by
    refine List.forall_mem_cons.2 ⟨fun _ _ => ?_, List.forall_mem_cons.2 ⟨fun _ _ => ?_,
      List.forall_mem_cons.2 ⟨fun _ hwaits => ?_, List.forall_mem_singleton.2 nofun⟩⟩⟩
    · exact ⟨_, _, _, rfl, Nat.le_refl _, rfl⟩
    · exact ⟨_, _, _, rfl, Nat.le_refl _, rfl⟩
    · cases hwaits
  obtain ⟨hfound, -⟩ := external_ids_lead_back.2.2 (fun _ _ => False.elim) h hresolved
    (.resolved "ng-1" ⟨"yandex://inst-1"⟩) h'
  obtain ⟨g, hg, hid, hi⟩ := hfound 2 _ nofun hunhindered rfl
  exact ⟨_, _, g, h, hresolved, h', hunhindered, hg ▸ rfl, hid, hi⟩

end Session

end NodeSupply
