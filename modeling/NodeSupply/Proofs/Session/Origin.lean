import NodeSupply.Proofs.Session.InMemory
import NodeSupply.Proofs.Session.Launch
import NodeSupply.Proofs.Verdict.Cache

/-!
# Where a node group came from

A group that the provider has was made by a call of some task, or somebody else put it there.  A
task that launches a node may find a group of its name that was made for another request, and then
describes the node by its own plan nevertheless.  So a launched node is described as it is exactly
if the group was made to the same choice of instance type, zone and capacity type.

## Main definitions

* `Session.Makes` : at a moment a group came to be what it is.
* `LaunchedNode.IsDescribed` : a launched node is what its description says.

## Main statements

* `Session.History.exists_makes` : every group came to be what it is at some moment.
* `Session.History.isDescribed_iff` : when a launched node is what its description says.
-/

namespace NodeSupply

/-- The group of a launched node is what the description of the node says. -/
def LaunchedNode.IsDescribed (node : LaunchedNode) (m : Memory) : Prop :=
  ∃ g, m.nodeGroups.get? node.group = some g ∧ g.shape.name = node.instanceType ∧
    g.zone = some node.zone ∧ (g.discounted = true ↔ node.capacityType = .spot)

/-- A group is what a plan chose. -/
def LaunchPlan.Chose (p : LaunchPlan) (g : NodeGroup) : Prop :=
  g.shape.name = p.selection.instanceType.name ∧ g.zone = some p.selection.offering.zone ∧
    (g.discounted = true ↔ p.selection.offering.capacityType = .spot)

/-- Two plans chose the same instance type, zone and capacity type. -/
def LaunchPlan.Agrees (p q : LaunchPlan) : Prop :=
  p.selection.instanceType.name = q.selection.instanceType.name ∧
    p.selection.offering.zone = q.selection.offering.zone ∧
    p.selection.offering.capacityType = q.selection.offering.capacityType

/-- A node that came of a plan is what its description says if its group is what the plan chose. -/
theorem LaunchPlan.isDescribed_node_iff (p : LaunchPlan) {m : Memory} {group : NodeGroupId}
    {g : NodeGroup} (made : m.made? group = some g) (externalId : ProviderId) :
    (p.node group externalId).IsDescribed m ↔ p.Chose g := by
  obtain ⟨g', hg', rfl⟩ := Option.map_eq_some_iff.1 made
  constructor
  · rintro ⟨g'', hg'', hdescribed⟩
    cases hg'.symm.trans hg''
    exact hdescribed
  · intro hchose
    exact ⟨g', hg', hchose⟩

/-- The group that is made of a plan is what the plan chose. -/
theorem LaunchPlan.chose_of_of {brief : Brief} {c : NodeClass} {r : NodeRequest} {plan : LaunchPlan}
    (h : LaunchPlan.of brief c r = .ok plan) (home : String) (id : NodeGroupId) :
    plan.Chose ((plan.request.spec home).group id) := by
  obtain ⟨candidates, x, subnet, disk, hlist, hselect, -, hselection, hrequest⟩ := exists_of_of h
  obtain ⟨hmem, -⟩ := Selection.exists_of_select hselect
  have hname : x.instanceType.name = x.instanceType.shape.name :=
    (Market.offers_of_mem_list hlist hmem).name
  unfold Chose
  rw [hselection, hrequest, hname]
  refine ⟨rfl, rfl, ?_⟩
  change (x.offering.capacityType == .spot) = true ↔ _
  exact beq_iff_eq

theorem LaunchPlan.Chose.chose_iff_agrees {q : LaunchPlan} {g : NodeGroup} (h : q.Chose g)
    (p : LaunchPlan) : p.Chose g ↔ p.Agrees q := by
  obtain ⟨hname, hzone, hspot⟩ := h
  unfold Chose Agrees
  rw [hname, hzone, hspot]
  cases p.selection.offering.capacityType <;> cases q.selection.offering.capacityType <;>
    simp [eq_comm]

namespace Session

/-- The call that a task waits for. -/
def Standing.request? : Standing → Option Request
  | ⟨j, .goOn p⟩ =>
    match j.awaits p with
    | .call r _ => some r
    | .turn _ | .pause _ => none
  | ⟨_, .done _⟩ => none
  | ⟨_, .crash⟩ => none

/-- At a moment a group came to be what it is: a task made it, or somebody else put it there. -/
def Makes (m : Moment Memory) (id : NodeGroupId) (g : NodeGroup) : Prop :=
  m.after.provider.made? id = some g ∧
    (m.cause = .meddled ∨ ∃ n x spec, m.cause = .stepped n ∧ m.before.standing? n = some x ∧
      x.request? = some (.createNodeGroup spec) ∧ g = spec.group id)

theorem Standing.exists_awaits_of_request? {j : Job} {p : j.Point} {r : Request}
    (h : Standing.request? ⟨j, .goOn p⟩ = some r) : ∃ limit, j.awaits p = .call r limit := by
  unfold Standing.request? at h
  dsimp only at h
  split at h
  next limit hawaits =>
    cases h
    exact ⟨limit, hawaits⟩
  next => cases h
  next => cases h

theorem Standing.request?_of_awaits {j : Job} {p : j.Point} {r : Request} {limit : Limit}
    (h : j.awaits p = .call r limit) : Standing.request? ⟨j, .goOn p⟩ = some r := by
  unfold Standing.request?
  simp only [h]

/-- A move leaves a group as it was, or makes it what it is. -/
theorem Effect.made? {w : Surroundings Memory} {s s' : Session Memory} {c : Cause}
    (effect : Effect w s c s') (keyed : s.provider.Keyed)
    (told : ∀ m m', w.changes m m' → Memory.Told (fun _ => True) m m') :
    s'.provider.Keyed ∧ ∀ id, s'.provider.made? id = s.provider.made? id ∨
      ∃ g, Makes ⟨s, c, s'⟩ id g := by
  cases effect with
  | quiet standing idles =>
    rw [eq_of_idles idles]
    exact ⟨keyed, fun _ => .inl rfl⟩
  | meddled standing changed =>
    obtain ⟨-, hsame | ⟨g, -, hput⟩⟩ := (told _ _ changed).made?
    · rw [Memory.Keyed, hsame]
      exact ⟨keyed, fun _ => .inl rfl⟩
    · refine ⟨hput.keyed keyed rfl, fun id => ?_⟩
      by_cases hid : id = g.id
      · exact .inr ⟨g.made, (hput id).trans (if_pos hid), .inl rfl⟩
      · exact .inl ((hput id).trans (if_neg hid))
  | @arrived n j next provider _ arrives standing provider_eq =>
    have htold : s'.provider.made? = provider.made? := by
      rw [provider_eq]
      exact Memory.made?_congr (nodeGroups_toldNext ..).1
    rw [Memory.Keyed, htold]
    rcases arrives.made? keyed with ⟨hsame, -⟩ | ⟨point, spec, limit, hn, hawaits, rfl⟩
    · rw [hsame]
      exact ⟨keyed, fun _ => .inl rfl⟩
    · have hput := s.provider.put_create spec
      refine ⟨hput.keyed keyed rfl, fun id => ?_⟩
      by_cases hid : id = Memory.newId (s.provider.count + 1)
      · subst hid
        have hmade := (congrFun htold _).trans ((hput _).trans (if_pos rfl))
        have hrequest := Standing.request?_of_awaits hawaits
        exact .inr ⟨_, hmade, .inr ⟨n, _, spec, rfl, hn, hrequest, rfl⟩⟩
      · exact .inl ((hput id).trans (if_neg hid))

/-! ### Histories -/

section

variable {w : Surroundings Memory} {setup : Setup} {network : NetworkId}
  {past : List (Moment Memory)} {s : Session Memory}

theorem History.keyed (told : ∀ m m', w.changes m m' → Memory.Told (fun _ => True) m m')
    (h : History w (begin setup (Memory.ofNetwork network)) past s) : s.provider.Keyed := by
  have hfresh := fresh_begin setup (Memory.ofNetwork network)
  induction h with
  | start => exact nofun
  | go h move ih => exact ((move.effect (h.fresh hfresh)).made? ih told).1

/-- Every group came to be what it is at some moment. -/
theorem History.exists_makes (told : ∀ m m', w.changes m m' → Memory.Told (fun _ => True) m m')
    (h : History w (begin setup (Memory.ofNetwork network)) past s) {id : NodeGroupId}
    {g : NodeGroup} (made : s.provider.made? id = some g) : ∃ m ∈ past, Makes m id g := by
  have hfresh := fresh_begin setup (Memory.ofNetwork network)
  induction h with
  | start => cases made
  | go h move ih =>
    rcases ((move.effect (h.fresh hfresh)).made? (h.keyed told) told).2 id with hsame | ⟨g', hmakes⟩
    · obtain ⟨m, hm, hmakes⟩ := ih (hsame ▸ made)
      exact ⟨m, List.mem_cons_of_mem _ hm, hmakes⟩
    · cases hmakes.1.symm.trans made
      exact ⟨_, List.mem_cons_self, hmakes⟩

/-- A group that was there once is there for good. -/
theorem History.exists_made? (told : ∀ m m', w.changes m m' → Memory.Told (fun _ => True) m m')
    (h : History w (begin setup (Memory.ofNetwork network)) past s) {m : Moment Memory}
    (mem : m ∈ past) {id : NodeGroupId} {g : NodeGroup}
    (made : m.after.provider.made? id = some g) : ∃ g', s.provider.made? id = some g' := by
  have hfresh := fresh_begin setup (Memory.ofNetwork network)
  induction h with
  | start => cases mem
  | go h move ih =>
    rcases List.mem_cons.1 mem with rfl | mem
    · exact ⟨g, made⟩
    · obtain ⟨g', hg'⟩ := ih mem
      rcases ((move.effect (h.fresh hfresh)).made? (h.keyed told) told).2 id with
        hsame | ⟨g'', hmakes⟩
      · exact ⟨g', hsame.trans hg'⟩
      · exact ⟨g'', hmakes.1⟩

/-! ### The groups of launched nodes -/

/-- Where the routine that makes a group succeeds, there is a group of the id that it gives. -/
theorem exists_made?_of_resume {q : Session Memory} (keyed : q.provider.Keyed) {settings : Settings}
    {worker : Worker} {number : Nat} {p : CreateGroup.Point} {hold : Hold Memory p.awaits}
    {answer : p.awaits.Answer} {provider : Memory}
    (looked : q.look worker number p.awaits hold = .finished answer provider) {id : NodeGroupId}
    (next : CreateGroup.resume settings p answer = .done (.ok id)) :
    ∃ g, provider.made? id = some g := by
  have took := took_of_look looked settings
  rw [next] at took
  cases took with
  | found mem name => exact ⟨_, keyed.made?_of_mem_values (List.mem_filter.1 mem).1⟩
  | made r spec => exact ⟨_, (q.provider.put_create spec _).trans (if_pos rfl)⟩

/-- A group that a task knows of was there when it learned of it. -/
theorem History.exists_made?_of_group?
    (told : ∀ m m', w.changes m m' → Memory.Told (fun _ => True) m m')
    (h : History w (begin setup (Memory.ofNetwork network)) past s) {n : Nat} {c : NodeClass}
    {r : NodeRequest} {next : Next Provision.Point Provision.Result} {id : NodeGroupId}
    (hn : s.standing? n = some (.launching c r next)) (group : Provision.group? next = some id) :
    ∃ m ∈ past, ∃ g, m.after.provider.made? id = some g := by
  refine h.standing?_induction (P := fun past _ x => ∀ c r next id, x = .launching c r next →
    Provision.group? next = some id → ∃ m ∈ past, ∃ g, m.after.provider.made? id = some g) rfl
    ?_ ?_ hn c r next id rfl group
  · rintro past m n x hx c r next id rfl hgroup
    obtain ⟨m', hm', hmade⟩ := hx c r next id rfl hgroup
    exact ⟨m', List.mem_cons_of_mem _ hm', hmade⟩
  · intro past s s' n j next provider h arrives provider_eq ih c r next' id hx hgroup
    cases hx
    rcases arrives.exists with ⟨-, rfl, -⟩ | ⟨_, point, hold, _, answer, task, looked, rfl⟩
    · cases (Provision.group?_reconciling _).symm.trans hgroup
    · cases point with
      | reconciling r' q => cases (Provision.group?_reconciling _).symm.trans hgroup
      | resolving plan group q =>
        obtain rfl := Provision.eq_of_group?_resolving hgroup
        obtain ⟨m, hm, hmade⟩ := ih _ (standing?_of_get? task) c r _ _ rfl rfl
        exact ⟨m, List.mem_cons_of_mem _ hm, hmade⟩
      | creating plan q =>
        have hdone := Provision.eq_done_of_group?_creating hgroup
        obtain ⟨g, hg⟩ := exists_made?_of_resume (h.keyed told) looked hdone
        refine ⟨_, List.mem_cons_self, g, ?_⟩
        change s'.provider.made? id = some g
        rw [provider_eq, Memory.made?_congr (nodeGroups_toldNext ..).1]
        exact hg

/-- A group that a launching task made is what its plan chose. -/
theorem History.exists_plan_of_makes (h : History w (begin setup (Memory.ofNetwork network)) past s)
    {m : Moment Memory} (mem : m ∈ past) {id : NodeGroupId} {g : NodeGroup} (makes : Makes m id g)
    {k : Nat} {c : NodeClass} {r : NodeRequest} {next : Next Provision.Point Provision.Result}
    (cause : m.cause = .stepped k) (before : m.before.standing? k = some (.launching c r next)) :
    ∃ plan, LaunchPlan.of (setup.brief k) c r = .ok plan ∧ plan.Chose g := by
  obtain ⟨-, hmeddled | ⟨k', x, spec, hk', hx, hrequest, rfl⟩⟩ := makes
  · cases cause.symm.trans hmeddled
  · cases cause.symm.trans hk'
    cases before.symm.trans hx
    obtain ⟨past', hbefore, -⟩ := h.exists_of_mem mem
    have hfits := hbefore.provision_fits rfl before
    cases next with
    | done result => cases hrequest
    | crash => cases hrequest
    | goOn p =>
      obtain ⟨limit, hasks⟩ := Standing.exists_awaits_of_request? hrequest
      obtain ⟨-, plan, hplan, rfl⟩ := Provision.exists_plan_of_asks hfits hasks
      exact ⟨plan, hplan, LaunchPlan.chose_of_of hplan _ _⟩

/-- A launched node is what its description says exactly if its group was made to the same choice.
The group came to be at some moment; if it was another task that launches a node that made it then,
the choice is that of the plan of that task. -/
theorem History.isDescribed_iff (told : ∀ m m', w.changes m m' → Memory.Told (fun _ => True) m m')
    (h : History w (begin setup (Memory.ofNetwork network)) past s) {n : Nat} {c : NodeClass}
    {r : NodeRequest} {node : LaunchedNode}
    (hn : s.standing? n = some (.launching c r (.done (.ok node)))) :
    ∃ plan g, LaunchPlan.of (setup.brief n) c r = .ok plan ∧
      s.provider.made? node.group = some g ∧
      (∃ m ∈ past, Makes m node.group g) ∧ (node.IsDescribed s.provider ↔ plan.Chose g) ∧
      ∀ m ∈ past, Makes m node.group g → ∀ k c' r' next, m.cause = .stepped k →
        m.before.standing? k = some (.launching c' r' next) →
        ∃ plan', LaunchPlan.of (setup.brief k) c' r' = .ok plan' ∧
          (node.IsDescribed s.provider ↔ plan.Agrees plan') := by
  obtain ⟨plan, hplan, hnode⟩ := h.provision_fits rfl hn
  obtain ⟨m, hm, g₀, hg₀⟩ := h.exists_made?_of_group? told hn rfl
  obtain ⟨g, hg⟩ := h.exists_made? told hm hg₀
  have hdescribed : node.IsDescribed s.provider ↔ plan.Chose g := by
    rw [hnode]
    exact plan.isDescribed_node_iff hg _
  refine ⟨plan, g, hplan, hg, h.exists_makes told hg, hdescribed, ?_⟩
  intro m hm hmakes k c' r' next hcause hbefore
  obtain ⟨plan', hplan', hchose⟩ := h.exists_plan_of_makes hm hmakes hcause hbefore
  exact ⟨plan', hplan', hdescribed.trans (hchose.chose_iff_agrees plan)⟩

end

/-- A node that is asked for in zone `b` is described as if it were there, while the group of its
name was made for a request in zone `a`. -/
theorem second_node_not_described :
    ∃ past s plan g node, History ⟨fun _ => True, Memory.Told fun _ => True⟩
        (begin Setup.small (Memory.ofNetwork "network")) past s ∧
      s.standing? 1 = some (.launching .small (.small "b") (.done (.ok node))) ∧
      LaunchPlan.of (Setup.small.brief 1) .small (.small "b") = .ok plan ∧
      (∃ m ∈ past, Makes m node.group g) ∧ node.zone = "b" ∧ g.zone = some "a" ∧
      ¬ plan.Chose g ∧ ¬ node.IsDescribed s.provider := by
  have hfirst := (exists_plan_of_small 0 "a" "subnet-a" (.head _)).choose_spec.1
  obtain ⟨hsecond, hzone⟩ :=
    (exists_plan_of_small 1 "b" "subnet-b" (.tail _ (.head _))).choose_spec
  have h : History ⟨fun _ => True, Memory.Told fun _ => True⟩
      (begin Setup.small (Memory.ofNetwork "network")) [] _ := .start
  have h := h.go (.submit (j := .provision .small (.small "a")) none trivial)
  have h := h.go (c := .stepped 0) (.step rfl)
  have h := h.go (c := .stepped 0) (.step (step?_reconciling rfl rfl rfl rfl hfirst))
  have h := h.go (c := .stepped 0) (.step rfl)
  have h := h.go (c := .stepped 0) (.step rfl)
  have h := h.go (c := .stepped 0) (.step rfl)
  have h := h.go (c := .stepped 0) (.step rfl)
  have h := h.go (.submit (j := .provision .small (.small "b")) none trivial)
  have h := h.go (c := .stepped 1) (.step rfl)
  have hkept := VerdictCache.get_insert (.empty 8) (Fingerprint.key .small) .success
    (show 0 - 0 < 8 by decide)
  have hreconciled : Reconcile.resume Setup.small.settings 0
      ((VerdictCache.empty 8).insert 0 (Fingerprint.key .small) .success) (.queued .small) () =
      (.done (.ok (Reconcile.outcome Setup.small.settings .success)),
        (VerdictCache.empty 8).insert 0 (Fingerprint.key .small) .success) := by
    simp only [Reconcile.resume, hkept]
  have h := h.go (c := .stepped 1) (.step (step?_reconciling rfl rfl hreconciled rfl hsecond))
  have h := h.go (c := .stepped 1) (.step rfl)
  have h := h.go (c := .stepped 1) (.step rfl)
  have h := h.go (c := .stepped 1) (.step rfl)
  obtain ⟨plan, g, hplan, hmade, hmakes, hiff, -⟩ := h.isDescribed_iff (fun _ _ => id)
    (show standing? _ 1 = some (.launching .small (.small "b") (.done (.ok (LaunchPlan.node
      ⟨_, .small "b" "subnet-b"⟩ "ng-1" ⟨"yandex://inst-1"⟩)))) from rfl)
  have hchosen : plan.selection.offering.zone = "b" := by
    cases hsecond.symm.trans hplan
    exact hzone
  have hold : g.zone = some "a" := by
    have hrecord := congrArg (·.bind NodeGroup.zone) hmade
    exact hrecord.symm.trans rfl
  have hnot : ¬ plan.Chose g := by
    rintro ⟨-, hsame, -⟩
    rw [hold, hchosen] at hsame
    exact absurd hsame (by decide)
  exact ⟨_, _, plan, g, _, h, rfl, hplan, hmakes, hzone, hold, hnot, fun hd => hnot (hiff.1 hd)⟩

end Session

end NodeSupply
