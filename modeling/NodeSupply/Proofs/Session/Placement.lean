import NodeSupply.Proofs.Routine.Passing
import NodeSupply.Proofs.Routine.Placement
import NodeSupply.Proofs.Session.Launch
import NodeSupply.Proofs.Session.Verdicts
import NodeSupply.Proofs.Verdict.Served

/-!
# Placing nodes in a session

A node is placed only after its class got a passing verdict, be it found out or kept.  A kept
verdict may be that on another class of the same key, but whoever launches nodes keeps verdicts that
were found out for a well-formed class; and a class with the same content is well formed as well.
So whatever the provider answers, a task that launches a node finds a place for it where anything
fits at all.

## Main definitions

* `ProvisionError.IsPlacement` : there is no place for a node that was chosen.
* `Session.Vouched` : passing verdicts are kept for well-formed classes only.

## Main statements

* `Session.History.vouched` : the launcher keeps passing verdicts for well-formed classes only.
* `Session.History.wellFormed_of_findsUsable` : classes that are found usable are well formed.
* `Session.placement_after_checks` : nodes find a place, in the roomiest subnet of a zone.
-/

namespace NodeSupply

open Checks (WellFormed)

/-- Offerings cannot be given, or there is no subnet or no disk for the one that was chosen. -/
def ProvisionError.IsPlacement : ProvisionError → Prop
  | offering _ => True
  | noSubnetInZone _ => True
  | diskType _ => True
  | notValidated .. => False
  | validation _ => False
  | selection _ => False
  | lifecycle _ => False

/-! ### Failures of the routine -/

namespace Provision

variable {brief : Brief} {now : Instant} {cache : VerdictCache} {c : NodeClass} {r : NodeRequest}
  {e : ProvisionError}

/-- The routine finds no place only when its class has been found usable and it plans. -/
theorem exists_of_isPlacement_afterReconcile {result : Reconcile.Result}
    (h : afterReconcile brief now c r result = .done (.error e)) (placement : e.IsPlacement) :
    ∃ o, result = .ok o ∧ o.state = .succeeded ∧ LaunchPlan.of brief c r = .error e := by
  unfold afterReconcile at h
  split at h
  next =>
    cases h
    exact placement.elim
  next o =>
    split at h
    next hstate =>
      split at h
      next hplan =>
        cases h
        exact ⟨o, rfl, hstate, hplan⟩
      next => cases h
    next =>
      cases h
      exact placement.elim

theorem not_isPlacement_of_start (h : start brief now c r = .done (.error e)) :
    ¬ e.IsPlacement := by
  intro hplacement
  unfold start at h
  unfold Reconcile.start at h
  split at h
  next o hgate =>
    have hafter : afterReconcile brief now c r (.ok o) = .done (.error e) := h
    obtain ⟨o', ho, hstate, -⟩ := exists_of_isPlacement_afterReconcile hafter hplacement
    cases ho
    exact Reconcile.not_decided_of_dependencyGate hgate (.inl hstate)
  next => cases h

theorem not_isPlacement_of_afterResolve {plan : LaunchPlan} {group : NodeGroupId}
    {next : Next ResolveId.Point ResolveId.Result}
    (h : next.map (.resolving plan group) (afterResolve plan group) = .done (.error e)) :
    ¬ e.IsPlacement := by
  cases next with
  | goOn p => cases h
  | done result =>
    cases result <;> cases h
    exact id
  | crash => cases h

theorem not_isPlacement_of_afterCreate {plan : LaunchPlan}
    {next : Next CreateGroup.Point CreateGroup.Result}
    (h : next.map (.creating plan) (afterCreate brief now plan) = .done (.error e)) :
    ¬ e.IsPlacement := by
  cases next with
  | goOn p => cases h
  | done result =>
    cases result with
    | error cause =>
      cases h
      exact id
    | ok group => exact not_isPlacement_of_afterResolve h
  | crash => cases h

/-- What is known of its class while the routine reconciles it. -/
def Sound : Next Point Result → Prop
  | .goOn (.reconciling _ q) => q.Sound
  | .goOn (.creating ..) => True
  | .goOn (.resolving ..) => True
  | .done _ => True
  | .crash => True

theorem sound_afterReconcile (result : Reconcile.Result) :
    Sound (afterReconcile brief now c r result) := by
  unfold afterReconcile
  split
  next => trivial
  next =>
    split
    next => split <;> trivial
    next => trivial

theorem sound_resolving {plan : LaunchPlan} {group : NodeGroupId}
    (next : Next ResolveId.Point ResolveId.Result) :
    Sound (next.map (.resolving plan group) (afterResolve plan group)) := by
  cases next with
  | goOn p => trivial
  | done result => cases result <;> trivial
  | crash => trivial

theorem sound_start : Sound (start brief now c r) := by
  unfold start
  cases hstart : Reconcile.start brief.settings c with
  | goOn p => exact Reconcile.sound_of_start hstart
  | done result => exact sound_afterReconcile result
  | crash => trivial

theorem sound_resume {p : Point} (h : Sound (.goOn p)) (answer : p.awaits.Answer) :
    Sound (resume brief now cache p answer).1 := by
  cases p with
  | reconciling r' q =>
    change Sound ((Reconcile.resume brief.settings now cache q answer).1.map (.reconciling r')
      (afterReconcile brief now q.nodeClass r'))
    cases hnext : (Reconcile.resume brief.settings now cache q answer).1 with
    | goOn p' => exact Reconcile.sound_of_resume h hnext
    | done result => exact sound_afterReconcile result
    | crash => trivial
  | creating plan p =>
    change Sound ((CreateGroup.resume brief.settings p answer).map (.creating plan)
      (afterCreate brief now plan))
    cases CreateGroup.resume brief.settings p answer with
    | goOn p' => trivial
    | done result =>
      cases result with
      | error e => trivial
      | ok group => exact sound_resolving _
    | crash => trivial
  | resolving plan group p => exact sound_resolving _

theorem exists_of_isPlacement_reconciling {r' : NodeRequest} {q : Reconcile.Point}
    {answer : q.awaits.Answer}
    (h : (resume brief now cache (.reconciling r' q) answer).1 = .done (.error e))
    (placement : e.IsPlacement) :
    ∃ o, (Reconcile.resume brief.settings now cache q answer).1 = .done (.ok o) ∧
      o.state = .succeeded ∧ LaunchPlan.of brief q.nodeClass r' = .error e := by
  change (Reconcile.resume brief.settings now cache q answer).1.map (.reconciling r')
    (afterReconcile brief now q.nodeClass r') = _ at h
  cases hnext : (Reconcile.resume brief.settings now cache q answer).1 with
  | goOn p' =>
    rw [hnext] at h
    cases h
  | done result =>
    rw [hnext] at h
    obtain ⟨o, rfl, hstate, hplan⟩ := exists_of_isPlacement_afterReconcile h placement
    exact ⟨o, rfl, hstate, hplan⟩
  | crash =>
    rw [hnext] at h
    cases h

end Provision

namespace Session

variable {σ : Type} [Provider σ] {w : Surroundings σ} {s₀ s s' : Session σ}
  {past : List (Moment σ)} {setup : Setup} {provider : σ}

/-! ### The verdicts that the launcher keeps -/

/-- Passing verdicts are kept by the launcher only for well-formed classes that nodes are launched
for. -/
def Vouched (s : Session σ) : Prop :=
  ∀ key k, s.launcher.cache.Keeps key k → k.verdict.passed = true →
    ∃ n c r, s.job? n = some (.provision c r) ∧ Fingerprint.key c = key ∧ WellFormed c

/-- Where a task stands that launches a node, what is known of its class holds. -/
theorem History.provision_sound (h : History w s₀ past s) (begins : s₀.tasks = .empty) {n : Nat}
    {c : NodeClass} {r : NodeRequest} {next : Next Provision.Point Provision.Result}
    (hn : s.standing? n = some (.launching c r next)) : Provision.Sound next := by
  refine h.standing?_induction (P := fun _ _ x => ∀ c r next, x = .launching c r next →
    Provision.Sound next) begins (fun _ _ _ hx => hx) ?_ hn c r next rfl
  intro past s s' n j next provider _ arrives _ ih c r next' hx
  cases hx
  rcases arrives.exists with ⟨-, rfl, -⟩ | ⟨_, point, _, _, answer, task, -, rfl⟩
  · exact Provision.sound_start
  · exact Provision.sound_resume (ih _ (standing?_of_get? task) c r _ rfl) answer

/-- With checks the launcher keeps passing verdicts for well-formed classes only. -/
theorem History.vouched (h : History w (begin setup provider) past s)
    (enabled : setup.settings.checksDisabled = false) : Vouched s := by
  induction h with
  | start => exact nofun
  | @go past s s' cause h move ih =>
    have hjobs : ∀ n j, s.job? n = some j → s'.job? n = some j := fun n j hj => by
      rcases move.job? (h.fresh (fresh_begin setup provider)) n with hsame | ⟨hnone, -⟩
      · exact hsame.trans hj
      · cases hnone.symm.trans hj
    intro key k hkeeps hpassed
    have hkept : s.launcher.cache.Keeps key k → ∃ n c r, s'.job? n = some (.provision c r) ∧
        Fingerprint.key c = key ∧ WellFormed c := fun hkeeps => by
      obtain ⟨n, c, r, hjob, hkey, hformed⟩ := ih key k hkeeps hpassed
      exact ⟨n, c, r, hjobs n _ hjob, hkey, hformed⟩
    rcases move.keeps_desk .launcher with hglanced | ⟨n, c, v, hstores⟩ | ⟨hwho, -⟩
    · exact hkept (hkeeps.of_glanced hglanced)
    · obtain ⟨⟨cache, hglanced, hcache⟩, -⟩ :=
        Move.exists_of_stores (m := ⟨s, cause, s'⟩) move hstores
      have hinsert : s'.launcher.cache = cache.insert s.now (Fingerprint.key c) v := hcache
      rw [hinsert] at hkeeps
      rcases hkeeps.of_insert (Fingerprint.owner?_key c) with ⟨rfl, rfl⟩ | ⟨hkeeps, -⟩
      · obtain ⟨-, q, hold, answer, provider', hreconciling, -, rfl, hfinds⟩ := hstores
        cases hreconciling with
        | @launching _ r r' _ _ _ _ task =>
          have hstanding := standing?_of_get? task
          obtain ⟨-, rfl⟩ := h.provision_fits rfl hstanding
          have hsetup : s.setup = setup := h.setup
          have hformed := Reconcile.wellFormed_of_finds (hsetup ▸ enabled)
            (h.provision_sound rfl hstanding) hfinds hpassed
          exact ⟨n, _, r, hjobs n _ (job?_of_standing? hstanding), rfl, hformed⟩
      · exact hkept (hkeeps.of_glanced hglanced)
    · cases hwho

/-! ### Places -/

/-- No two of the classes that nodes are launched for have different content with one digest. -/
def Uncollided (s : Session σ) : Prop :=
  ∀ n n' c c' r r', s.job? n = some (.provision c r) → s.job? n' = some (.provision c' r') →
    Sha256.Uncollided (Fingerprint.content c).document (Fingerprint.content c').document

/-- A passing verdict that is found out or found among those that the launcher keeps is one on a
well-formed class. -/
theorem Vouched.wellFormed (vouched : Vouched s) (enabled : s.setup.settings.checksDisabled = false)
    (uncollided : s.Uncollided) {n : Nat} {r : NodeRequest} {q : Reconcile.Point}
    (job : s.job? n = some (.provision q.nodeClass r)) (sound : q.Sound)
    {answer : q.awaits.Answer} {o : ClassOutcome}
    (reconciled : (Reconcile.resume s.setup.settings s.now s.launcher.cache q answer).1 =
      .done (.ok o)) (succeeded : o.state = .succeeded) : WellFormed q.nodeClass := by
  have hpassed : ∀ {v : Verdict}, o = Reconcile.outcome s.setup.settings v → v.passed = true := by
    rintro v rfl
    cases hv : v.passed with
    | true => rfl
    | false => simp [Reconcile.outcome, hv] at succeeded
  rcases Reconcile.finds_or_glanced s.setup.settings s.now s.launcher.cache q answer with
    ⟨v, hfinds⟩ | ⟨-, hkept⟩
  · obtain ⟨cache, -, hresume⟩ := Reconcile.resume_of_finds hfinds
    rw [hresume] at reconciled
    cases reconciled
    exact Reconcile.wellFormed_of_finds enabled sound hfinds (hpassed rfl)
  · obtain ⟨v, hget, ho⟩ := hkept o reconciled
    obtain ⟨k, hkeeps, -, rfl⟩ := VerdictCache.get_eq_some_iff.1 hget
    obtain ⟨n', c', r', hjob', hkey, hformed⟩ := vouched _ k hkeeps (hpassed ho)
    obtain ⟨-, hcontent⟩ := Fingerprint.eq_of_key_eq (uncollided _ _ _ _ _ _ hjob' job) hkey
    exact hformed.of_content_eq hcontent

/-- A class that is found usable is well formed. -/
theorem History.wellFormed_of_findsUsable (h : History w (begin setup provider) past s)
    (enabled : setup.settings.checksDisabled = false) (uncollided : s.Uncollided) {m : Moment σ}
    (mem : m ∈ past) {n : Nat} {c : NodeClass} (usable : FindsUsable m n c) : WellFormed c := by
  obtain ⟨before, hbefore, -⟩ := h.exists_of_mem mem
  obtain ⟨-, r, cancelAt, q, hold, slot, answer, provider', o, task, -, rfl, hresume, hstate⟩ :=
    usable
  have hstanding := standing?_of_get? task
  have hearlier : m.before.Uncollided := fun _ _ _ _ _ _ hjob hjob' =>
    uncollided _ _ _ _ _ _ (h.job?_of_mem (fresh_begin setup provider) mem hjob)
      (h.job?_of_mem (fresh_begin setup provider) mem hjob')
  have hsetup : m.before.setup = setup := hbefore.setup
  exact (hbefore.vouched enabled).wellFormed (hsetup ▸ enabled) hearlier
    (job?_of_standing? hstanding) (hbefore.provision_sound rfl hstanding) hresume hstate

/-- A task that launches a node comes to no plan only if nothing fits its demand, once its class was
found usable. -/
theorem History.exists_of_isPlacement (h : History w s₀ past s) (begins : s₀.tasks = .empty)
    {n : Nat} {c : NodeClass} {r : NodeRequest} {e : ProvisionError}
    (hn : s.standing? n = some (.launching c r (.done (.error e)))) (placement : e.IsPlacement) :
    (∃ m ∈ past, FindsUsable m n c) ∧ LaunchPlan.of (s₀.setup.brief n) c r = .error e := by
  obtain ⟨later, m, earlier, provider, rfl, hcause, -, harrives⟩ := h.exists_arrives begins hn
  obtain ⟨hearlier, -⟩ := h.of_append
  have hsetup : m.before.setup = s₀.setup := hearlier.setup
  rcases harrives.exists with
    ⟨-, hnext, -⟩ | ⟨cancelAt, point, hold, slot, answer, task, looked, hnext⟩
  · exact absurd placement (Provision.not_isPlacement_of_start hnext.symm)
  · cases point with
    | creating plan p =>
      exact absurd placement (Provision.not_isPlacement_of_afterCreate hnext.symm)
    | resolving plan group p =>
      exact absurd placement (Provision.not_isPlacement_of_afterResolve hnext.symm)
    | reconciling r' q =>
      obtain ⟨rfl, rfl⟩ := hearlier.provision_fits begins (standing?_of_get? task)
      obtain ⟨o, hresume, hstate, hplan⟩ :=
        Provision.exists_of_isPlacement_reconciling hnext.symm placement
      exact ⟨⟨m, List.mem_append_right _ List.mem_cons_self, hcause, _, cancelAt, q, hold, slot,
        answer, provider, o, task, looked, rfl, hresume, hstate⟩, hsetup ▸ hplan⟩

/-- With checks, whatever the provider answers, a task that launches a node finds a place for it:
what it asks for is in the roomiest subnet of its zone, which is not known to be full, and is what
the same class with its subnets in any other order leads to. -/
theorem placement_after_checks (h : History w (begin setup provider) past s)
    (enabled : setup.settings.checksDisabled = false) (uncollided : s.Uncollided) :
    (∀ n c r e, s.standing? n = some (.launching c r (.done (.error e))) → ¬ e.IsPlacement) ∧
    ∀ n c r point spec limit, s.standing? n = some (.launching c r (.goOn point)) →
      point.awaits = .call (.createNodeGroup spec) limit →
      spec.Placed c ∧ ∀ subnets : List ResolvedSubnet, subnets.Perm c.subnets →
        ∃ plan, LaunchPlan.of (setup.brief n) { c with subnets } r = .ok plan ∧
          spec = plan.request.spec setup.settings.cluster := by
  constructor
  · intro n c r e hn hplacement
    obtain ⟨⟨m, hm, husable⟩, hplan⟩ := h.exists_of_isPlacement rfl hn hplacement
    have hformed := h.wellFormed_of_findsUsable enabled uncollided hm husable
    obtain ⟨cause, rfl⟩ := LaunchPlan.eq_selection_of_error hformed hplan
    exact hplacement
  · intro n c r point spec limit hn hasks
    obtain ⟨hpassed, plan, hplan, rfl⟩ :=
      Provision.exists_plan_of_asks (h.provision_fits rfl hn) hasks
    obtain ⟨m, hm, husable⟩ := h.exists_findsUsable rfl hn hpassed
    have hformed := h.wellFormed_of_findsUsable enabled uncollided hm husable
    refine ⟨LaunchPlan.placed_of_of hformed hplan _, fun subnets hperm => ⟨plan, ?_, rfl⟩⟩
    rw [LaunchPlan.of_perm hperm]
    exact hplan

/-! ### A small run -/

/-- Of the two subnets of `NodeClass.roomy` a plan takes the one with more free addresses. -/
theorem exists_plan_of_roomy :
    ∃ plan, LaunchPlan.of (Setup.checked.brief 0) .roomy (.small "a") = .ok plan ∧
      plan.request.subnet = "subnet-b" := by
  have hplatforms : Setup.checked.market.catalog.platforms =
      [⟨"standard-v3", [⟨.full, [2], [2048]⟩], false⟩] := rfl
  have hmarket : Setup.checked.market.zones = ⟨["a", "b"], by decide⟩ := zones_small
  have hsubnets : SortedSet.ofList (NodeClass.roomy.subnets.map (·.zone)) =
      ⟨["a"], by decide⟩ := by
    refine SortedSet.eq_of_mem_iff fun zone => ?_
    simp [SortedSet.mem_ofList, NodeClass.roomy]
  refine ⟨?_, ?_, ?_⟩
  rotate_left
  · simp only [LaunchPlan.of, Market.list, Market.build, Market.sortTypes, InstanceType.ofShape,
      InstanceType.resolve, InstanceType.wantedCapacityTypes, InstanceType.capacityTypes,
      Selection.select, Selection.eligible, Requirements.of, Setup.market_brief, hplatforms,
      hmarket, shapes_small, hsubnets, fits_small, SortedSet.ofList_singleton, List.mapM_cons,
      List.mapM_nil, List.map_cons, List.map_nil]
    simp [NodeClass.roomy, NodeClass.named, NodeClass.allowsFraction, NodeRequest.small,
      Requirements.of, SortedSet.ofList_singleton]
    rfl
  · rfl

/-- A task that asks for a group in the roomier of two subnets, once its class has passed the
checks. -/
theorem placement_in_roomier_subnet : ∃ past s spec limit point,
    History ⟨fun j => j = .provision .roomy (.small "a"), fun _ _ => True⟩
        (begin Setup.checked Memory.roomy) past s ∧
      s.standing? 0 = some (.launching .roomy (.small "a") (.goOn point)) ∧
      point.awaits = .call (.createNodeGroup spec) limit ∧ spec.Placed .roomy ∧
      spec.subnet = "subnet-b" := by
  have hplan := exists_plan_of_roomy.choose_spec.1
  have h : History ⟨fun j => j = .provision .roomy (.small "a"), fun _ _ => True⟩
      (begin Setup.checked Memory.roomy) [] _ := .start
  have h := h.go (.submit (j := .provision .roomy (.small "a")) none rfl)
  have h := h.go (c := .stepped 0) (.step rfl)
  have h := h.go (c := .stepped 0) (.step rfl)
  have h := h.go (c := .stepped 0) (.step rfl)
  have h := h.go (c := .stepped 0) (.step rfl)
  have hchecked : Reconcile.resume (Setup.checked.brief 0).settings 0 (.empty 8)
      (.checking .roomy (.subnet "network" ["subnet-b", "subnet-a"] ⟨"subnet-b", "a", some 7⟩ []))
      (.ok ⟨"subnet-b", "network", "a"⟩) =
        (.done (.ok (Reconcile.outcome Setup.checked.settings .success)), _) := rfl
  have hresume : Provision.resume (Setup.checked.brief 0) 0 _ (.reconciling (.small "a") _) _ = _ :=
    Provision.resume_of_succeeded hchecked rfl hplan
  have h := h.go (c := .stepped 0)
    (.step (step?_of_look (j := .provision .roomy (.small "a")) rfl rfl hresume))
  have h := h.go (c := .stepped 0) (.step rfl)
  have h := h.go (c := .stepped 0) (.step rfl)
  refine ⟨_, _, _, _, _, h, rfl, rfl, ?_, ?_⟩
  · refine ((placement_after_checks h rfl ?_).2 0 .roomy (.small "a") _ _ _ rfl rfl).1
    intro n n' c c' r r' hn hn'
    cases h.asked rfl hn
    cases h.asked rfl hn'
    exact fun _ => rfl
  · exact exists_plan_of_roomy.choose_spec.2

end Session

end NodeSupply
