import NodeSupply.Proofs.Routine.Provision
import NodeSupply.Proofs.Session.History
import NodeSupply.Proofs.Session.InMemory

/-!
# Launching nodes in a session

Whatever else goes on in a session, and whatever the provider answers, a task that launches a node
goes on from what it knows: there is a plan once its class was found usable, and from then on the
task does what the plan says.

## Main definitions

* `Session.FindsUsable` : a moment at which a task gets a passing verdict.

## Main statements

* `Session.History.provision_fits` : what is known of the plan of a task.
* `Session.History.createNodeGroup_serves` : what a task asks for serves its class and its demand.
-/

namespace NodeSupply.Session

variable {σ : Type} [Provider σ] {w : Surroundings σ} {s₀ s : Session σ} {past : List (Moment σ)}

/-- How far a task has come that launches a node. -/
abbrev Standing.launching (c : NodeClass) (r : NodeRequest)
    (next : Next Provision.Point Provision.Result) : Standing where
  job := .provision c r
  next

/-- At a moment a task that launches a node reconciled its class, with a passing verdict. -/
def FindsUsable (m : Moment σ) (number : Nat) (c : NodeClass) : Prop :=
  m.cause = .stepped number ∧
    ∃ r cancelAt q hold slot answer provider o,
      m.before.tasks.get? number =
        some ⟨.provision c r, cancelAt, .waiting (Provision.Point.reconciling r q) hold slot⟩ ∧
      m.before.look .launcher number q.awaits hold = .finished answer provider ∧
      q.nodeClass = c ∧
      (Reconcile.resume m.before.setup.settings m.before.now m.before.launcher.cache q answer).1 =
        .done (.ok o) ∧
      o.state = .succeeded

/-- Where a task stands that launches a node, what is known of its plan holds. -/
theorem History.provision_fits (h : History w s₀ past s) (begins : s₀.tasks = .empty) {n : Nat}
    {c : NodeClass} {r : NodeRequest} {next : Next Provision.Point Provision.Result}
    (hn : s.standing? n = some (.launching c r next)) :
    Provision.Fits (s₀.setup.brief n) c r next := by
  refine h.standing?_induction (P := fun _ n x => ∀ c r next, x = .launching c r next →
    Provision.Fits (s₀.setup.brief n) c r next) begins (fun _ _ _ hx => hx) ?_ hn c r next rfl
  intro past s s' n j next provider h arrives _ ih c r next' hx
  cases hx
  rw [← h.setup]
  rcases arrives.exists with ⟨-, rfl, -⟩ | ⟨_, point, hold, _, answer, task, -, rfl⟩
  · exact Provision.fits_start
  · have hfits := ih _ (standing?_of_get? task) c r _ rfl
    rw [← h.setup] at hfits
    exact Provision.fits_resume hfits answer

/-- A task that has a plan has found its class usable. -/
theorem History.exists_findsUsable (h : History w s₀ past s) (begins : s₀.tasks = .empty) {n : Nat}
    {c : NodeClass} {r : NodeRequest} {next : Next Provision.Point Provision.Result}
    (hn : s.standing? n = some (.launching c r next)) (passed : Provision.Passed next) :
    ∃ m ∈ past, FindsUsable m n c := by
  refine h.standing?_induction (P := fun past n x => ∀ c r next, x = .launching c r next →
    Provision.Passed next → ∃ m ∈ past, FindsUsable m n c) begins ?_ ?_ hn c r next rfl passed
  · rintro past m n x hx c r next rfl hpassed
    obtain ⟨m', hm', husable⟩ := hx c r next rfl hpassed
    exact ⟨m', List.mem_cons_of_mem _ hm', husable⟩
  · intro past s s' n j next provider h arrives _ ih c r next' hx hpassed
    cases hx
    rcases arrives.exists with ⟨-, rfl, -⟩ | ⟨_, point, hold, _, answer, task, looked, rfl⟩
    · exact absurd hpassed Provision.not_passed_start
    · have hstanding := standing?_of_get? task
      by_cases hbefore : Provision.Passed (.goOn point)
      · obtain ⟨m, hm, husable⟩ := ih _ hstanding c r _ rfl hbefore
        exact ⟨m, List.mem_cons_of_mem _ hm, husable⟩
      · cases point with
        | creating plan q => exact absurd trivial hbefore
        | resolving plan group q => exact absurd trivial hbefore
        | reconciling r' q =>
          obtain ⟨rfl, hclass⟩ := h.provision_fits begins hstanding
          obtain ⟨o, houtcome, hstate⟩ := Provision.exists_of_passed_resume hpassed
          exact ⟨_, List.mem_cons_self, rfl, r', _, q, hold, _, answer, _, o, task, looked, hclass,
            houtcome, hstate⟩

/-- Whatever is asked for comes after a passing verdict on the class, and serves the class and the
demand. -/
theorem History.createNodeGroup_serves (h : History w s₀ past s) (begins : s₀.tasks = .empty)
    {n : Nat} {c : NodeClass} {r : NodeRequest} {point : Provision.Point} {spec : NodeGroupSpec}
    {limit : Limit} (hn : s.standing? n = some (.launching c r (.goOn point)))
    (asks : point.awaits = .call (.createNodeGroup spec) limit) :
    (∃ m ∈ past, FindsUsable m n c) ∧ spec.Serves s₀.setup.market c r.demand := by
  have hfits := h.provision_fits begins hn
  obtain ⟨hpassed, plan, hplan, rfl⟩ := Provision.exists_plan_of_asks hfits asks
  exact ⟨h.exists_findsUsable begins hn hpassed, LaunchPlan.serves_of_of hplan _⟩

/-! ### A small run -/

/-! Sets are sorted by a recursion that does not compute by itself, so those of `Setup.small` are
written out first. -/

theorem shapes_small : Platform.shapes ⟨"standard-v3", [⟨.full, [2], [2048]⟩], false⟩ =
    ⟨[⟨"standard-v3", .full, 2, 4096⟩], List.pairwise_singleton ..⟩ :=
  SortedSet.ofList_of_ascending _

theorem zones_small : SortedSet.ofList ["a", "b"] = ⟨["a", "b"], by decide⟩ :=
  SortedSet.ofList_of_ascending _

theorem fits_small (zone : Zone) : Selection.fits (NodeRequest.small zone).demand = fun o =>
    o.available && o.price.isSome && Requirements.compatible
      (.ofList [(Label.zone, ⟨[o.zone], List.pairwise_singleton ..⟩),
        (Label.capacityType, ⟨[o.capacityType.label], List.pairwise_singleton ..⟩)])
      (.ofList [(Label.zone, ⟨[zone], List.pairwise_singleton ..⟩)]) := by
  funext o
  simp [Selection.fits, Offering.requirements, NodeRequest.small, Requirements.of,
    SortedSet.ofList_singleton]

/-- What `NodeRequest.small` comes to in a zone of `NodeClass.small`. -/
theorem exists_plan_of_small (number : Nat) (zone : Zone) (subnet : SubnetId)
    (mem : ⟨subnet, zone, none⟩ ∈ NodeClass.small.subnets) :
    ∃ x, LaunchPlan.of (Setup.small.brief number) .small (.small zone) =
        .ok ⟨x, .small zone subnet⟩ ∧
      x.offering.zone = zone := by
  have hplatforms : Setup.small.market.catalog.platforms =
      [⟨"standard-v3", [⟨.full, [2], [2048]⟩], false⟩] := rfl
  have hmarket : Setup.small.market.zones = ⟨["a", "b"], by decide⟩ := zones_small
  have hsubnets : NodeClass.small.subnets.map (·.zone) = ["a", "b"] := rfl
  have hzone : zone = "a" ∧ subnet = "subnet-a" ∨ zone = "b" ∧ subnet = "subnet-b" := by
    simpa [NodeClass.small, and_comm] using mem
  rcases hzone with ⟨rfl, rfl⟩ | ⟨rfl, rfl⟩
  all_goals
    refine ⟨?_, ?_, ?_⟩
    rotate_left
    · simp only [LaunchPlan.of, Market.list, Market.build, Market.sortTypes, InstanceType.ofShape,
        InstanceType.resolve, InstanceType.wantedCapacityTypes, InstanceType.capacityTypes,
        Selection.select, Selection.eligible, Requirements.of, Setup.market_brief, hplatforms,
        hmarket, shapes_small, hsubnets, zones_small, fits_small, SortedSet.ofList_singleton,
        List.mapM_cons, List.mapM_nil, List.map_cons, List.map_nil]
      simp [NodeClass.small, NodeClass.named, NodeClass.allowsFraction, NodeRequest.small,
        Requirements.of, SortedSet.ofList_singleton]
      rfl
    · rfl

/-- A task that gets its turn to reconcile a class, and finds it usable, goes on to making the group
of its plan. -/
theorem step?_reconciling {n : Nat} {c : NodeClass} {r : NodeRequest} {cancelAt : Option Instant}
    {place : Nat} {slot : Option Nat} {o : ClassOutcome} {cache : VerdictCache} {plan : LaunchPlan}
    (task : s.tasks.get? n = some ⟨.provision c r, cancelAt,
      .waiting (Provision.Point.reconciling r (.queued c)) (.turn place) slot⟩)
    (turn : s.launcher.locks.isHeldBy place n = true)
    (reconciled : Reconcile.resume s.setup.settings s.now s.launcher.cache (.queued c) () =
      (.done (.ok o), cache))
    (succeeded : o.state = .succeeded) (known : LaunchPlan.of (s.setup.brief n) c r = .ok plan) :
    s.step? n = some ((s.keepCache .launcher cache).proceed n (.provision c r) cancelAt slot
      (.goOn (Provision.Point.creating plan (.queued plan.request)))) := by
  have hlook : s.look .launcher n (.turn (.verdict (Fingerprint.key c))) (.turn place) =
      .finished () s.provider := by
    rw [look]
    exact if_pos turn
  have hresume : Provision.resume (s.setup.brief n) s.now s.launcher.cache
      (.reconciling r (.queued c)) () =
        (.goOn (.creating plan (.queued plan.request)), cache) :=
    Provision.resume_of_succeeded reconciled succeeded known
  exact step?_of_look (j := .provision c r) task hlook hresume

/-- A task that asks for a group in zone `b`, as its request wants it. -/
theorem createNodeGroup_serves_in_zone :
    ∃ past s spec limit point, History ⟨fun _ => True, fun _ _ => True⟩
        (begin Setup.small (Memory.ofNetwork "network")) past s ∧
      s.standing? 0 = some (.launching .small (.small "b") (.goOn point)) ∧
      point.awaits = .call (.createNodeGroup spec) limit ∧
      (∃ m ∈ past, FindsUsable m 0 .small) ∧ spec.zone = "b" ∧
      spec.Serves Setup.small.market .small (NodeRequest.small "b").demand := by
  have hplan := (exists_plan_of_small 0 "b" "subnet-b" (.tail _ (.head _))).choose_spec.1
  have h : History ⟨fun _ => True, fun _ _ => True⟩
      (begin Setup.small (Memory.ofNetwork "network")) [] _ := .start
  have h := h.go (.submit (j := .provision .small (.small "b")) none trivial)
  have h := h.go (c := .stepped 0) (.step rfl)
  have h := h.go (c := .stepped 0) (.step (step?_reconciling rfl rfl rfl rfl hplan))
  have h := h.go (c := .stepped 0) (.step rfl)
  have h := h.go (c := .stepped 0) (.step rfl)
  obtain ⟨husable, hserves⟩ :=
    h.createNodeGroup_serves rfl (n := 0) (c := .small) (r := .small "b") rfl rfl
  exact ⟨_, _, _, _, _, h, rfl, rfl, husable, rfl, hserves⟩

end NodeSupply.Session
