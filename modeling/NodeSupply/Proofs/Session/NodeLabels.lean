import NodeSupply.Proofs.Routine.NodeLabels
import NodeSupply.Proofs.Session.Launch

/-!
# The labels of launched nodes

A task that launches a node asks for a group whose nodes carry the labels of its class, with the
labels of their shape over them.  The requirements of the task allow what the nodes have for the
well-known labels.  What they say of the other labels of the class has no part in what is asked for,
so a class may stamp what they do not allow.

## Main statements

* `Session.History.createNodeGroup_allows` : what the requirements say of what is asked for.
* `Session.disallowed_labels_stamped` : labels of a class that its requirements do not allow.
-/

namespace NodeSupply.Session

variable {σ : Type} [Provider σ] {w : Surroundings σ} {s₀ s : Session σ} {past : List (Moment σ)}

/-- Whatever is asked for, the requirements allow what its nodes have for the well-known labels; the
nodes carry the labels of the class under those of their shape; and what the requirements say of
labels that are neither well-known nor of a shape has no part in the plan. -/
theorem History.createNodeGroup_allows (h : History w s₀ past s) (begins : s₀.tasks = .empty)
    {n : Nat} {c : NodeClass} {r : NodeRequest} {point : Provision.Point} {spec : NodeGroupSpec}
    {limit : Limit} (hn : s.standing? n = some (.launching c r (.goOn point)))
    (asks : point.awaits = .call (.createNodeGroup spec) limit) :
    (∀ label ∈ spec.ownLabels, r.demand.requirements.allows label.1 label.2 = true) ∧
      (∀ key, spec.nodeLabels.get? key =
        ((NodeGroupRequest.shapeLabels spec.shape).get? key).or (c.labels.get? key)) ∧
      ∃ plan, LaunchPlan.of (s₀.setup.brief n) c r = .ok plan ∧
        spec = plan.request.spec s₀.setup.settings.cluster ∧
        ∀ r' : NodeRequest, r'.name = r.name → r'.demand.resources = r.demand.resources →
          (∀ key ∈ Label.wellKnown ++ Label.ofShape,
            r'.demand.requirements.get? key = r.demand.requirements.get? key) →
          LaunchPlan.of (s₀.setup.brief n) c r' = .ok plan := by
  have hfits := h.provision_fits begins hn
  obtain ⟨-, plan, hplan, rfl⟩ := Provision.exists_plan_of_asks hfits asks
  refine ⟨fun label => (LaunchPlan.serves_of_of hplan _).allows, fun key => ?_, plan, hplan, rfl,
    fun r' name resources agree => ?_⟩
  · obtain ⟨_, x, subnet, disk, -, -, -, -, hrequest⟩ := LaunchPlan.exists_of_of hplan
    have hlabels : plan.request.labels = c.labels := by rw [hrequest]
    rw [NodeGroupRequest.get?_nodeLabels, hlabels]
    rfl
  · rw [← hplan]
    exact LaunchPlan.of_congr name resources fun key hkey => agree key (List.mem_append_left _ hkey)

/-! ### A class that stamps what is not allowed -/

/-- A task that launches a node of a small class with some labels gets to asking for its group. -/
theorem exists_creating (labels : SortedMap String String) {r : NodeRequest} {plan : LaunchPlan}
    (hplan : LaunchPlan.of (Setup.small.brief 0) { NodeClass.small with labels } r = .ok plan) :
    ∃ past s limit point, History ⟨fun _ => True, fun _ _ => True⟩
        (begin Setup.small (Memory.ofNetwork "network")) past s ∧
      s.standing? 0 = some (.launching { NodeClass.small with labels } r (.goOn point)) ∧
      point.awaits = .call (.createNodeGroup (plan.request.spec "home")) limit := by
  have h : History ⟨fun _ => True, fun _ _ => True⟩
      (begin Setup.small (Memory.ofNetwork "network")) [] _ := .start
  have h := h.go (.submit (j := .provision { NodeClass.small with labels } r) none trivial)
  have h := h.go (c := .stepped 0) (.step rfl)
  have h := h.go (c := .stepped 0) (.step (step?_reconciling rfl rfl rfl rfl hplan))
  have h := h.go (c := .stepped 0) (.step rfl)
  have h := h.go (c := .stepped 0) (.step rfl)
  exact ⟨_, _, _, _, h, rfl, rfl⟩

/-- Labels of a class, one of them under a well-known key. -/
def teamLabels : SortedMap String String :=
  .ofList [("team", "platform"), (Label.zone, "elsewhere")]

/-- What another team asks for: a node of its own, with four cores, in zone `b`. -/
def teamEntries : List (String × List String) :=
  [("team", ["infra"]), (Label.nodeCpu, ["4"]), (Label.zone, ["b"])]

/-- A request for what the other team asks for. -/
def teamRequest : NodeRequest where
  name := "node"
  demand := ⟨.of teamEntries, ⟨0, 0, 0⟩⟩

theorem nodup_teamEntries : (teamEntries.map (·.1)).Nodup := by decide

/-- What is made is what is made where only the zone is asked for. -/
theorem exists_plan_of_team :
    ∃ x, LaunchPlan.of (Setup.small.brief 0) { NodeClass.small with labels := teamLabels }
        teamRequest = .ok ⟨x, { NodeGroupRequest.small "b" "subnet-b" with labels := teamLabels }⟩ := by
  obtain ⟨x, hx, -⟩ := exists_plan_of_small 0 "b" "subnet-b" (.tail _ (.head _))
  have hothers : ∀ key ∈ Label.wellKnown, "team" ≠ key ∧ Label.nodeCpu ≠ key := by decide
  have hagree : ∀ key ∈ Label.wellKnown, teamRequest.demand.requirements.get? key =
      (NodeRequest.small "b").demand.requirements.get? key := fun key hkey =>
    (Requirements.get?_of_cons_of_ne (hothers key hkey).1).trans
      (Requirements.get?_of_cons_of_ne (hothers key hkey).2)
  have hteam : LaunchPlan.of (Setup.small.brief 0) .small teamRequest =
      LaunchPlan.of (Setup.small.brief 0) .small (.small "b") :=
    LaunchPlan.of_congr rfl rfl hagree
  exact ⟨x, LaunchPlan.of_labels (hteam.trans hx) teamLabels⟩

/-- A group is asked for whose nodes carry a label of the class, a well-known one of the class and
one of their shape that the requirements do not allow. -/
theorem disallowed_labels_stamped :
    ∃ past s spec limit point, History ⟨fun _ => True, fun _ _ => True⟩
        (begin Setup.small (Memory.ofNetwork "network")) past s ∧
      s.standing? 0 = some (.launching { NodeClass.small with labels := teamLabels } teamRequest
        (.goOn point)) ∧
      point.awaits = .call (.createNodeGroup spec) limit ∧
      ∀ label ∈ [("team", "platform"), (Label.zone, "elsewhere"), (Label.nodeCpu, "2")],
        spec.nodeLabels.get? label.1 = some label.2 ∧
          teamRequest.demand.requirements.allows label.1 label.2 = false := by
  obtain ⟨x, hplan⟩ := exists_plan_of_team
  obtain ⟨past, s, limit, point, h, hn, asks⟩ := exists_creating teamLabels hplan
  have hstamped : ∀ label ∈ [("team", "platform"), (Label.zone, "elsewhere"), (Label.nodeCpu, "2")],
      ((NodeGroupRequest.shapeLabels ⟨"standard-v3", .full, 2, 4096⟩).get? label.1).or
        (teamLabels.get? label.1) = some label.2 := by
    decide
  have hrefused : ∀ label ∈ [("team", "platform"), (Label.zone, "elsewhere"), (Label.nodeCpu, "2")],
      ∃ entry ∈ teamEntries, entry.1 = label.1 ∧ label.2 ∉ entry.2 := by
    decide
  refine ⟨past, s, _, limit, point, h, hn, asks, fun label hlabel => ⟨?_, ?_⟩⟩
  · rw [NodeGroupRequest.get?_nodeLabels]
    exact hstamped label hlabel
  · obtain ⟨⟨key, values⟩, hentry, rfl, hvalue⟩ := hrefused label hlabel
    exact Bool.eq_false_iff.2 (mt (Requirements.allows_of nodup_teamEntries hentry).1 hvalue)

/-- What is asked for in zone `b` for the other team is asked for there without a word of teams. -/
theorem createNodeGroup_allows_for_team :
    ∃ past s spec limit point, History ⟨fun _ => True, fun _ _ => True⟩
        (begin Setup.small (Memory.ofNetwork "network")) past s ∧
      s.standing? 0 = some (.launching { NodeClass.small with labels := teamLabels } teamRequest
        (.goOn point)) ∧
      point.awaits = .call (.createNodeGroup spec) limit ∧
      (∀ label ∈ spec.ownLabels, teamRequest.demand.requirements.allows label.1 label.2 = true) ∧
      (∀ key, spec.nodeLabels.get? key =
        ((NodeGroupRequest.shapeLabels spec.shape).get? key).or (teamLabels.get? key)) ∧
      ∃ plan, LaunchPlan.of (Setup.small.brief 0) { NodeClass.small with labels := teamLabels }
          teamRequest = .ok plan ∧
        spec = plan.request.spec "home" ∧
        LaunchPlan.of (Setup.small.brief 0) { NodeClass.small with labels := teamLabels }
          ⟨"node", .of teamEntries.tail, ⟨0, 0, 0⟩⟩ = .ok plan := by
  obtain ⟨x, hplan⟩ := exists_plan_of_team
  obtain ⟨past, s, limit, point, h, hn, asks⟩ := exists_creating teamLabels hplan
  obtain ⟨hown, hlabels, plan, hof, hspec, hsame⟩ := h.createNodeGroup_allows rfl hn asks
  have hothers : ∀ key ∈ Label.wellKnown ++ Label.ofShape, "team" ≠ key := by decide
  exact ⟨past, s, _, limit, point, h, hn, asks, hown, hlabels, plan, hof, hspec,
    hsame _ rfl rfl fun key hkey => (Requirements.get?_of_cons_of_ne (hothers key hkey)).symm⟩

end NodeSupply.Session
