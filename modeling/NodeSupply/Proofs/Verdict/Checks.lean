import NodeSupply.Proofs.Verdict.Calls

/-!
# The checks against a provider that stands still

As long as a provider answers each call the same, the checks of a class come to one end.  A class
passes if it keeps the rules that need no call, the first of the entries for each subnet fits what
the provider says about that subnet, and every security group is there.

## Main definitions

* `Checks.run` : what the checks come to.
* `Checks.Passes` : a class passes.
* `Checks.WellFormed` : the rules that need no call.
* `Checks.IsFirst` : the first of the entries for a subnet.
* `Checks.Fits`, `Checks.Admits` : what is asked of a subnet, and of a security group.

## Main statements

* `Checks.left_lt_of_resume` : every answer brings the end nearer.
* `Checks.passes_iff` : when a class passes.
-/

namespace NodeSupply.Checks

/-- What a provider that stands still answers. -/
abbrev Answers := (r : Request) → r.Outcome

/-! ### The end of the checks -/

/-- More than the number of calls that are left. -/
def Next.left (c : NodeClass) : Next → Nat
  | .verdict _ => 0
  | .ask .subnetNetwork => c.subnets.length + c.securityGroups.length + 3
  | .ask (.subnet _ _ _ rest) => rest.length + c.securityGroups.length + 3
  | .ask .groupNetwork => c.securityGroups.length + 2
  | .ask (.group _ _ rest) => rest.length + 1

theorem left_walkGroups_le (c : NodeClass) (network : NetworkId) (ids : List SecurityGroupId) :
    (walkGroups c network ids).left c ≤ ids.length := by
  cases ids with
  | nil => exact Nat.le_refl 0
  | cons id ids => exact Nat.le_refl _

theorem left_afterSubnets_le (c : NodeClass) :
    (afterSubnets c).left c ≤ c.securityGroups.length + 2 := by
  unfold afterSubnets
  split
  next => exact Nat.zero_le _
  next => exact Nat.le_refl _

theorem left_walkSubnets_lt (c : NodeClass) (network : NetworkId) (seen : List SubnetId)
    (subnets : List ResolvedSubnet) :
    (walkSubnets c network seen subnets).left c < subnets.length + c.securityGroups.length + 3 := by
  induction subnets with
  | nil =>
    have hafter := left_afterSubnets_le c
    rw [walkSubnets, List.length_nil]
    omega
  | cons s rest ih =>
    rw [walkSubnets, List.length_cons]
    split
    next =>
      change 0 < _
      omega
    next =>
      split
      next => omega
      next =>
        change rest.length + c.securityGroups.length + 3 < _
        omega

/-- Every answer brings the end of the checks nearer. -/
theorem left_lt_of_resume {c : NodeClass} {stage : Stage} {answer : stage.request.Outcome}
    {next : Next} (h : resume c stage answer = .ok next) :
    next.left c < (Next.ask stage).left c := by
  rcases broken_or_onward_of_resume h with ⟨v, rfl⟩ | ⟨reply, -, -, rfl⟩
  · cases stage <;> exact Nat.succ_pos _
  · cases stage with
    | subnetNetwork => exact left_walkSubnets_lt c reply [] c.subnets
    | subnet network seen current rest => exact left_walkSubnets_lt c network seen rest
    | groupNetwork =>
      have hgroups := left_walkGroups_le c reply c.securityGroups
      exact Nat.lt_succ_of_le (Nat.le_succ_of_le hgroups)
    | group network current rest => exact Nat.lt_succ_of_le (left_walkGroups_le c network rest)

/-- What the checks come to if a provider that stands still answers their calls. -/
def run (c : NodeClass) (answers : Answers) : Next → Except ProviderError Verdict
  | .verdict v => .ok v
  | .ask stage =>
    match _h : resume c stage (answers stage.request) with
    | .error e => .error e
    | .ok next => run c answers next
termination_by next => next.left c
decreasing_by exact left_lt_of_resume _h

/-- The checks of a class come to a passing verdict from some point on. -/
def Goes (answers : Answers) (c : NodeClass) (next : Next) : Prop :=
  ∃ v, run c answers next = .ok v ∧ v.passed = true

/-- A class passes the checks. -/
def Passes (answers : Answers) (c : NodeClass) : Prop := Goes answers c (begin c)

variable {answers : Answers} {c : NodeClass}

theorem not_goes_broken (v : Violation) : ¬ Goes answers c (.broken v) := by
  rintro ⟨verdict, hrun, hpassed⟩
  rw [Next.broken, run] at hrun
  cases hrun
  rw [Violation.passed_verdict] at hpassed
  cases hpassed

theorem goes_conclude_iff {broken : Option Violation} :
    Goes answers c (.conclude broken) ↔ broken = none := by
  cases broken with
  | none =>
    refine ⟨fun _ => rfl, fun _ => ⟨.success, ?_, rfl⟩⟩
    rw [Next.conclude, run]
    rfl
  | some v => exact ⟨fun h => absurd h (not_goes_broken v), nofun⟩

/-- The checks pass from a call on if its answer keeps the rule about it and they do from there. -/
theorem goes_ask_iff {stage : Stage} : Goes answers c (.ask stage) ↔
    ∃ reply, answers stage.request = .ok reply ∧ stage.rule reply = none ∧
      Goes answers c (stage.onward c reply) := by
  have hresumes : Goes answers c (.ask stage) ↔
      ∃ next, resume c stage (answers stage.request) = .ok next ∧ Goes answers c next := by
    unfold Goes
    rw [run]
    split
    next e h => simp [h]
    next next h => simp [h]
  rw [hresumes]
  constructor
  · rintro ⟨next, hresume, hgoes⟩
    rcases broken_or_onward_of_resume hresume with ⟨v, rfl⟩ | ⟨reply, hreply, hrule, rfl⟩
    · exact absurd hgoes (not_goes_broken v)
    · exact ⟨reply, hreply, hrule, hgoes⟩
  · rintro ⟨reply, hreply, hrule, hgoes⟩
    refine ⟨_, ?_, hgoes⟩
    rw [hreply, resume_ok, hrule]
    rfl

/-! ### Security groups -/

/-- There is a security group of an id in a network. -/
def Admits (answers : Answers) (network : NetworkId) (id : SecurityGroupId) : Prop :=
  ∃ g, answers (.securityGroup id) = .ok g ∧ (g.network = "" ∨ g.network = network)

theorem goes_walkGroups_iff {network : NetworkId} {ids : List SecurityGroupId} :
    Goes answers c (walkGroups c network ids) ↔
      (∀ id ∈ ids, Admits answers network id) ∧ acceleratedNetwork c = none := by
  induction ids with
  | nil => simpa [walkGroups] using goes_conclude_iff
  | cons id ids ih =>
    rw [walkGroups, goes_ask_iff, List.forall_mem_cons, and_assoc, ← ih]
    constructor
    · rintro ⟨reply, hreply, hrule, hgoes⟩
      exact ⟨⟨reply, hreply, groupRule_eq_none_iff.1 hrule⟩, hgoes⟩
    · rintro ⟨⟨reply, hreply, hnetwork⟩, hgoes⟩
      exact ⟨reply, hreply, groupRule_eq_none_iff.2 hnetwork, hgoes⟩

theorem goes_afterSubnets_iff {network : NetworkId} (h : answers .clusterNetwork = .ok network) :
    Goes answers c (afterSubnets c) ↔
      (∀ id ∈ c.securityGroups, Admits answers network id) ∧ acceleratedNetwork c = none := by
  unfold afterSubnets
  split
  next hempty =>
    rw [goes_conclude_iff, List.isEmpty_iff.1 hempty]
    simp
  next =>
    rw [goes_ask_iff, ← goes_walkGroups_iff]
    constructor
    · rintro ⟨reply, hreply, -, hgoes⟩
      obtain rfl : network = reply := Except.ok.inj (h.symm.trans hreply)
      exact hgoes
    · intro hgoes
      exact ⟨network, h, rfl, hgoes⟩

/-! ### Subnets -/

/-- An entry for a subnet fits what the provider says about the subnet. -/
def Fits (answers : Answers) (network : NetworkId) (s : ResolvedSubnet) : Prop :=
  ∃ reported, answers (.subnet s.id) = .ok reported ∧ subnetRule network s reported = none

/-- The first of the entries for a subnet. -/
def IsFirst (subnets : List ResolvedSubnet) (s : ResolvedSubnet) : Prop :=
  subnets.find? (·.id == s.id) = some s

theorem isFirst_cons_iff {a s : ResolvedSubnet} {rest : List ResolvedSubnet} :
    IsFirst (a :: rest) s ↔ a = s ∨ a.id ≠ s.id ∧ IsFirst rest s := by
  unfold IsFirst
  by_cases h : a.id = s.id
  · rw [List.find?_cons_of_pos (by simpa using h)]
    simp [h]
  · have hne : a ≠ s := fun heq => h (congrArg ResolvedSubnet.id heq)
    rw [List.find?_cons_of_neg (by simpa using h)]
    simp [h, hne]

theorem goes_subnet_iff {network : NetworkId} {seen : List SubnetId} {a : ResolvedSubnet}
    {rest : List ResolvedSubnet} : Goes answers c (.ask (.subnet network seen a rest)) ↔
      Fits answers network a ∧ Goes answers c (walkSubnets c network seen rest) := by
  rw [goes_ask_iff]
  constructor
  · rintro ⟨reply, hreply, hrule, hgoes⟩
    exact ⟨⟨reply, hreply, hrule⟩, hgoes⟩
  · rintro ⟨⟨reply, hreply, hrule⟩, hgoes⟩
    exact ⟨reply, hreply, hrule, hgoes⟩

/-- What the walk over the subnets asks for: the entries that it does not pass over. -/
theorem goes_walkSubnets_iff {network : NetworkId} {seen : List SubnetId}
    {subnets : List ResolvedSubnet} : Goes answers c (walkSubnets c network seen subnets) ↔
      (∀ s ∈ subnets, s.id ≠ "") ∧
      (∀ s, s.id ∉ seen → IsFirst subnets s → Fits answers network s) ∧
      Goes answers c (afterSubnets c) := by
  induction subnets generalizing seen with
  | nil => simp [walkSubnets, IsFirst]
  | cons a rest ih =>
    rw [walkSubnets]
    split
    next hempty =>
      constructor
      · intro hgoes
        exact absurd hgoes (not_goes_broken _)
      · rintro ⟨hids, -⟩
        exact absurd hempty (hids a List.mem_cons_self)
    next hid =>
      split
      next hseen =>
        have hmem : a.id ∈ seen := by simpa using hseen
        rw [ih, List.forall_mem_cons]
        constructor
        · rintro ⟨hids, hfits, hafter⟩
          refine ⟨⟨hid, hids⟩, fun s hs hfirst => ?_, hafter⟩
          rcases isFirst_cons_iff.1 hfirst with rfl | ⟨-, hfirst⟩
          · exact absurd hmem hs
          · exact hfits s hs hfirst
        · rintro ⟨⟨-, hids⟩, hfits, hafter⟩
          refine ⟨hids, fun s hs hfirst => hfits s hs ?_, hafter⟩
          exact isFirst_cons_iff.2 (.inr ⟨fun heq => hs (heq ▸ hmem), hfirst⟩)
      next hseen =>
        have hmem : a.id ∉ seen := by simpa using hseen
        rw [goes_subnet_iff, ih, List.forall_mem_cons]
        constructor
        · rintro ⟨hfit, hids, hfits, hafter⟩
          refine ⟨⟨hid, hids⟩, fun s hs hfirst => ?_, hafter⟩
          rcases isFirst_cons_iff.1 hfirst with rfl | ⟨hne, hfirst⟩
          · exact hfit
          · exact hfits s (List.not_mem_cons_of_ne_of_not_mem (Ne.symm hne) hs) hfirst
        · rintro ⟨⟨-, hids⟩, hfits, hafter⟩
          refine ⟨hfits a hmem (isFirst_cons_iff.2 (.inl rfl)), hids, fun s hs hfirst => ?_, hafter⟩
          obtain ⟨hne, hs⟩ := List.ne_and_not_mem_of_not_mem_cons hs
          exact hfits s hs (isFirst_cons_iff.2 (.inr ⟨Ne.symm hne, hfirst⟩))

/-! ### Classes -/

/-- A class keeps the rules that need no call. -/
structure WellFormed (c : NodeClass) : Prop where
  disk : disk c.diskType c.diskSizeBytes = none
  subnets : c.subnets ≠ []
  ids : ∀ s ∈ c.subnets, s.id ≠ ""
  acceleratedNetwork : acceleratedNetwork c = none

/-- A class passes if it is well formed, the first of its entries for each subnet fits, and its
security groups are there. -/
theorem passes_iff : Passes answers c ↔ WellFormed c ∧
    ∃ network, answers .clusterNetwork = .ok network ∧
      (∀ s, IsFirst c.subnets s → Fits answers network s) ∧
      ∀ id ∈ c.securityGroups, Admits answers network id := by
  have hbegin : Passes answers c ↔ disk c.diskType c.diskSizeBytes = none ∧ c.subnets ≠ [] ∧
      ∃ network, answers .clusterNetwork = .ok network ∧
        Goes answers c (walkSubnets c network [] c.subnets) := by
    unfold Passes begin
    split
    next v hdisk => simp [hdisk, not_goes_broken]
    next hdisk =>
      split
      next hempty => simp [List.isEmpty_iff.1 hempty, not_goes_broken]
      next hsome =>
        rw [goes_ask_iff]
        refine ⟨?_, ?_⟩
        · rintro ⟨network, hnetwork, -, hgoes⟩
          exact ⟨hdisk, fun h => hsome (List.isEmpty_iff.2 h), network, hnetwork, hgoes⟩
        · rintro ⟨-, -, network, hnetwork, hgoes⟩
          exact ⟨network, hnetwork, rfl, hgoes⟩
  rw [hbegin]
  constructor
  · rintro ⟨hdisk, hsubnets, network, hnetwork, hgoes⟩
    obtain ⟨hids, hfits, hafter⟩ := goes_walkSubnets_iff.1 hgoes
    obtain ⟨hadmits, haccelerated⟩ := (goes_afterSubnets_iff hnetwork).1 hafter
    exact ⟨⟨hdisk, hsubnets, hids, haccelerated⟩, network, hnetwork,
      fun s => hfits s List.not_mem_nil, hadmits⟩
  · rintro ⟨⟨hdisk, hsubnets, hids, haccelerated⟩, network, hnetwork, hfits, hadmits⟩
    have hafter := (goes_afterSubnets_iff hnetwork).2 ⟨hadmits, haccelerated⟩
    exact ⟨hdisk, hsubnets, network, hnetwork,
      goes_walkSubnets_iff.2 ⟨hids, fun s _ => hfits s, hafter⟩⟩

end NodeSupply.Checks
