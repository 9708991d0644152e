import NodeSupply.Proofs.Provider.Memory
import NodeSupply.Proofs.Session.Move

/-!
# Sessions over a provider in memory

A look at a call finds that it goes on, that it failed and changed nothing, or that it was answered.
To start a call and to give one up changes no group.

## Main definitions

* `Setup.small`, `Memory.small`, `NodeClass.small`, `NodeRequest.small` : a setup to try things
  in, a provider, a class, and a request.
* `Setup.checked`, `Memory.roomy`, `NodeClass.roomy` : the same with checks that the class passes.
* `Session.ActsOn` : the provider does what a call asks for.
* `CreateGroup.Took` : what the routine that makes a group can do.

## Main statements

* `Session.look_call`, `Session.provider_of_look`, `Session.took_of_look` : what a look finds.
* `Session.nodeGroups_toldNext`, `Session.eq_of_idles` : what changes no group.
* `Session.Arrives.made?` : what a step makes.
-/

namespace NodeSupply

/-- A setup with one shape of one platform, sold in two zones at one price. -/
def Setup.small : Setup where
  settings :=
    { cluster := "home"
      pollInterval := 1
      resolveTimeout := 8
      callTimeout := 2
      requeueAfter := 8
      cacheTtl := 8
      checksDisabled := true }
  market :=
    { catalog := ⟨[⟨"standard-v3", [⟨.full, [2], [2048]⟩], false⟩]⟩
      prices :=
        ⟨.ofList [("standard-v3", ⟨.ofList [(.full, .ofNat 1)], .empty, .ofNat 1, .ofNat 1⟩)],
          fun _ => none⟩
      zones := .ofList ["a", "b"] }
  tieBreaker := .lexical

/-- A provider with one group, which is called `node`. -/
def Memory.small : Memory :=
  (Memory.ofNetwork "network").addNodeGroup (Memory.plainGroup "group" "node" "home" .empty)

/-- A class of nodes that may live in both zones of `Setup.small`. -/
def NodeClass.small : NodeClass :=
  { NodeClass.named "class" with
    diskType := "network-ssd"
    subnets := [⟨"subnet-a", "a", none⟩, ⟨"subnet-b", "b", none⟩]
    subnetsReady := .true }

/-- A request for a node called `node` in a zone. -/
def NodeRequest.small (zone : Zone) : NodeRequest where
  name := "node"
  demand := ⟨.of [(Label.zone, [zone])], ⟨0, 0, 0⟩⟩

/-- The group that `NodeRequest.small` comes to. -/
def NodeGroupRequest.small (zone : Zone) (subnet : SubnetId) : NodeGroupRequest where
  name := "node"
  shape := ⟨"standard-v3", .full, 2, 4096⟩
  zone
  subnet
  discounted := false
  disk := .ssd
  diskSizeBytes := 0
  labels := .empty
  securityGroups := []
  acceleratedNetwork := false

/-- As `Setup.small`, with checks. -/
def Setup.checked : Setup :=
  { Setup.small with settings := { Setup.small.settings with checksDisabled := false } }

/-- A class of nodes that may live in two subnets of one zone of `Setup.checked`. -/
def NodeClass.roomy : NodeClass :=
  { NodeClass.named "class" with
    diskType := "network-ssd"
    diskSizeBytes := .ofNat (4 * mebibyte)
    subnets := [⟨"subnet-a", "a", some 5⟩, ⟨"subnet-b", "a", some 7⟩]
    subnetsReady := .true }

/-- A provider that has the subnets of `NodeClass.roomy`. -/
def Memory.roomy : Memory :=
  ((Memory.ofNetwork "network").addSubnet ⟨"subnet-a", "network", "a"⟩).addSubnet
    ⟨"subnet-b", "network", "a"⟩

/-- All that the routine that makes a group can do when what it waits for is there. -/
inductive CreateGroup.Took (home : String) (m : Memory) :
    Point → Next Point Result → Memory → Prop where
  /-- It goes on to look at the groups. -/
  | queued (r : NodeGroupRequest) : Took home m (.queued r) (.goOn (.listing r)) m
  /-- It finds a group of the name. -/
  | found {r : NodeGroupRequest} {g : NodeGroup}
      (mem : g ∈ m.nodeGroups.values.filter (·.isManagedIn home)) (name : g.name = r.name) :
      Took home m (.listing r) (.done (.ok g.id)) m
  /-- It finds none. -/
  | missing {r : NodeGroupRequest}
      (none : ∀ g ∈ m.nodeGroups.values.filter (·.isManagedIn home), g.name ≠ r.name) :
      Took home m (.listing r) (.goOn (.creating r (r.spec home))) m
  /-- It makes one. -/
  | made (r : NodeGroupRequest) (spec : NodeGroupSpec) :
      Took home m (.creating r spec) (.done (.ok (Memory.newId (m.count + 1)))) (m.create spec).2
  /-- It fails. -/
  | failed (p : Point) (e : LifecycleError) : Took home m p (.done (.error e)) m

namespace Session

/-- The provider does what is asked for: the call is due and is not to fail. -/
def ActsOn (now : Instant) {r : Request} {limit : Limit} : Hold Memory (.call r limit) → Prop
  | .call (pending : Memory.Call) _ => pending.due ≤ now ∧ pending.failure = none

/-- A call that is found to be finished failed and changed nothing, or was acted on. -/
theorem actsOn_of_look {s : Session Memory} {w : Worker} {number : Nat} {r : Request}
    {limit : Limit} {hold : Hold Memory (.call r limit)} {answer : r.Outcome} {provider : Memory}
    (h : s.look w number (.call r limit) hold = .finished answer provider) :
    (∃ e, answer = .error e ∧ provider = s.provider) ∨
      ActsOn s.now hold ∧ (answer, provider) = s.provider.answer r := by
  obtain ⟨pending, deadline, rfl, hlook | ⟨rfl, rfl⟩⟩ := look_call_finished h
  · exact Memory.acts_of_look_eq_finished hlook
  · exact .inl ⟨_, rfl, rfl⟩

theorem look_of_actsOn {s : Session Memory} (w : Worker) (number : Nat) {r : Request}
    {limit : Limit} {hold : Hold Memory (.call r limit)} (acts : ActsOn s.now hold) :
    s.look w number (.call r limit) hold =
      .finished (s.provider.answer r).1 (s.provider.answer r).2 := by
  cases hold with
  | call pending deadline =>
    obtain ⟨hdue, hfailure⟩ := acts
    have hlook : Provider.look s.provider s.now r pending =
        .finished (s.provider.answer r).1 (s.provider.answer r).2 := by
      change Memory.look s.provider s.now r pending = _
      rw [Memory.look, if_neg (Nat.not_lt.2 hdue), hfailure]
    rw [look, hlook]

/-- A call that is found to be finished failed and changed nothing, or was answered. -/
theorem look_call {s : Session Memory} {w : Worker} {number : Nat} {r : Request} {limit : Limit}
    {hold : Hold Memory (.call r limit)} {answer : r.Outcome} {provider : Memory}
    (h : s.look w number (.call r limit) hold = .finished answer provider) :
    (∃ e, answer = .error e ∧ provider = s.provider) ∨
      (answer, provider) = s.provider.answer r :=
  (actsOn_of_look h).imp_right And.right

/-- What is waited for changes the provider only if it is the answer to a call. -/
theorem provider_of_look {s : Session Memory} {w : Worker} {number : Nat} {a : Await}
    {hold : Hold Memory a} {answer : a.Answer} {provider : Memory}
    (h : s.look w number a hold = .finished answer provider) :
    provider = s.provider ∨ ∃ r limit, a = .call r limit ∧ provider = (s.provider.answer r).2 := by
  cases a with
  | call r limit =>
    rcases look_call h with ⟨e, -, hsame⟩ | hanswer
    · exact .inl hsame
    · exact .inr ⟨r, limit, rfl, congrArg Prod.snd hanswer⟩
  | turn gate =>
    cases hold
    rw [look] at h
    split at h <;> cases h
    exact .inl rfl
  | pause d =>
    cases hold
    rw [look] at h
    split at h <;> cases h
    exact .inl rfl

theorem took_of_look {s : Session Memory} {w : Worker} {number : Nat} {p : CreateGroup.Point}
    {hold : Hold Memory p.awaits} {answer : p.awaits.Answer} {provider : Memory}
    (h : s.look w number p.awaits hold = .finished answer provider) (settings : Settings) :
    CreateGroup.Took settings.cluster s.provider p (CreateGroup.resume settings p answer)
      provider := by
  cases p with
  | queued r =>
    rcases provider_of_look h with rfl | ⟨_, _, hawaits, -⟩
    · exact .queued r
    · cases hawaits
  | listing r =>
    rcases look_call h with ⟨e, rfl, rfl⟩ | hanswer
    · exact .failed ..
    · cases hanswer
      simp only [CreateGroup.resume]
      split
      next g hfind =>
        have hname : g.name = r.name := by simpa using List.find?_some hfind
        exact .found (List.mem_of_find?_eq_some hfind) hname
      next hfind =>
        exact .missing fun g hg hname => List.find?_eq_none.1 hfind g hg (by simpa using hname)
  | creating r spec =>
    rcases look_call h with ⟨e, rfl, rfl⟩ | hanswer
    · exact .failed ..
    · cases hanswer
      exact .made r spec

theorem nodeGroups_toldNext (m : Memory) (now : Instant) (j : Job) (next : Next j.Point j.Result) :
    (toldNext m now j next).nodeGroups = m.nodeGroups ∧
      (toldNext m now j next).count = m.count := by
  cases next with
  | done result => exact ⟨rfl, rfl⟩
  | crash => exact ⟨rfl, rfl⟩
  | goOn point =>
    rw [toldNext]
    cases j.awaits point <;> exact ⟨rfl, rfl⟩

/-- A call in memory never goes on in parts, and nothing is lost when it is given up. -/
theorem eq_of_idles {m m' : Memory} (h : Idles m m') : m' = m := by
  cases h with
  | same => rfl
  | abandoned pending => rfl
  | @moved now r pending pending' provider' looked =>
    change Memory.look m now r pending = _ at looked
    unfold Memory.look at looked
    split at looked
    next => cases looked
    next => split at looked <;> cases looked

/-- A step makes the group that its task asked for, or makes none. -/
theorem Arrives.made? {s : Session Memory} (keyed : s.provider.Keyed) {n : Nat} {j : Job}
    {next : Next j.Point j.Result} {provider : Memory} (arrives : Arrives s n j next provider) :
    provider.made? = s.provider.made? ∧ provider.count = s.provider.count ∨
      ∃ point spec limit, s.standing? n = some ⟨j, .goOn point⟩ ∧
        j.awaits point = .call (.createNodeGroup spec) limit ∧
        provider = (s.provider.create spec).2 := by
  rcases arrives.exists with ⟨-, -, rfl⟩ | ⟨_, point, hold, _, answer, task, looked, -⟩
  · exact .inl ⟨rfl, rfl⟩
  · rcases provider_of_look looked with rfl | ⟨r, limit, hawaits, rfl⟩
    · exact .inl ⟨rfl, rfl⟩
    · by_cases hr : ∃ spec, r = .createNodeGroup spec
      · obtain ⟨spec, rfl⟩ := hr
        exact .inr ⟨point, spec, limit, standing?_of_get? task, hawaits, rfl⟩
      · exact .inl (Memory.made?_answer keyed fun spec heq => hr ⟨spec, heq⟩)

/-- The routine that makes a group has just begun, or went on from the point where it stood. -/
theorem Arrives.took {s : Session Memory} {n : Nat} {r : NodeGroupRequest}
    {next : Next CreateGroup.Point CreateGroup.Result} {provider : Memory}
    (arrives : Arrives s n (.createGroup r) next provider) :
    next = .goOn (.queued r) ∧ provider = s.provider ∨
      ∃ p, s.standing? n = some ⟨.createGroup r, .goOn p⟩ ∧
        CreateGroup.Took s.setup.settings.cluster s.provider p next provider := by
  rcases arrives.exists with ⟨-, rfl, rfl⟩ | ⟨_, point, hold, _, answer, task, looked, rfl⟩
  · exact .inl ⟨rfl, rfl⟩
  · exact .inr ⟨point, standing?_of_get? task, took_of_look looked s.setup.settings⟩

end Session

end NodeSupply
