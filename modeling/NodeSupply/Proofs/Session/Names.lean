import NodeSupply.Proofs.Routine.GroupRequest
import NodeSupply.Proofs.Session.InMemory
import NodeSupply.Proofs.Session.Turns

/-!
# One group of a name

The routine that makes a node group looks whether there is one of its name, and only then makes it;
these are two calls, and other tasks go on between them.  It holds the gate of the name all the
while, so no group of the name can appear in between, and there is never more than one.

## Main definitions

* `Session.alone` : the surroundings in which only the routine makes groups of the cluster.
* `CreateGroup.Fits` : what is known of the groups where the routine stands.
* `Session.Single` : the groups have names of their own, and every task that makes one fits them.

## Main statements

* `Session.Effect.single` : every move keeps a session so.
* `Session.one_group_of_name` : what the routine promises, after any history.
-/

namespace NodeSupply

/-- What is known of the groups where the routine stands that makes one for a request. -/
def CreateGroup.Fits (home : String) (m : Memory) (r : NodeGroupRequest) :
    Next CreateGroup.Point CreateGroup.Result → Prop
  | .goOn (.queued r') => r' = r
  | .goOn (.listing r') => r' = r
  | .goOn (.creating r' spec) => r' = r ∧ spec = r.spec home ∧ ∀ id, ¬ m.Names home r.name id
  | .done (.ok id) => m.Names home r.name id
  | .done (.error _) => True
  | .crash => True

theorem CreateGroup.Fits.congr {home : String} {m m' : Memory} {r : NodeGroupRequest}
    {next : Next CreateGroup.Point CreateGroup.Result}
    (names : ∀ name id, m'.Names home name id ↔ m.Names home name id) (h : Fits home m r next) :
    Fits home m' r next := by
  unfold Fits at h ⊢
  split <;> simp_all

/-- A group of another name does not concern a routine that is about to make one. -/
theorem CreateGroup.Fits.create {home name : String} {id : NodeGroupId} {m m' : Memory}
    {r : NodeGroupRequest} {next : Next CreateGroup.Point CreateGroup.Result}
    (names : ∀ name' id', m'.Names home name' id' ↔
      m.Names home name' id' ∨ name' = name ∧ id' = id) (h : Fits home m r next)
    (other : ∀ r' spec, next = .goOn (.creating r' spec) → r.name ≠ name) :
    Fits home m' r next := by
  unfold Fits at h ⊢
  split
  next => exact h
  next => exact h
  next r' spec =>
    obtain ⟨hr, hspec, hnone⟩ := h
    refine ⟨hr, hspec, fun id' hnames => ?_⟩
    rcases (names r.name id').1 hnames with hnames | ⟨hname, -⟩
    · exact hnone id' hnames
    · exact other r' spec rfl hname
  next id' => exact (names r.name id').2 (.inl h)
  next => trivial
  next => trivial

/-- What is listed tells whether there is a group of a name. -/
theorem Memory.Names.iff_exists_mem {m : Memory} (keyed : m.Keyed) {home name : String}
    {id : NodeGroupId} : m.Names home name id ↔
      ∃ g ∈ m.nodeGroups.values.filter (·.isManagedIn home), g.name = name ∧ g.id = id := by
  constructor
  · rintro ⟨g, hmade, hmanaged, hname⟩
    obtain ⟨g', hget, rfl⟩ := Option.map_eq_some_iff.1 hmade
    have hmem : g' ∈ m.nodeGroups.values := SortedMap.mem_values_iff.2 ⟨id, hget⟩
    have hid : g'.made.id = id := keyed id _ hmade
    exact ⟨g', List.mem_filter.2 ⟨hmem, hmanaged⟩, hname, hid⟩
  · rintro ⟨g, hmem, hname, rfl⟩
    obtain ⟨hvalue, hmanaged⟩ := List.mem_filter.1 hmem
    exact ⟨g.made, keyed.made?_of_mem_values hvalue, hmanaged, hname⟩

/-- A job that makes no group, or makes one in its turn. -/
def Job.MakesInTurn : Job → Prop
  | provision .. => False
  | call (.createNodeGroup _) => False
  | _ => True

/-- No other job than the routine asks the provider to make a group. -/
theorem Job.awaits_ne_createNodeGroup {j : Job} (turn : j.MakesInTurn)
    (other : ∀ r, j ≠ .createGroup r) (p : j.Point) (spec : NodeGroupSpec) (limit : Limit) :
    j.awaits p ≠ .call (.createNodeGroup spec) limit := by
  intro h
  cases j with
  | createGroup r => exact other r rfl
  | provision c r => exact turn
  | call r =>
    cases h
    exact turn
  | reconcile c =>
    cases p with
    | queued c => cases h
    | checking c stage => cases stage <;> cases h
  | deleteGroup id => cases p <;> cases h
  | deprovision id => cases p <;> cases h
  | findGroup id => cases p <;> cases h
  | findByExternalId value => cases p <;> cases h
  | resolveId id => cases p <;> cases h
  | listGroups => cases h
  | peek c => cases p
  | forget name => cases p
  | keptVerdicts => cases p

namespace Session

/-- The surroundings in which the groups of a cluster that carry the mark of this library are made
in turn by one manager.  Others may put other groups there, under ids of another form. -/
def alone (home : String) : Surroundings Memory where
  asks := Job.MakesInTurn
  changes := Memory.Told fun g => g.isManagedIn home = false ∧ ∀ k, g.id ≠ Memory.newId k

/-- How far a task has come that makes a group for a request. -/
abbrev Standing.making (r : NodeGroupRequest) (next : Next CreateGroup.Point CreateGroup.Result) :
    Standing where
  job := .createGroup r
  next

/-- The groups of the cluster have names of their own, and every task that makes one fits them. -/
structure Single (s : Session Memory) : Prop where
  registered : s.provider.Registered s.setup.settings.cluster
  fits : ∀ (n : Nat) (r : NodeGroupRequest) (next : Next CreateGroup.Point CreateGroup.Result),
    s.standing? n = some (.making r next) →
    CreateGroup.Fits s.setup.settings.cluster s.provider r next

/-- Nothing is lost where names and standings stay. -/
theorem Single.congr {s s' : Session Memory} (h : s.Single) (setup : s'.setup = s.setup)
    (registered : s'.provider.Registered s.setup.settings.cluster)
    (names : ∀ name id, s'.provider.Names s.setup.settings.cluster name id ↔
      s.provider.Names s.setup.settings.cluster name id)
    (standing : ∀ n x, s'.standing? n = some x → s.standing? n = some x) : s'.Single where
  registered := by
    rw [setup]
    exact registered
  fits n r next hn := by
    rw [setup]
    exact (h.fits n r next (standing n _ hn)).congr names

/-- A session stays so if that holds of the task that takes a step and of every other one. -/
theorem Single.go {s s' : Session Memory} (h : s.Single) (setup : s'.setup = s.setup) {n : Nat}
    {x : Standing} (standing : ∀ k, s'.standing? k = if k = n then some x else s.standing? k)
    (registered : s'.provider.Registered s.setup.settings.cluster)
    (own : ∀ r next, x = .making r next →
      CreateGroup.Fits s.setup.settings.cluster s'.provider r next)
    (others : ∀ k r next, k ≠ n → s.standing? k = some (.making r next) →
      CreateGroup.Fits s.setup.settings.cluster s.provider r next →
      CreateGroup.Fits s.setup.settings.cluster s'.provider r next) : s'.Single where
  registered := by
    rw [setup]
    exact registered
  fits k r next hk := by
    rw [setup]
    rw [standing] at hk
    split at hk
    next => exact own r next (Option.some.inj hk)
    next hne => exact others k r next hne hk (h.fits k r next hk)

/-- A task went on, and no group was made. -/
theorem Single.keep {s s' : Session Memory} (h : s.Single) (setup : s'.setup = s.setup) {n : Nat}
    {x : Standing} (standing : ∀ k, s'.standing? k = if k = n then some x else s.standing? k)
    (made : s'.provider.made? = s.provider.made?) (count : s'.provider.count = s.provider.count)
    (own : ∀ r next, x = .making r next →
      CreateGroup.Fits s.setup.settings.cluster s.provider r next) : s'.Single := by
  have hnames := Memory.names_congr made s.setup.settings.cluster
  refine h.go setup standing (h.registered.congr made count) (fun r next hx => ?_)
    fun k r next _ _ hk => hk.congr hnames
  exact (own r next hx).congr hnames

/-- A task made the group that it was about to make. -/
theorem Single.make {s s' : Session Memory} (h : s.Single) (orderly : s.Orderly)
    (setup : s'.setup = s.setup) {n : Nat} {r : NodeGroupRequest} {spec : NodeGroupSpec}
    (before : s.standing? n = some (.making r (.goOn (.creating r spec))))
    (standing : ∀ k, s'.standing? k =
      if k = n then some (.making r (.done (.ok (Memory.newId (s.provider.count + 1)))))
      else s.standing? k)
    (made : s'.provider.made? =
      (s.provider.create (r.spec s.setup.settings.cluster)).2.made?)
    (count : s'.provider.count = s.provider.count + 1) : s'.Single := by
  have hmanaged := r.isManagedIn_group_spec s.setup.settings.cluster
  have hunused := (h.fits n r _ before).2.2
  have hnames : ∀ name id, s'.provider.Names s.setup.settings.cluster name id ↔
      s.provider.Names s.setup.settings.cluster name id ∨
        name = r.name ∧ id = Memory.newId (s.provider.count + 1) := fun name id =>
    (Memory.names_congr made _ name id).trans (h.registered.names_create hmanaged name id)
  refine h.go setup standing ((h.registered.create hmanaged hunused).congr made count)
    (fun r' next' hx => ?_) fun k r' next' hne hk hfits => hfits.create hnames ?_
  · cases hx
    exact (hnames r.name _).2 (.inr ⟨rfl, rfl⟩)
  · rintro r'' spec' rfl (hname : r'.name = r.name)
    -- Both tasks would hold the gate of the name.
    have hr : r'' = r' := hfits.1
    have hgate : (Job.createGroup r').guards (.creating r'' spec') = some (.create r.name) := by
      rw [← hname, hr]
      rfl
    exact hne (orderly.eq_of_guards hk before rfl hgate rfl)

/-- The routine takes a step: what is known at its new point, and what was made. -/
theorem Single.arrive {s : Session Memory} (h : s.Single) {n : Nat} {r : NodeGroupRequest}
    {next : Next CreateGroup.Point CreateGroup.Result} {provider : Memory}
    (arrives : Arrives s n (.createGroup r) next provider) :
    provider = s.provider ∧ CreateGroup.Fits s.setup.settings.cluster s.provider r next ∨
      ∃ spec, s.standing? n = some (.making r (.goOn (.creating r spec))) ∧
        provider = (s.provider.create (r.spec s.setup.settings.cluster)).2 ∧
        next = .done (.ok (Memory.newId (s.provider.count + 1))) := by
  rcases arrives.took with ⟨rfl, hsame⟩ | ⟨p, hstanding, took⟩
  · exact .inl ⟨hsame, rfl⟩
  · have hfits := h.fits n r _ hstanding
    have hkeyed := h.registered.keyed
    cases took with
    | queued r' => exact .inl ⟨rfl, hfits⟩
    | @found r' g mem name =>
      obtain rfl : r' = r := hfits
      exact .inl ⟨rfl, (Memory.Names.iff_exists_mem hkeyed).2 ⟨g, mem, name, rfl⟩⟩
    | @missing r' none =>
      obtain rfl : r' = r := hfits
      refine .inl ⟨rfl, rfl, rfl, fun id hnames => ?_⟩
      obtain ⟨g, hmem, hname, -⟩ := (Memory.Names.iff_exists_mem hkeyed).1 hnames
      exact none g hmem hname
    | made r' spec =>
      obtain ⟨rfl, rfl, -⟩ := hfits
      exact .inr ⟨_, hstanding, rfl, rfl⟩
    | failed p e => exact .inl ⟨rfl, trivial⟩

theorem Effect.single {s s' : Session Memory} {c : Cause} {home : String}
    (effect : Effect (alone home) s c s') (h : s.Single) (orderly : s.Orderly)
    (setup : s'.setup = s.setup) (home_eq : home = s.setup.settings.cluster)
    (turn : ∀ n j, s.job? n = some j → j.MakesInTurn) : s'.Single := by
  subst home_eq
  cases effect with
  | quiet standing idles =>
    have hsame := eq_of_idles idles
    exact h.congr setup (hsame ▸ h.registered) (by simp [hsame])
      fun n x hx => (standing n).eq_some hx
  | meddled standing changed =>
    obtain ⟨hcount, hmade | ⟨g, ⟨hforeign, haway⟩, hput⟩⟩ := changed.made?
    · exact h.congr setup (h.registered.congr hmade hcount) (Memory.names_congr hmade _)
        fun n x hx => standing n ▸ hx
    · exact h.congr setup (h.registered.foreign hforeign haway hput hcount)
        (h.registered.names_foreign hforeign haway hput) fun n x hx => standing n ▸ hx
  | @arrived n j next provider _ arrives standing provider_eq =>
    obtain ⟨hgroups, hcount⟩ := nodeGroups_toldNext provider s.now j next
    rw [← provider_eq] at hgroups hcount
    have hmade : s'.provider.made? = provider.made? := Memory.made?_congr hgroups
    by_cases hj : ∃ r, j = .createGroup r
    · obtain ⟨r, rfl⟩ := hj
      rcases h.arrive arrives with ⟨rfl, hfits⟩ | ⟨spec, hn, rfl, rfl⟩
      · refine h.keep setup standing hmade hcount fun r' next' hx => ?_
        cases hx
        exact hfits
      · exact h.make orderly setup hn standing hmade hcount
    · rcases arrives.made? h.registered.keyed with
        ⟨hsame, hcount'⟩ | ⟨point, spec, limit, -, hawaits, -⟩
      · refine h.keep setup standing (hmade.trans hsame) (hcount.trans hcount') fun r next' hx => ?_
        cases hx
        exact absurd ⟨r, rfl⟩ hj
      · have hturn := turn n j arrives.job?
        exact absurd hawaits
          (Job.awaits_ne_createNodeGroup hturn (fun r hr => hj ⟨r, hr⟩) point spec limit)

theorem single_begin (setup : Setup) (network : NetworkId) :
    (begin setup (Memory.ofNetwork network)).Single where
  registered := Memory.registered_ofNetwork ..
  fits _ _ _ := nofun

variable {setup : Setup} {network : NetworkId} {past : List (Moment Memory)} {s : Session Memory}

theorem History.single (h : History (alone setup.settings.cluster)
    (begin setup (Memory.ofNetwork network)) past s) : s.Single := by
  have hfresh := fresh_begin setup (Memory.ofNetwork network)
  induction h with
  | start => exact single_begin setup network
  | go h move ih =>
    have horderly := h.orderly hfresh (orderly_begin setup _)
    have heffect := move.effect (h.fresh hfresh)
    exact heffect.single ih horderly move.setup (by rw [h.setup]; rfl) fun n j hj => h.asked rfl hj

/-- A step of the routine that does not end with a new group changes no group. -/
theorem Effect.nodeGroups_eq {w : Surroundings Memory} {s' : Session Memory} {n : Nat}
    {r : NodeGroupRequest} (effect : Effect w s (.stepped n) s')
    (job : ∀ j, s.job? n = some j → j = .createGroup r)
    (unmade : ∀ id, s'.standing? n ≠ some (.making r (.done (.ok id)))) :
    s'.provider.nodeGroups = s.provider.nodeGroups := by
  cases effect with
  | quiet standing idles => rw [eq_of_idles idles]
  | @arrived _ j next provider _ arrives standing provider_eq =>
    obtain rfl : j = .createGroup r := job j arrives.job?
    rw [provider_eq, (nodeGroups_toldNext ..).1]
    have hn := standing n
    rw [if_pos rfl] at hn
    rcases arrives.took with ⟨-, rfl⟩ | ⟨p, -, took⟩
    · rfl
    · cases took with
      | queued r' => rfl
      | found mem name => rfl
      | missing none => rfl
      | made r' spec => exact absurd hn (unmade _)
      | failed p e => rfl

/-- Unless the routine made a group, or found one, none of its steps changed a group. -/
theorem History.nodeGroups_eq {w : Surroundings Memory} {s₀ : Session Memory}
    (h : History w s₀ past s) (begins : s₀.tasks = .empty) {n : Nat} {r : NodeGroupRequest}
    (job : ∀ j, s.job? n = some j → j = .createGroup r)
    (unmade : ∀ id, s.standing? n ≠ some (.making r (.done (.ok id)))) {m : Moment Memory}
    (mem : m ∈ past) (cause : m.cause = .stepped n) :
    m.after.provider.nodeGroups = m.before.provider.nodeGroups := by
  have hfresh := fresh_of_empty begins
  obtain ⟨before, hbefore, hmove⟩ := h.exists_of_mem mem
  have heffect := hmove.effect (hbefore.fresh hfresh)
  rw [cause] at heffect
  exact heffect.nodeGroups_eq (fun j hj => job j (h.job?_of_mem hfresh mem hj))
    fun id hid => unmade id (h.standing?_done_of_mem hfresh mem hid)

/-- After any history in which one manager makes the groups of a cluster, however its tasks and
those of others are interleaved, and whatever fails or takes long: groups made here have names of
their own; where the routine succeeds, it gives the id of the one group of the name; so it never
gives two ids for a name; and where it fails, none of its steps changed a group. -/
theorem one_group_of_name (h : History (alone setup.settings.cluster)
    (begin setup (Memory.ofNetwork network)) past s) :
    (∀ id id' g g', s.provider.nodeGroups.get? id = some g →
      s.provider.nodeGroups.get? id' = some g' →
      g.isManagedIn setup.settings.cluster = true → g'.isManagedIn setup.settings.cluster = true →
      g.name = g'.name → id = id') ∧
    (∀ n r id, s.standing? n = some (.making r (.done (.ok id))) →
      ∃ g, s.provider.nodeGroups.get? id = some g ∧ g.id = id ∧
        g.isManagedIn setup.settings.cluster = true ∧ g.name = r.name) ∧
    (∀ n n' r r' id id', s.standing? n = some (.making r (.done (.ok id))) →
      s.standing? n' = some (.making r' (.done (.ok id'))) → r.name = r'.name → id = id') ∧
    (∀ n r e, s.standing? n = some (.making r (.done (.error e))) →
      ∀ m ∈ past, m.cause = .stepped n →
        m.after.provider.nodeGroups = m.before.provider.nodeGroups) := by
  have hsingle := h.single
  have hsetup : s.setup = setup := h.setup
  obtain ⟨hregistered, hfits⟩ := hsingle
  rw [hsetup] at hregistered hfits
  have hnames : ∀ id g, s.provider.nodeGroups.get? id = some g →
      g.isManagedIn setup.settings.cluster = true →
      s.provider.Names setup.settings.cluster g.name id := fun id g hg hmanaged =>
    ⟨g.made, Memory.made?_of_get? hg, hmanaged, rfl⟩
  refine ⟨fun id id' g g' hg hg' hm hm' hname => ?_, fun n r id hn => ?_,
    fun n n' r r' id id' hn hn' hname => ?_, fun n r e hn m hm hcause => ?_⟩
  · exact hregistered.single g'.name id id' (hname ▸ hnames id g hg hm) (hnames id' g' hg' hm')
  · obtain ⟨g, hmade, hmanaged, hname⟩ := hfits n r _ hn
    obtain ⟨g', hg', rfl⟩ := Option.map_eq_some_iff.1 hmade
    have hid : g'.made.id = id := hregistered.keyed id _ hmade
    exact ⟨g', hg', hid, hmanaged, hname⟩
  · have hid := hfits n r _ hn
    have hid' := hfits n' r' _ hn'
    exact hregistered.single r'.name id id' (hname ▸ hid) hid'
  · have hjob : ∀ j, s.job? n = some j → j = .createGroup r := fun j hj =>
      Option.some.inj (hj.symm.trans (job?_of_standing? hn))
    have hunmade : ∀ id, s.standing? n ≠ some (.making r (.done (.ok id))) := fun id hid => by
      cases hid.symm.trans hn
    exact h.nodeGroups_eq rfl hjob hunmade hm hcause

/-- A request for a group that is called `node`. -/
def smallRequest : NodeGroupRequest where
  name := "node"
  shape := ⟨"standard-v3", .full, 2, 4096⟩
  zone := "a"
  subnet := "subnet-a"
  discounted := false
  disk := .ssd
  diskSizeBytes := 0
  labels := .ofList [(managedLabel, "somebody")]
  securityGroups := []
  acceleratedNetwork := false

/-- Of two tasks for one name that run together the second finds what the first one made. -/
theorem one_group_of_two_tasks :
    ∃ past s, History (alone Setup.small.settings.cluster)
        (begin Setup.small (Memory.ofNetwork "network")) past s ∧
      s.standing? 0 = some (.making smallRequest (.done (.ok "ng-1"))) ∧
      s.standing? 1 = some (.making smallRequest (.done (.ok "ng-1"))) ∧
      ∃ g, s.provider.nodeGroups.get? "ng-1" = some g ∧ g.name = "node" := by
  have hstart : History (alone Setup.small.settings.cluster)
      (begin Setup.small (Memory.ofNetwork "network")) [] _ := .start
  have hsubmitted := (hstart.go (.submit (j := .createGroup smallRequest) none trivial)).go
    (.submit (j := .createGroup smallRequest) none trivial)
  obtain ⟨past, h⟩ := hsubmitted.runTasks 60 [0, 1] [0, 1] false
  obtain ⟨-, hfound, -⟩ := one_group_of_name h
  obtain ⟨g, hg, -, -, hname⟩ := hfound 1 smallRequest "ng-1" rfl
  exact ⟨past, _, h, rfl, rfl, g, hg, hname⟩

end Session

end NodeSupply
