import NodeSupply.Proofs.Sorted
import NodeSupply.Provider.Memory

/-!
# The groups that a provider in memory keeps

Of a node group the provider changes nothing but its instance and its state, so each group is seen
as it was made.  Of all calls only the making of a group changes that view, and it adds a group
under an id that was not in use.  Others may put groups of their own beside them.

## Main definitions

* `Memory.made?` : the group of an id, as it was made.
* `Memory.newId` : the id of the group made at some place.
* `Memory.Put` : a group was put under an id.
* `Memory.Told` : what others may tell the provider.
* `Memory.Names`, `Memory.Registered` : names of the groups made here, and that each has one group.

## Main statements

* `Memory.made?_answer`, `Memory.put_create` : what an answer does to the groups.
* `Memory.acts_of_look_eq_finished` : a call that ends fails and changes nothing, or acts.
* `Memory.Registered.create`, `Memory.Registered.foreign` : names stay unique.
-/

namespace NodeSupply

/-- A group as it was when it was made. -/
def NodeGroup.made (g : NodeGroup) : NodeGroup :=
  { g with instanceId := none, state := .provisioning }

@[simp] theorem NodeGroup.isManagedIn_made (g : NodeGroup) (home : String) :
    g.made.isManagedIn home = g.isManagedIn home := rfl

/-- The group that is made of what was asked for. -/
def NodeGroupSpec.group (spec : NodeGroupSpec) (id : NodeGroupId) : NodeGroup where
  id
  name := spec.name
  cluster := spec.cluster
  labels := spec.labels
  shape := spec.shape
  zone := some spec.zone
  subnet := some spec.subnet
  diskType := spec.disk.name
  diskSizeBytes := spec.diskSizeBytes
  discounted := spec.discounted
  instanceId := none
  state := .provisioning

namespace Memory

/-- The id of the group that is made as the first, the second and so on. -/
def newId (number : Nat) : NodeGroupId := "ng-" ++ Numeral.text number

theorem newId_inj {n k : Nat} : newId n = newId k ↔ n = k := by
  constructor
  · intro h
    have hchars : Numeral.write n = Numeral.write k := by
      simpa [newId, Numeral.text] using congrArg String.toList h
    have hread := Numeral.read?_write n
    rw [hchars, Numeral.read?_write] at hread
    exact (Option.some.inj hread).symm
  · rintro rfl
    rfl

/-- The group of an id, as it was made. -/
def made? (m : Memory) (id : NodeGroupId) : Option NodeGroup :=
  (m.nodeGroups.get? id).map NodeGroup.made

/-- Every group is kept under its own id. -/
def Keyed (m : Memory) : Prop := ∀ id g, m.made? id = some g → g.id = id

theorem made?_congr {m m' : Memory} (h : m'.nodeGroups = m.nodeGroups) : m'.made? = m.made? := by
  funext id
  rw [made?, h, made?]

theorem made?_of_get? {m : Memory} {id : NodeGroupId} {g : NodeGroup}
    (h : m.nodeGroups.get? id = some g) : m.made? id = some g.made := by
  rw [made?, h, Option.map_some]

/-- A listed group is kept under its own id. -/
theorem Keyed.made?_of_mem_values {m : Memory} (keyed : m.Keyed) {g : NodeGroup}
    (h : g ∈ m.nodeGroups.values) : m.made? g.id = some g.made := by
  obtain ⟨id, hid⟩ := SortedMap.mem_values_iff.1 h
  have hmade := made?_of_get? hid
  obtain rfl : g.made.id = id := keyed id _ hmade
  exact hmade

/-! ### Writing a group -/

/-- A group was put under an id, over whatever was there. -/
def Put (m m' : Memory) (id : NodeGroupId) (g : NodeGroup) : Prop :=
  ∀ j, m'.made? j = if j = id then some g else m.made? j

theorem put_of_insert {m m' : Memory} {id : NodeGroupId} {g : NodeGroup}
    (h : m'.nodeGroups = m.nodeGroups.insert id g) : m.Put m' id g.made := by
  intro j
  unfold made?
  rw [h]
  split
  next hj => rw [hj, SortedMap.get?_insert_self, Option.map_some]
  next hj => rw [SortedMap.get?_insert_of_ne _ _ hj]

theorem Put.keyed {m m' : Memory} {id : NodeGroupId} {g : NodeGroup} (put : m.Put m' id g)
    (keyed : m.Keyed) (own : g.id = id) : m'.Keyed := by
  intro j g' hg'
  rw [put] at hg'
  split at hg'
  next hj =>
    cases hg'
    exact own.trans hj.symm
  next => exact keyed j g' hg'

/-- A group that is written over one that was made alike. -/
theorem made?_insert {m m' : Memory} {id : NodeGroupId} {g : NodeGroup} (g' : NodeGroup)
    (old : m.nodeGroups.get? id = some g) (same : g'.made = g.made)
    (h : m'.nodeGroups = m.nodeGroups.insert id g') : m'.made? = m.made? := by
  funext j
  rw [put_of_insert h]
  split
  next hj => rw [hj, made?_of_get? old, same]
  next => rfl

/-! ### Answers -/

theorem put_create (m : Memory) (spec : NodeGroupSpec) :
    m.Put (m.create spec).2 (newId (m.count + 1)) (spec.group (newId (m.count + 1))) := by
  have hinsert : (m.create spec).2.nodeGroups =
      m.nodeGroups.insert (newId (m.count + 1)) (spec.group (newId (m.count + 1))) := rfl
  exact put_of_insert hinsert

theorem made?_delete {m : Memory} (keyed : m.Keyed) {id : NodeGroupId} {g : NodeGroup}
    (h : m.nodeGroups.get? id = some g) : (m.delete g).made? = m.made? := by
  have hid : g.id = id := keyed id g.made (made?_of_get? h)
  refine made?_insert { g with state := .deleting } h rfl ?_
  rw [← hid]
  rfl

theorem made?_reveal (m : Memory) (id : NodeGroupId) (instance_ : String) :
    (m.reveal id instance_).made? = m.made? := by
  cases h : m.nodeGroups.get? id with
  | none => exact made?_congr (by rw [reveal, h]; rfl)
  | some g =>
    refine made?_insert { g with instanceId := some instance_, state := .running } h rfl ?_
    rw [reveal, h]
    rfl

/-- Only the making of a group changes what groups there are. -/
theorem made?_answer {m : Memory} (keyed : m.Keyed) {r : Request}
    (h : ∀ spec, r ≠ .createNodeGroup spec) :
    (m.answer r).2.made? = m.made? ∧ (m.answer r).2.count = m.count := by
  cases r with
  | createNodeGroup spec => exact absurd rfl (h spec)
  | deleteNodeGroup id =>
    cases hg : m.nodeGroups.get? id with
    | none => simp [answer, hg]
    | some g =>
      simp only [answer, hg]
      exact ⟨made?_delete keyed hg, rfl⟩
  | operations id =>
    simp only [answer]
    split <;> exact ⟨rfl, rfl⟩
  | instanceOf id =>
    simp only [answer]
    split
    next => exact ⟨made?_reveal m id _, rfl⟩
    next => exact ⟨rfl, rfl⟩
    next => split <;> exact ⟨rfl, rfl⟩
  | _ => exact ⟨rfl, rfl⟩

/-- A call that ends fails and changes nothing, or is due and gets through. -/
theorem acts_of_look_eq_finished {m m' : Memory} {now : Instant} {r : Request} {c : Call}
    {outcome : r.Outcome} (h : m.look now r c = .finished outcome m') :
    (∃ e, outcome = .error e ∧ m' = m) ∨
      (c.due ≤ now ∧ c.failure = none) ∧ (outcome, m') = m.answer r := by
  unfold look at h
  split at h
  next => cases h
  next hdue =>
    split at h
    next e _ =>
      cases h
      exact .inl ⟨e, rfl, rfl⟩
    next hfailure =>
      cases h
      exact .inr ⟨⟨Nat.not_lt.1 hdue, hfailure⟩, rfl⟩

/-! ### Deletions under way -/

/-- The deletions of a group that go on. -/
def pendingDeletes (m : Memory) (id : NodeGroupId) : List GroupOperation :=
  (m.operationsOf id).filter GroupOperation.isPendingDelete

theorem pendingDeletes_congr {m m' : Memory} (h : m'.operations = m.operations) (id : NodeGroupId) :
    m'.pendingDeletes id = m.pendingDeletes id := by
  rw [pendingDeletes, operationsOf, h, pendingDeletes, operationsOf]

theorem operationsOf_record (m : Memory) (id : NodeGroupId) (o : GroupOperation) (j : NodeGroupId) :
    (m.record id o).operationsOf j =
      if j = id then m.operationsOf j ++ [o] else m.operationsOf j := by
  unfold operationsOf record
  split
  next h => rw [h, SortedMap.get?_insert_self]; rfl
  next h => rw [SortedMap.get?_insert_of_ne _ _ h]

theorem isPendingDelete_deletion (operation : String) :
    GroupOperation.isPendingDelete ⟨operation, deleteKind, false⟩ = true := by
  simp [GroupOperation.isPendingDelete, deleteKind, Text.occurs]

/-- The deletion of a group is recorded for that group, as one that goes on. -/
theorem exists_pendingDeletes_delete (m : Memory) (g : NodeGroup) :
    ∃ o, ∀ id, (m.delete g).pendingDeletes id =
      if id = g.id then m.pendingDeletes id ++ [o] else m.pendingDeletes id := by
  let number := Numeral.text (m.operationsOf g.id).length
  refine ⟨⟨"op-delete-" ++ number, deleteKind, false⟩, fun id => ?_⟩
  unfold pendingDeletes delete
  rw [operationsOf_record]
  split
  next =>
    rw [List.filter_append, List.filter_cons_of_pos (isPendingDelete_deletion _)]
    rfl
  next => rfl

/-- Only the deletion of a group changes the recorded operations. -/
theorem operations_answer {m : Memory} {r : Request} (h : ∀ id, r ≠ .deleteNodeGroup id) :
    (m.answer r).2.operations = m.operations := by
  cases r with
  | deleteNodeGroup id => exact absurd rfl (h id)
  | operations id =>
    simp only [answer]
    split <;> rfl
  | instanceOf id =>
    simp only [answer]
    split
    next => rfl
    next => rfl
    next => split <;> rfl
  | _ => rfl

/-! ### What others do -/

/-- What others may tell the provider; `admits` says which groups they may put there. -/
inductive Told (admits : NodeGroup → Prop) (m : Memory) : Memory → Prop where
  | subnet (s : Subnet) : Told admits m (m.addSubnet s)
  | securityGroup (g : SecurityGroup) : Told admits m (m.addSecurityGroup g)
  | nodeGroup {g : NodeGroup} (admitted : admits g) : Told admits m (m.addNodeGroup g)
  | operation (id : NodeGroupId) (kind : String) (done : Bool) :
      Told admits m (m.addOperation id kind done)
  | instances (calls : Nat) : Told admits m (m.delayInstances calls)
  | failure (operation : String) (e : ProviderError) : Told admits m (m.failNext operation e)
  | latency (operation : String) (d : Duration) : Told admits m (m.delay operation d)

theorem put_addNodeGroup (m : Memory) (g : NodeGroup) : m.Put (m.addNodeGroup g) g.id g.made :=
  put_of_insert rfl

/-- Others change the groups only by putting a group there that they may put there. -/
theorem Told.made? {admits : NodeGroup → Prop} {m m' : Memory} (told : Told admits m m') :
    m'.count = m.count ∧
      (m'.made? = m.made? ∨ ∃ g, admits g ∧ m.Put m' g.id g.made) := by
  cases told with
  | nodeGroup admitted => exact ⟨rfl, .inr ⟨_, admitted, put_addNodeGroup m _⟩⟩
  | _ => exact ⟨rfl, .inl rfl⟩

/-! ### Names -/

/-- A group of the cluster that was made here has some name and some id. -/
def Names (m : Memory) (home name : String) (id : NodeGroupId) : Prop :=
  ∃ g, m.made? id = some g ∧ g.isManagedIn home = true ∧ g.name = name

/-- The groups of the cluster that were made here have ids of their own and names of their own. -/
structure Registered (home : String) (m : Memory) : Prop where
  keyed : m.Keyed
  numbered : ∀ k, (m.made? (newId k)).isSome = true → k ≤ m.count
  own : ∀ name id, m.Names home name id → ∃ k, id = newId k
  single : ∀ name id id', m.Names home name id → m.Names home name id' → id = id'

theorem registered_ofNetwork (home : String) (network : NetworkId) :
    (ofNetwork network).Registered home := by
  constructor
  · exact nofun
  · intro k hk
    cases hk
  · rintro name id ⟨g, hg, -⟩
    cases hg
  · rintro name id id' ⟨g, hg, -⟩
    cases hg

theorem names_congr {m m' : Memory} (h : m'.made? = m.made?) (home name : String)
    (id : NodeGroupId) : m'.Names home name id ↔ m.Names home name id := by
  rw [Names, h, Names]

theorem Registered.congr {home : String} {m m' : Memory} (h : m.Registered home)
    (made : m'.made? = m.made?) (count : m'.count = m.count) : m'.Registered home where
  keyed := by
    rw [Keyed, made]
    exact h.keyed
  numbered := by
    rw [made, count]
    exact h.numbered
  own name id hname := h.own name id ((names_congr made home name id).1 hname)
  single name id id' hname hname' :=
    h.single name id id' ((names_congr made home name id).1 hname)
      ((names_congr made home name id').1 hname')

/-- A group that others put there under an id that is not of the form of those made here. -/
theorem Registered.names_foreign {home : String} {m m' : Memory} (h : m.Registered home)
    {g : NodeGroup} (foreign : g.isManagedIn home = false) (away : ∀ k, g.id ≠ newId k)
    (put : m.Put m' g.id g.made) (name : String) (id : NodeGroupId) :
    m'.Names home name id ↔ m.Names home name id := by
  unfold Names
  rw [put]
  split
  next hid =>
    constructor
    · rintro ⟨g', hg', hmanaged, -⟩
      cases hg'
      rw [NodeGroup.isManagedIn_made, foreign] at hmanaged
      cases hmanaged
    · rintro hname
      obtain ⟨k, hk⟩ := h.own name id hname
      exact absurd (hid ▸ hk) (away k)
  next => rfl

theorem Registered.foreign {home : String} {m m' : Memory} (h : m.Registered home)
    {g : NodeGroup} (foreign : g.isManagedIn home = false) (away : ∀ k, g.id ≠ newId k)
    (put : m.Put m' g.id g.made) (count : m'.count = m.count) : m'.Registered home := by
  have hnames := h.names_foreign foreign away put
  constructor
  · exact put.keyed h.keyed rfl
  · intro k hk
    rw [put, if_neg (away k).symm] at hk
    rw [count]
    exact h.numbered k hk
  · exact fun name id hname => h.own name id ((hnames name id).1 hname)
  · exact fun name id id' hname hname' =>
      h.single name id id' ((hnames name id).1 hname) ((hnames name id').1 hname')

/-- A group that is made here is the only change of what has which name. -/
theorem Registered.names_create {home : String} {m : Memory} (h : m.Registered home)
    {spec : NodeGroupSpec} (managed : ∀ id, (spec.group id).isManagedIn home = true) (name : String)
    (id : NodeGroupId) : (m.create spec).2.Names home name id ↔
      m.Names home name id ∨ name = spec.name ∧ id = newId (m.count + 1) := by
  have hfresh : m.made? (newId (m.count + 1)) = none := by
    cases hmade : m.made? (newId (m.count + 1)) with
    | none => rfl
    | some g => exact absurd (h.numbered (m.count + 1) (by rw [hmade]; rfl)) (by omega)
  unfold Names
  rw [put_create]
  split
  next hid =>
    subst hid
    rw [hfresh]
    constructor
    · rintro ⟨g, hg, -, rfl⟩
      cases hg
      exact .inr ⟨rfl, rfl⟩
    · rintro (⟨g, hg, -⟩ | ⟨rfl, -⟩)
      · cases hg
      · exact ⟨_, rfl, managed _, rfl⟩
  next hid => simp [hid]

theorem Registered.create {home : String} {m : Memory} (h : m.Registered home)
    {spec : NodeGroupSpec} (managed : ∀ id, (spec.group id).isManagedIn home = true)
    (unused : ∀ id, ¬ m.Names home spec.name id) : (m.create spec).2.Registered home := by
  have hnames := h.names_create managed
  constructor
  · exact (m.put_create spec).keyed h.keyed rfl
  · intro k hk
    rw [put_create] at hk
    split at hk
    next hid => exact Nat.le_of_eq (newId_inj.1 hid)
    next => exact Nat.le_succ_of_le (h.numbered k hk)
  · intro name id hname
    rcases (hnames name id).1 hname with hname | ⟨-, hid⟩
    · exact h.own name id hname
    · exact ⟨_, hid⟩
  · intro name id id' hname hname'
    rcases (hnames name id).1 hname with hname | ⟨rfl, hid⟩ <;>
      rcases (hnames _ id').1 hname' with hname' | ⟨hspec, hid'⟩
    · exact h.single name id id' hname hname'
    · exact absurd (hspec ▸ hname) (unused id)
    · exact absurd hname' (unused id')
    · rw [hid, hid']

end Memory

end NodeSupply
