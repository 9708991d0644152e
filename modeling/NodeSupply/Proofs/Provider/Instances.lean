import NodeSupply.Proofs.Provider.Memory

/-!
# The instances of the groups that a provider in memory makes

With each group the provider makes an instance.  It knows at once to which group the instance
belongs, but the group shows it only later.  Once it does, it shows no other, as no later group has
the same id and no later instance the same name; so an instance that was shown leads back to its
group.

## Main definitions

* `Memory.newInstance` : the name of the instance made with the group at some place.
* `Memory.Paired` : an instance and a group of the same place.
* `Memory.shown?` : the instance that a group shows.
* `Memory.Assigned` : every instance and every group is one of those made, and they fit together.
* `Memory.Exposes` : all that can happen to instances.
* `Memory.Keeps` : what stays of them.

## Main statements

* `ProviderId.afterScheme?_eq_some_iff` : external ids and the instances that they name.
* `Memory.exposes_answer` : what an answer does to instances.
* `Memory.Assigned.keeps` : what stays is what there was.
* `Memory.Assigned.answer_ownerOf`, `Memory.Assigned.answer_nodeGroup` : the way back.
-/

namespace NodeSupply

/-! ### External ids -/

namespace ProviderId

theorem afterScheme?_eq_some_iff {s i : String} :
    afterScheme? s = some i ↔ s = (forInstance i).text := by
  have hsplit : scheme.isPrefixOf s.toList = true ↔
      scheme ++ s.toList.drop scheme.length = s.toList :=
    List.isPrefixOf_iff_prefix.trans List.prefix_iff_eq_append
  unfold afterScheme? forInstance
  split
  next h =>
    rw [Option.some_inj, ← String.toList_inj, ← String.toList_inj, String.toList_ofList,
      String.toList_ofList, ← hsplit.1 h]
    simp
  next h =>
    refine iff_of_false nofun fun hs => h (hsplit.2 ?_)
    rw [hs, String.toList_ofList, List.drop_left]

@[simp] theorem instance_forInstance (i : String) : (forInstance i).instance_ = i := by
  rw [instance_, afterScheme?_eq_some_iff.2 rfl, Option.getD_some]

/-- The name of an instance may start with the scheme. -/
example : (forInstance "yandex://instance").instance_ = "yandex://instance" := by decide

theorem forInstance_inj {i j : String} : forInstance i = forInstance j ↔ i = j := by
  constructor
  · intro h
    rw [← instance_forInstance i, h, instance_forInstance]
  · rintro rfl
    rfl

theorem parse?_forInstance {i : String} (h : i ≠ "") :
    parse? (forInstance i).text = some (forInstance i) := by
  unfold parse?
  rw [afterScheme?_eq_some_iff.2 rfl]
  split
  next heq => exact absurd (Option.some.inj heq) h
  next => rfl
  next heq => cases heq

/-- An external id names the instance that it was made for, whatever it is that was parsed. -/
theorem eq_forInstance_of_parse? {s : String} {p : ProviderId} (h : parse? s = some p) :
    p = forInstance p.instance_ := by
  unfold parse? at h
  split at h
  next => cases h
  next i _ hafter =>
    cases h
    rw [instance_, hafter, Option.getD_some]
    exact congrArg mk (afterScheme?_eq_some_iff.1 hafter)
  next => cases h

end ProviderId

namespace Memory

/-! ### Instances and groups -/

/-- The name of the instance that is made with the first group, the second and so on. -/
def newInstance (number : Nat) : String := "inst-" ++ Numeral.text number

theorem newInstance_inj {n k : Nat} : newInstance n = newInstance k ↔ n = k := by
  constructor
  · intro h
    have htext : Numeral.text n = Numeral.text k := by
      rw [← String.toList_inj]
      simpa [newInstance] using congrArg String.toList h
    exact newId_inj.1 (congrArg ("ng-" ++ ·) htext)
  · rintro rfl
    rfl

theorem newInstance_ne_empty (number : Nat) : newInstance number ≠ "" := fun h => by
  simpa [newInstance] using congrArg String.toList h

/-- An instance and a group are made at the same place. -/
def Paired (instance_ : String) (id : NodeGroupId) : Prop :=
  ∃ number, instance_ = newInstance number ∧ id = newId number

theorem Paired.eq_group {i : String} {id id' : NodeGroupId} (h : Paired i id) (h' : Paired i id') :
    id = id' := by
  obtain ⟨n, rfl, rfl⟩ := h
  obtain ⟨k, hk, rfl⟩ := h'
  rw [newInstance_inj.1 hk]

theorem Paired.ne_empty {i : String} {id : NodeGroupId} (h : Paired i id) : i ≠ "" := by
  obtain ⟨n, rfl, -⟩ := h
  exact newInstance_ne_empty n

/-- The instance that a group shows. -/
def shown? (m : Memory) (id : NodeGroupId) : Option String :=
  (m.nodeGroups.get? id).bind (·.instanceId)

theorem shown?_congr {m m' : Memory} (h : m'.nodeGroups = m.nodeGroups) : m'.shown? = m.shown? := by
  funext id
  rw [shown?, h, shown?]

theorem shown?_of_insert {m m' : Memory} {id : NodeGroupId} {g : NodeGroup}
    (h : m'.nodeGroups = m.nodeGroups.insert id g) (j : NodeGroupId) :
    m'.shown? j = if j = id then g.instanceId else m.shown? j := by
  unfold shown?
  rw [h]
  split
  next hj => rw [hj, SortedMap.get?_insert_self, Option.bind_some]
  next hj => rw [SortedMap.get?_insert_of_ne _ _ hj]

/-- Every instance and every group is one of those made.  An instance that a group shows or hides
belongs to the group, and one that is hidden is not shown. -/
structure Assigned (m : Memory) : Prop where
  issued : ∀ i id, m.owners.get? i = some id →
    ∃ number ≤ m.count, i = newInstance number ∧ id = newId number
  numbered : ∀ id, (m.made? id).isSome = true → ∃ number ≤ m.count, id = newId number
  keyed : m.Keyed
  shown : ∀ id i, m.shown? id = some i → m.owners.get? i = some id
  hidden : ∀ id n i, m.hidden.get? id = some (n, i) → m.owners.get? i = some id ∧
    (m.made? id).isSome = true ∧ m.shown? id = none

theorem assigned_ofNetwork (network : NetworkId) : (ofNetwork network).Assigned where
  issued _ _ := nofun
  numbered _ := nofun
  keyed := nofun
  shown _ _ := nofun
  hidden _ _ _ := nofun

namespace Assigned

variable {m : Memory} (h : m.Assigned) {i : String} {id : NodeGroupId}

include h

theorem paired (owner : m.owners.get? i = some id) : Paired i id := by
  obtain ⟨number, -, hi, hid⟩ := h.issued i id owner
  exact ⟨number, hi, hid⟩

/-- The next instance and the next group are new. -/
theorem fresh : m.owners.get? (newInstance (m.count + 1)) = none ∧
    m.made? (newId (m.count + 1)) = none := by
  constructor
  · cases howner : m.owners.get? (newInstance (m.count + 1)) with
    | none => rfl
    | some id =>
      obtain ⟨number, hle, hi, -⟩ := h.issued _ _ howner
      exact absurd (newInstance_inj.1 hi) (by omega)
  · cases hmade : m.made? (newId (m.count + 1)) with
    | none => rfl
    | some g =>
      obtain ⟨number, hle, hid⟩ := h.numbered _ (by rw [hmade]; rfl)
      exact absurd (newId_inj.1 hid) (by omega)

/-- A group that shows an instance is there under its own id. -/
theorem exists_get?_of_shown? (shown : m.shown? id = some i) :
    ∃ g, m.nodeGroups.get? id = some g ∧ g.id = id ∧ g.instanceId = some i := by
  obtain ⟨g, hg, hi⟩ := Option.bind_eq_some_iff.1 shown
  have hid : g.id = id := h.keyed id g.made (made?_of_get? hg)
  exact ⟨g, hg, hid, hi⟩

/-! ### The way back -/

/-- The owner of an instance that a group shows is that group. -/
theorem answer_ownerOf (shown : m.shown? id = some i) :
    (m.answer (.ownerOf i)).1 = .ok (some id) := by
  rw [answer, h.shown id i shown]
  rfl

/-- Who asks for a group that shows an instance gets it with the instance. -/
theorem answer_nodeGroup (shown : m.shown? id = some i) :
    ∃ g, (m.answer (.nodeGroup id)).1 = .ok g ∧ g.id = id ∧ g.instanceId = some i := by
  obtain ⟨g, hg, hid, hi⟩ := h.exists_get?_of_shown? shown
  refine ⟨g, ?_, hid, hi⟩
  rw [answer, hg]
  rfl

/-- Whom an instance is said to belong to, it is paired with. -/
theorem paired_of_answer (answer : (m.answer (.ownerOf i)).1 = .ok (some id)) : Paired i id := by
  cases howner : m.owners.get? i with
  | none =>
    rw [Memory.answer, howner] at answer
    cases answer
  | some id' =>
    rw [Memory.answer, howner] at answer
    cases answer
    exact h.paired howner

end Assigned

/-! ### What happens to instances -/

/-- All that can happen to instances: nothing but that a hidden one is counted down, that a group is
made with one, or that a group shows the one that it hides. -/
inductive Exposes (m : Memory) : Memory → Prop where
  | kept {m' : Memory} (owners : m'.owners = m.owners) (count : m'.count = m.count)
      (made : m'.made? = m.made?) (shown : m'.shown? = m.shown?)
      (hidden : ∀ id n i, m'.hidden.get? id = some (n, i) → ∃ k, m.hidden.get? id = some (k, i)) :
      Exposes m m'
  | made (spec : NodeGroupSpec) : Exposes m (m.create spec).2
  | revealed {id : NodeGroupId} {n : Nat} {i : String} (hidden : m.hidden.get? id = some (n, i)) :
      Exposes m (m.reveal id i)

theorem exposes_of_eq {m m' : Memory} (owners : m'.owners = m.owners) (count : m'.count = m.count)
    (nodeGroups : m'.nodeGroups = m.nodeGroups) (hidden : m'.hidden = m.hidden) :
    m.Exposes m' :=
  .kept owners count (made?_congr nodeGroups) (shown?_congr nodeGroups)
    fun _ n _ h => ⟨n, hidden ▸ h⟩

theorem Exposes.refl (m : Memory) : m.Exposes m := exposes_of_eq rfl rfl rfl rfl

theorem exposes_delete {m : Memory} (keyed : m.Keyed) {id : NodeGroupId} {g : NodeGroup}
    (h : m.nodeGroups.get? id = some g) : m.Exposes (m.delete g) := by
  refine .kept rfl rfl (made?_delete keyed h) (funext fun j => ?_) fun id n i hi => ⟨n, hi⟩
  have hid : g.id = id := keyed id g.made (made?_of_get? h)
  have hinsert : (m.delete g).nodeGroups = m.nodeGroups.insert g.id { g with state := .deleting } :=
    rfl
  rw [shown?_of_insert hinsert]
  split
  next hj => rw [hj, hid, shown?, h, Option.bind_some]
  next => rfl

theorem exposes_answer {m : Memory} (keyed : m.Keyed) (r : Request) : m.Exposes (m.answer r).2 := by
  cases r with
  | createNodeGroup spec => exact .made spec
  | deleteNodeGroup id =>
    simp only [answer]
    split
    next => exact .refl m
    next hg => exact exposes_delete keyed hg
  | operations id =>
    simp only [answer]
    split <;> exact .refl m
  | instanceOf id =>
    simp only [answer]
    split
    next hhidden => exact .revealed hhidden
    next n i hhidden =>
      refine .kept rfl rfl rfl rfl fun j k i' hj => ?_
      by_cases heq : j = id
      · rw [heq, SortedMap.get?_insert_self] at hj
        cases hj
        exact ⟨n + 1, heq ▸ hhidden⟩
      · rw [SortedMap.get?_insert_of_ne _ _ heq] at hj
        exact ⟨k, hj⟩
    next => split <;> exact .refl m
  | _ => exact .refl m

/-- Others who put no group there do nothing to instances. -/
theorem Told.exposes {m m' : Memory} (told : Told (fun _ => False) m m') : m.Exposes m' := by
  cases told with
  | nodeGroup admitted => exact admitted.elim
  | _ => exact exposes_of_eq rfl rfl rfl rfl

/-! ### What stays -/

theorem isSome_made?_of_shown? {m : Memory} {id : NodeGroupId} {i : String}
    (h : m.shown? id = some i) : (m.made? id).isSome = true := by
  obtain ⟨g, hg, -⟩ := Option.bind_eq_some_iff.1 h
  rw [made?_of_get? hg]
  rfl

theorem shown?_create (m : Memory) (spec : NodeGroupSpec) (id : NodeGroupId) :
    (m.create spec).2.shown? id = if id = newId (m.count + 1) then none else m.shown? id := by
  have hinsert : (m.create spec).2.nodeGroups =
      m.nodeGroups.insert (newId (m.count + 1)) (spec.group (newId (m.count + 1))) := rfl
  exact shown?_of_insert hinsert id

theorem shown?_reveal {m : Memory} {id : NodeGroupId} (there : (m.made? id).isSome = true)
    (i : String) (j : NodeGroupId) :
    (m.reveal id i).shown? j = if j = id then some i else m.shown? j := by
  obtain ⟨g, hg⟩ : ∃ g, m.nodeGroups.get? id = some g := by
    rw [made?, Option.isSome_map] at there
    exact Option.isSome_iff_exists.1 there
  have hinsert : (m.reveal id i).nodeGroups =
      m.nodeGroups.insert id { g with instanceId := some i, state := .running } := by
    rw [reveal, hg]
    rfl
  exact shown?_of_insert hinsert j

namespace Assigned

variable {m : Memory} (h : m.Assigned) {i : String} {id : NodeGroupId}

include h

theorem owners_create (spec : NodeGroupSpec) (owner : m.owners.get? i = some id) :
    (m.create spec).2.owners.get? i = some id := by
  have hne : i ≠ newInstance (m.count + 1) := fun hi => by
    cases h.fresh.1.symm.trans (hi ▸ owner)
  exact (SortedMap.get?_insert_of_ne _ _ hne).trans owner

theorem create (spec : NodeGroupSpec) : (m.create spec).2.Assigned where
  issued i id howner := by
    change (m.owners.insert (newInstance (m.count + 1)) (newId (m.count + 1))).get? i = _ at howner
    by_cases hi : i = newInstance (m.count + 1)
    · rw [hi, SortedMap.get?_insert_self] at howner
      cases howner
      exact ⟨m.count + 1, Nat.le_refl _, hi, rfl⟩
    · rw [SortedMap.get?_insert_of_ne _ _ hi] at howner
      obtain ⟨number, hle, hpair⟩ := h.issued i id howner
      exact ⟨number, Nat.le_succ_of_le hle, hpair⟩
  numbered id hid := by
    rw [put_create] at hid
    split at hid
    next heq => exact ⟨m.count + 1, Nat.le_refl _, heq⟩
    next =>
      obtain ⟨number, hle, hnumber⟩ := h.numbered id hid
      exact ⟨number, Nat.le_succ_of_le hle, hnumber⟩
  keyed := (m.put_create spec).keyed h.keyed rfl
  shown id i hshown := by
    rw [shown?_create] at hshown
    split at hshown
    next => cases hshown
    next => exact h.owners_create spec (h.shown id i hshown)
  hidden id n i hhidden := by
    change (m.hidden.insert (newId (m.count + 1))
      (m.instanceDelay, newInstance (m.count + 1))).get? id = _ at hhidden
    rw [put_create, shown?_create]
    by_cases hid : id = newId (m.count + 1)
    · rw [hid, SortedMap.get?_insert_self] at hhidden
      cases hhidden
      rw [if_pos hid, if_pos hid, hid]
      exact ⟨SortedMap.get?_insert_self .., rfl, rfl⟩
    · rw [SortedMap.get?_insert_of_ne _ _ hid] at hhidden
      obtain ⟨howner, hmade, hshown⟩ := h.hidden id n i hhidden
      rw [if_neg hid, if_neg hid]
      exact ⟨h.owners_create spec howner, hmade, hshown⟩

theorem reveal {n : Nat} (hidden : m.hidden.get? id = some (n, i)) : (m.reveal id i).Assigned := by
  obtain ⟨howner, hthere, -⟩ := h.hidden id n i hidden
  have hmade := made?_reveal m id i
  constructor
  · exact h.issued
  · rw [hmade]
    exact h.numbered
  · rw [Keyed, hmade]
    exact h.keyed
  · intro j i' hj
    rw [shown?_reveal hthere] at hj
    split at hj
    next heq =>
      cases hj
      exact heq ▸ howner
    next => exact h.shown j i' hj
  · intro j k i' hj
    obtain ⟨hne, hj⟩ := SortedMap.get?_erase_eq_some_iff.1 hj
    rw [hmade, shown?_reveal hthere, if_neg hne]
    exact h.hidden j k i' hj

end Assigned

theorem Exposes.assigned {m m' : Memory} (exposes : m.Exposes m') (h : m.Assigned) :
    m'.Assigned := by
  cases exposes with
  | made spec => exact h.create spec
  | revealed hidden => exact h.reveal hidden
  | kept owners count made shown hidden =>
    constructor
    · rw [owners, count]
      exact h.issued
    · rw [made, count]
      exact h.numbered
    · rw [Keyed, made]
      exact h.keyed
    · rw [shown, owners]
      exact h.shown
    · intro id n i hi
      obtain ⟨k, hk⟩ := hidden id n i hi
      rw [owners, made, shown]
      exact h.hidden id k i hk

/-- A group that shows an instance goes on to show it. -/
theorem Exposes.shown? {m m' : Memory} (exposes : m.Exposes m') (h : m.Assigned)
    {id : NodeGroupId} {i : String} (shown : m.shown? id = some i) : m'.shown? id = some i := by
  cases exposes with
  | kept _ _ _ same _ => rw [same, shown]
  | made spec =>
    have hne : id ≠ newId (m.count + 1) := fun hid => by
      have hmade := isSome_made?_of_shown? shown
      rw [hid, h.fresh.2] at hmade
      cases hmade
    rw [shown?_create, if_neg hne, shown]
  | @revealed j n i' hidden =>
    obtain ⟨-, hthere, hunshown⟩ := h.hidden j n i' hidden
    have hne : id ≠ j := fun hid => by
      cases hunshown.symm.trans (hid ▸ shown)
    rw [shown?_reveal hthere, if_neg hne, shown]

/-- Instances are assigned, and those that were shown are shown still. -/
structure Keeps (m m' : Memory) : Prop where
  assigned : m'.Assigned
  shown : ∀ id i, m.shown? id = some i → m'.shown? id = some i

theorem Assigned.keeps {m m' : Memory} (h : m.Assigned) (exposes : m.Exposes m') : m.Keeps m' :=
  ⟨exposes.assigned h, fun _ _ => exposes.shown? h⟩

theorem Keeps.trans {m₁ m₂ m₃ : Memory} (h : m₁.Keeps m₂) (h' : m₂.Keeps m₃) : m₁.Keeps m₃ :=
  ⟨h'.assigned, fun id i hi => h'.shown id i (h.shown id i hi)⟩

/-- If a poll names an instance, the group shows it from then on. -/
theorem Assigned.shown?_of_answer {m m' : Memory} (h : m.Assigned) {id : NodeGroupId} {i : String}
    (answer : (.ok (some i), m') = m.answer (.instanceOf id)) : m'.shown? id = some i := by
  simp only [Memory.answer] at answer
  split at answer
  next hhidden =>
    cases answer
    rw [shown?_reveal (h.hidden id _ _ hhidden).2.1, if_pos rfl]
  next => cases answer
  next =>
    split at answer
    next => cases answer
    next g hg =>
      obtain ⟨hi, rfl⟩ := Prod.mk.inj answer
      rw [Memory.shown?, hg, Option.bind_some, ← Except.ok.inj hi]

end Memory

end NodeSupply
