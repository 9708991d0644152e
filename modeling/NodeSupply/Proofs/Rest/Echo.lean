import NodeSupply.Proofs.Json.Parts
import NodeSupply.Proofs.Routine.GroupRequest
import NodeSupply.Rest.GroupDocument

/-!
# A new group reads as it was asked for

A group is asked for in one kind of document and read from another.  The first gives memory in
bytes where a shape counts MiB, gives numbers as texts, and names the subnet with the interface of
the node and not with its place.  If a provider gives back what was asked for, with an id and a
status, what is read is the group that was meant.

## Main definitions

* `NodeGroupSpec.Echo` : a document that gives back what was asked for.
* `NodeGroupSpec.echoed` : what such a document reads as.

## Main statements

* `NodeGroupSpec.Echo.ofJson?`, `NodeGroupSpec.group_echoed` : reading, in its two stages.
* `NodeGroupSpec.echo_reads_back` : both stages together.
-/

namespace NodeSupply

/-! ### Members of the document -/

theorem Json.wordOrText?_text {s : String} (nonempty : s ≠ "") : (text s).wordOrText? =
    (Numeral.readSignedBelow? UInt64.size s.toList).map UInt64.ofNat := by
  unfold wordOrText?
  split
  next heq => cases heq
  next heq => exact absurd (text.inj heq) nonempty
  next heq => rw [text.inj heq]
  next other => exact absurd rfl (other s)

namespace NodeGroupSpec

theorem wordOrText?_numberText {n : Nat} (h : n < UInt64.size) :
    (numberText n).wordOrText? = some (UInt64.ofNat n) := by
  have hchars : (Numeral.text n).toList = Numeral.write n := String.toList_ofList
  have hnonempty : Numeral.text n ≠ "" := fun hempty => by
    rw [hempty] at hchars
    exact Numeral.write_ne_nil n hchars.symm
  rw [numberText, Json.wordOrText?_text hnonempty, hchars, Numeral.readSignedBelow?_write h,
    Option.map_some]

theorem stringMap?_labelsJson (labels : SortedMap String String) :
    (labelsJson labels).stringMap? = some labels := by
  have hmembers : (labelsJson labels).stringMembers? = some labels.entries :=
    Json.stringMembers?_text labels.entries
  rw [Json.stringMap?, hmembers, Option.map_some, SortedMap.ofList_entries]

/-- How the nodes are made of a group that is read as it was asked for. -/
def template (s : NodeGroupSpec) : GroupDocument.Template where
  platform := s.shape.platform
  memory := s.memoryBytes
  cores := s.shape.cpu.toUInt64
  coreFraction := UInt64.ofNat s.shape.fraction.percent
  diskType := s.disk.name
  diskSize := s.diskSizeBytes
  preemptible := s.discounted
  interfaceSubnets := [[s.subnet]]

theorem template?_templateJson (s : NodeGroupSpec) :
    GroupDocument.template? s.templateJson = some s.template := by
  have hmemory := wordOrText?_numberText s.memoryBytes.toNat_lt
  have hsize := wordOrText?_numberText s.diskSizeBytes.toNat_lt
  have hcores : (numberText s.shape.cpu.toNat).wordOrText? =
      some (UInt64.ofNat s.shape.cpu.toNat) :=
    wordOrText?_numberText (Nat.lt_trans s.shape.cpu.toNat_lt (by decide))
  have hshare := wordOrText?_numberText (Nat.lt_of_le_of_lt s.shape.fraction.valid.2 (by decide))
  have hresources : GroupDocument.resources? (.object
      [("memory", numberText s.memoryBytes.toNat), ("cores", numberText s.shape.cpu.toNat),
        ("coreFraction", numberText s.shape.fraction.percent)]) =
      some (s.memoryBytes, s.shape.cpu.toUInt64, UInt64.ofNat s.shape.fraction.percent) := by
    simp [GroupDocument.resources?, Json.record?, Json.Members.optional, Json.Members.at?,
      hmemory, hcores, hshare]
  have hdisk : GroupDocument.disk? (.object
      [("diskTypeId", .text s.disk.name), ("diskSize", numberText s.diskSizeBytes.toNat)]) =
      some (s.disk.name, s.diskSizeBytes) := by
    simp [GroupDocument.disk?, Json.record?, Json.Members.optional, Json.Members.at?,
      Json.string?, hsize]
  simp only [GroupDocument.template?, templateJson, Json.record?, Json.Members.optional,
    Json.Members.at?]
  simp [hresources, hdisk]
  rfl

/-! ### Documents -/

/-- A document gives back what was asked for: it is the document that asked for it, with an id and
a status somewhere among its members. -/
def Echo (s : NodeGroupSpec) (id status : String) (value : Json) : Prop :=
  ∃ asked members, s.document = .object asked ∧ value = .object members ∧
    members.Perm (("id", .text id) :: ("status", .text status) :: asked)

/-- What a document reads as that gives back what was asked for. -/
def echoed (s : NodeGroupSpec) (id status : String) : GroupDocument where
  id
  name := s.name
  cluster := s.cluster
  labels := s.labels
  status
  template := s.template
  locations := [⟨s.zone, ""⟩]

theorem Echo.ofJson? {s : NodeGroupSpec} {id status : String} {value : Json}
    (h : s.Echo id status value) : GroupDocument.ofJson? value = some (s.echoed id status) := by
  obtain ⟨asked, members, hasked, rfl, hperm⟩ := h
  cases hasked
  have hlabels := stringMap?_labelsJson s.labels
  have htemplate := template?_templateJson s
  have hlocations : GroupDocument.locations? (.object
      [("locations", .array [.object [("zoneId", .text s.zone)]])]) = some [⟨s.zone, ""⟩] := rfl
  rw [GroupDocument.ofJson?, Json.record?_perm hperm]
  simp [Json.record?, Json.Members.optional, Json.Members.required, Json.Members.at?,
    Json.string?, hlabels, htemplate, hlocations]
  rfl

/-! ### Groups -/

/-- The bytes of an amount of memory give it back as long as a word holds them. -/
theorem memoryBytes_shiftRight {s : NodeGroupSpec}
    (memory : s.shape.memoryMib.toNat < Nat.pow 2 44) :
    s.memoryBytes >>> 20 = s.shape.memoryMib := by
  have hbytes : s.memoryBytes.toNat = s.shape.memoryMib.toNat * Nat.pow 2 20 := by
    rw [memoryBytes, UInt64.toNat_shiftLeft, Nat.shiftLeft_eq, Nat.mod_eq_of_lt]
    · rfl
    · exact Nat.mul_lt_mul_of_pos_right memory (by decide)
  apply UInt64.toNat_inj.1
  rw [UInt64.toNat_shiftRight, hbytes, Nat.shiftRight_eq_div_pow]
  exact Nat.mul_div_cancel _ (by decide)

theorem ofPercent?_template (s : NodeGroupSpec) :
    CoreFraction.ofPercent? s.template.coreFraction.toNat = some s.shape.fraction := by
  have hshare : s.template.coreFraction.toNat = s.shape.fraction.percent :=
    UInt64.toNat_ofNat_of_lt (Nat.lt_of_le_of_lt s.shape.fraction.valid.2 (by decide))
  rw [hshare, CoreFraction.ofPercent?, dif_pos s.shape.fraction.valid]

theorem group_echoed {s : NodeGroupSpec} (memory : s.shape.memoryMib.toNat < Nat.pow 2 44)
    (zoned : s.zone ≠ "") (id status : String) :
    (s.echoed id status).group = .ok { s.group id with state := .ofStatus status } := by
  have hcores : s.template.cores.toNat = s.shape.cpu.toNat := UInt32.toNat_toUInt64 _
  have hfew : ¬ UInt32.size ≤ s.template.cores.toNat := by
    rw [hcores]
    exact Nat.not_le.2 s.shape.cpu.toNat_lt
  have hzone : ((s.echoed id status).locations.head?.map (·.zone)).filter (· ≠ "") =
      some s.zone := by
    simp [echoed, zoned]
  -- The place names no subnet, so the one of the interface counts.
  have hsubnet : (s.echoed id status).subnet? = some s.subnet := rfl
  have hshape : (⟨s.template.platform, s.shape.fraction, UInt32.ofNat s.template.cores.toNat,
      s.template.memory >>> 20⟩ : Shape) = s.shape := by
    rw [hcores, UInt32.ofNat_toNat]
    exact congrArg (Shape.mk _ _ _) (memoryBytes_shiftRight memory)
  have htemplate : (s.echoed id status).template = s.template := rfl
  simp only [GroupDocument.group, htemplate, s.ofPercent?_template, Option.elim_some, bind,
    Except.bind, if_neg hfew, hzone, hsubnet, hshape, pure, Except.pure]
  rfl

/-- A document that gives back what was asked for reads as the group that is made of it, in the
state that it tells; and if this library asked for the group, it is known as one made here. -/
theorem echo_reads_back {s : NodeGroupSpec} (memory : s.shape.memoryMib.toNat < Nat.pow 2 44)
    (zoned : s.zone ≠ "") {id status : String} {value : Json} (echo : s.Echo id status value) :
    ∃ d, GroupDocument.ofJson? value = some d ∧
      d.group = .ok { s.group id with state := .ofStatus status } ∧
      ∀ (home : String) (r : NodeGroupRequest), s = r.spec home → d.isManagedIn home = true := by
  refine ⟨s.echoed id status, echo.ofJson?, group_echoed memory zoned id status, ?_⟩
  rintro home r rfl
  exact r.isManagedIn_group_spec home id

/-- A request for a discounted node with half a GiB more than one. -/
def spotRequest : NodeGroupRequest where
  name := "node"
  shape := ⟨"standard-v3", .full, 2, 1536⟩
  zone := "a"
  subnet := "subnet-a"
  discounted := true
  disk := .hdd
  diskSizeBytes := 68719476736
  labels := .ofList [("team", "Platform")]
  securityGroups := ["group-a"]
  acceleratedNetwork := true

/-- The group of `spotRequest` is read from a document with its status first and its id last. -/
theorem spotRequest_reads_back :
    ∃ value d g, (spotRequest.spec "home").Echo "group" "RUNNING" value ∧
    GroupDocument.ofJson? value = some d ∧ d.group = .ok g ∧ d.isManagedIn "home" = true ∧
    g.shape = ⟨"standard-v3", .full, 2, 1536⟩ ∧ g.zone = some "a" ∧
    g.subnet = some "subnet-a" ∧ g.discounted = true ∧ g.state = .running := by
  obtain ⟨asked, hasked⟩ : ∃ asked, (spotRequest.spec "home").document = .object asked := ⟨_, rfl⟩
  have hecho : (spotRequest.spec "home").Echo "group" "RUNNING"
      (.object (("status", .text "RUNNING") :: (asked ++ [("id", .text "group")]))) :=
    ⟨asked, _, hasked, rfl, (List.Perm.cons _ (List.perm_append_singleton ..)).trans
      (List.Perm.swap ..)⟩
  obtain ⟨d, hd, hgroup, hmanaged⟩ := echo_reads_back (by decide) (by decide) hecho
  exact ⟨_, d, _, hecho, hd, hgroup, hmanaged "home" spotRequest rfl, rfl, rfl, rfl, rfl, rfl⟩

end NodeGroupSpec

end NodeSupply
