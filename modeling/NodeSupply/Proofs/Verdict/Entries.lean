import NodeSupply.Proofs.Verdict.Served

/-!
# The entries that the subnet rule looks at

The rule about subnets is meant for every entry of a class.  The checks look a subnet up once and
pass over the further entries for it, so they hold the first entry for each subnet to the rule and
compare no zone that a later one records.  What they say about a class is right of every entry
exactly if no later entry records a zone of its own.

## Main definitions

* `Checks.SubnetsPass` : a class keeps the rule about subnets, as it is checked.
* `Checks.EveryEntryFits` : every entry of a class fits what the provider says.
* `Checks.RepeatsFirstZone` : no entry but the first for a subnet records a zone of its own.

## Main statements

* `Checks.subnetsPass_iff` : the rule about subnets, as it is checked.
* `Checks.subnetsPass_iff_everyEntryFits_iff` : when the rule as it is checked and the rule as it is
  meant agree with every provider.
-/

namespace NodeSupply.Checks

/-! ### The rule as it is checked -/

/-- A class that lists the same subnets and breaks no rule but, perhaps, the one about them. -/
def subnetsAlone (c : NodeClass) : NodeClass :=
  { NodeClass.named c.name with diskSizeBytes := .ofNat (4 * mebibyte), subnets := c.subnets }

/-- A class keeps the rule about subnets, as it is checked. -/
def SubnetsPass (answers : Answers) (c : NodeClass) : Prop := Passes answers (subnetsAlone c)

section

variable {answers : Answers} {c : NodeClass}

theorem wellFormed_subnetsAlone_iff :
    WellFormed (subnetsAlone c) ↔ c.subnets ≠ [] ∧ ∀ s ∈ c.subnets, s.id ≠ "" := by
  have hdisk : disk (subnetsAlone c).diskType (subnetsAlone c).diskSizeBytes = none := by
    change disk "" (.ofNat (4 * mebibyte)) = none
    decide
  constructor
  · intro hformed
    exact ⟨hformed.subnets, hformed.ids⟩
  · rintro ⟨hsubnets, hids⟩
    exact ⟨hdisk, hsubnets, hids, rfl⟩

/-- A class keeps the rule about subnets, as it is checked, if it lists subnets, each by an id, and
the first entry for each fits. -/
theorem subnetsPass_iff : SubnetsPass answers c ↔
    c.subnets ≠ [] ∧ (∀ s ∈ c.subnets, s.id ≠ "") ∧
      ∃ network, answers .clusterNetwork = .ok network ∧
        ∀ s, IsFirst c.subnets s → Fits answers network s := by
  have hgroups : ∀ network, ∀ id ∈ (subnetsAlone c).securityGroups, Admits answers network id :=
    fun _ _ hid => absurd hid List.not_mem_nil
  unfold SubnetsPass
  rw [passes_iff, wellFormed_subnetsAlone_iff, and_assoc]
  constructor
  · rintro ⟨hsubnets, hids, network, hnetwork, hfits, -⟩
    exact ⟨hsubnets, hids, network, hnetwork, hfits⟩
  · rintro ⟨hsubnets, hids, network, hnetwork, hfits⟩
    exact ⟨hsubnets, hids, network, hnetwork, hfits, hgroups network⟩

/-! ### The rule as it is meant -/

/-- A class lists subnets, and every entry has an id, is for a subnet that is there, in the network
of the cluster if one is reported, and records the zone of the subnet, if both zones are known. -/
def EveryEntryFits (answers : Answers) (c : NodeClass) : Prop :=
  c.subnets ≠ [] ∧ ∃ network, answers .clusterNetwork = .ok network ∧
    ∀ s ∈ c.subnets, s.id ≠ "" ∧ ∃ reported, answers (.subnet s.id) = .ok reported ∧
      (reported.network = "" ∨ reported.network = network) ∧ ZonesFit s.zone reported.zone

theorem everyEntryFits_iff : EveryEntryFits answers c ↔
    c.subnets ≠ [] ∧ (∀ s ∈ c.subnets, s.id ≠ "") ∧
      ∃ network, answers .clusterNetwork = .ok network ∧
        ∀ s ∈ c.subnets, Fits answers network s := by
  constructor
  · rintro ⟨hsubnets, network, hnetwork, hentries⟩
    exact ⟨hsubnets, fun s hs => (hentries s hs).1, network, hnetwork,
      fun s hs => fits_iff.2 (hentries s hs).2⟩
  · rintro ⟨hsubnets, hids, network, hnetwork, hfits⟩
    exact ⟨hsubnets, network, hnetwork, fun s hs => ⟨hids s hs, fits_iff.1 (hfits s hs)⟩⟩

/-- A class all of whose entries fit is not turned down. -/
theorem EveryEntryFits.subnetsPass (h : EveryEntryFits answers c) : SubnetsPass answers c := by
  obtain ⟨hsubnets, hids, network, hnetwork, hfits⟩ := everyEntryFits_iff.1 h
  exact subnetsPass_iff.2 ⟨hsubnets, hids, network, hnetwork, fun s hs => hfits s hs.mem⟩

/-! ### When the two agree -/

/-- No entry records a zone that the first entry for its subnet does not record. -/
def RepeatsFirstZone (l : List ResolvedSubnet) : Prop :=
  ∀ s ∈ l, s.zone ≠ "" → ∀ t, IsFirst l t → t.id = s.id → t.zone = s.zone

/-- An entry fits if the first entry for its subnet does and it records no zone of its own. -/
theorem Fits.of_isFirst {network : NetworkId} {s t : ResolvedSubnet} (h : Fits answers network t)
    (id : t.id = s.id) (zone : s.zone ≠ "" → t.zone = s.zone) : Fits answers network s := by
  obtain ⟨reported, hreported, hnetwork, hzone⟩ := fits_iff.1 h
  rw [id] at hreported
  refine fits_iff.2 ⟨reported, hreported, hnetwork, ?_⟩
  by_cases hknown : s.zone = ""
  · exact .inl hknown
  · rw [← zone hknown]
    exact hzone

theorem SubnetsPass.everyEntryFits (h : SubnetsPass answers c)
    (repeats : RepeatsFirstZone c.subnets) : EveryEntryFits answers c := by
  obtain ⟨hsubnets, hids, network, hnetwork, hfits⟩ := subnetsPass_iff.1 h
  refine everyEntryFits_iff.2 ⟨hsubnets, hids, network, hnetwork, fun s hs => ?_⟩
  obtain ⟨t, ht, hid⟩ := exists_isFirst hs
  exact (hfits t ht).of_isFirst hid fun hknown => repeats s hs hknown t ht hid

/-- If some entry records a zone of its own, some provider finds that entry not to fit, and the
class passes all the same. -/
theorem exists_subnetsPass_and_not (hids : ∀ s ∈ c.subnets, s.id ≠ "")
    (h : ¬ RepeatsFirstZone c.subnets) :
    ∃ answers, MissingOnly answers ∧ SubnetsPass answers c ∧ ¬ EveryEntryFits answers c := by
  unfold RepeatsFirstZone at h
  push Not at h
  obtain ⟨s, hs, hknown, t, ht, hid, hne⟩ := h
  obtain ⟨zone, hfirst, hlater⟩ := exists_zonesFit_and_not hknown hne
  have hformed : WellFormed (subnetsAlone c) :=
    wellFormed_subnetsAlone_iff.2 ⟨List.ne_nil_of_mem hs, hids⟩
  refine ⟨reporting t.id zone, missingOnly_reporting _ _, ?_, fun hentries => ?_⟩
  · exact (passes_reporting_iff hformed ht zone).2 hfirst
  · obtain ⟨-, -, network, -, hfits⟩ := everyEntryFits_iff.1 hentries
    exact hlater (fits_reporting_iff.1 (hfits s hs) hid.symm)

end

/-- What is checked is that there are entries, each with an id, and that the first for each subnet
fits.  With every provider whose calls fail only because something is not there this comes to the
same as asking it of every entry, exactly if some entry has no id or no entry records a zone that
the first for its subnet does not record. -/
theorem subnetsPass_iff_everyEntryFits_iff (c : NodeClass) :
    (∀ answers, SubnetsPass answers c ↔
      c.subnets ≠ [] ∧ (∀ s ∈ c.subnets, s.id ≠ "") ∧
        ∃ network, answers .clusterNetwork = .ok network ∧
          ∀ s, IsFirst c.subnets s → Fits answers network s) ∧
    ((∀ answers, MissingOnly answers → (SubnetsPass answers c ↔ EveryEntryFits answers c)) ↔
      (∃ s ∈ c.subnets, s.id = "") ∨ RepeatsFirstZone c.subnets) := by
  refine ⟨fun _ => subnetsPass_iff, fun hagree => ?_, fun hentries answers _ => ?_⟩
  · refine or_iff_not_imp_right.2 fun hrepeats => Classical.byContradiction fun hid => ?_
    push Not at hid
    obtain ⟨answers, hmissing, hpass, hnot⟩ := exists_subnetsPass_and_not hid hrepeats
    exact hnot ((hagree answers hmissing).1 hpass)
  · refine ⟨fun hpass => ?_, fun hfits => hfits.subnetsPass⟩
    rcases hentries with ⟨s, hs, hempty⟩ | hrepeats
    · exact absurd hempty ((subnetsPass_iff.1 hpass).2.1 s hs)
    · exact hpass.everyEntryFits hrepeats

/-- A class that records one subnet in two zones passes although its second entry does not fit. -/
theorem second_entry_passed_over : ∃ answers, MissingOnly answers ∧
    SubnetsPass answers (recordedTwice "a" "b") ∧
    ¬ EveryEntryFits answers (recordedTwice "a" "b") := by
  have hids : ¬ ∃ s ∈ (recordedTwice "a" "b").subnets, s.id = "" := by decide
  have hzones : ¬ RepeatsFirstZone (recordedTwice "a" "b").subnets := by
    intro hrepeats
    have hzone := hrepeats ⟨"subnet", "b", none⟩ (by decide) (by decide)
      ⟨"subnet", "a", none⟩ rfl rfl
    exact absurd hzone (by decide)
  have hdiffer : ¬ ∀ answers, MissingOnly answers →
      (SubnetsPass answers (recordedTwice "a" "b") ↔
        EveryEntryFits answers (recordedTwice "a" "b")) := by
    intro hagree
    rcases (subnetsPass_iff_everyEntryFits_iff _).2.1 hagree with hid | hrepeats
    · exact hids hid
    · exact hzones hrepeats
  obtain ⟨answers, hanswers⟩ := Classical.not_forall.1 hdiffer
  obtain ⟨hmissing, hverdicts⟩ := Classical.not_imp.1 hanswers
  have hnot : ¬ EveryEntryFits answers (recordedTwice "a" "b") :=
    fun hfits => hverdicts (iff_of_true hfits.subnetsPass hfits)
  have hpass : SubnetsPass answers (recordedTwice "a" "b") :=
    Classical.byContradiction fun hfail => hverdicts (iff_of_false hfail hnot)
  exact ⟨answers, hmissing, hpass, hnot⟩

end NodeSupply.Checks
