import NodeSupply.Proofs.Verdict.Checks
import NodeSupply.Proofs.Verdict.Fingerprint

/-!
# Verdicts that are served to other classes

A verdict is kept under the key of a class and is served to every class of that key.  The key
forgets in which order a class lists its subnets, while the checks look at the first of the entries
for a subnet only.  So two classes of one key may get different verdicts of one provider, and do so
exactly if they are well formed and record different zones first for some subnet.

## Main definitions

* `Checks.MissingOnly` : a provider whose calls fail only because something is not there.
* `Checks.SameFirstZones` : for each subnet the same zone is recorded first.
* `Checks.reporting` : a provider that reports the zone of one subnet.

## Main statements

* `Checks.Passes.of_content_eq` : when a verdict is right for another class of the same content.
* `Checks.forall_passes_iff` : when every provider treats two classes of one key alike.
-/

namespace NodeSupply.Checks

/-- Calls fail only because something is not there. -/
def MissingOnly (answers : Answers) : Prop :=
  ∀ (r : Request) (e : ProviderError), answers r = .error e → e.isNotFound = true

/-- Two lists of entries record the same zone first for each subnet. -/
def SameFirstZones (l m : List ResolvedSubnet) : Prop :=
  ∀ s t, IsFirst l s → IsFirst m t → s.id = t.id → s.zone = t.zone

/-! ### First entries -/

theorem IsFirst.mem {l : List ResolvedSubnet} {s : ResolvedSubnet} (h : IsFirst l s) : s ∈ l :=
  List.mem_of_find?_eq_some h

theorem IsFirst.eq {l : List ResolvedSubnet} {s t : ResolvedSubnet} (hs : IsFirst l s)
    (ht : IsFirst l t) (h : s.id = t.id) : s = t := by
  unfold IsFirst at hs ht
  rw [h, ht] at hs
  exact (Option.some.inj hs).symm

/-- Some entry for a subnet is the first. -/
theorem exists_isFirst {l : List ResolvedSubnet} {s : ResolvedSubnet} (h : s ∈ l) :
    ∃ t, IsFirst l t ∧ t.id = s.id := by
  have hsome : (l.find? (·.id == s.id)).isSome = true :=
    List.find?_isSome.2 ⟨s, h, beq_self_eq_true _⟩
  obtain ⟨t, ht⟩ := Option.isSome_iff_exists.1 hsome
  have hid : t.id = s.id := by simpa using List.find?_some ht
  refine ⟨t, ?_, hid⟩
  unfold IsFirst
  rw [hid]
  exact ht

/-! ### Classes of the same content -/

section

variable {c d : NodeClass}

theorem exists_subnet_of_content_eq (same : Fingerprint.content c = Fingerprint.content d)
    {s : ResolvedSubnet} (h : s ∈ c.subnets) : ∃ t ∈ d.subnets, t.id = s.id ∧ t.zone = s.zone :=
  ((Fingerprint.content_eq_iff.1 same).subnets s.id s.zone).1 ⟨s, h, rfl, rfl⟩

theorem acceleratedNetwork_eq_none_iff : acceleratedNetwork c = none ↔
    c.acceleratedNetwork = false ∨ ∀ f ∈ c.coreFractions, f.isFull = true := by
  unfold acceleratedNetwork
  split
  next h => simpa using h
  next h => simpa using h

/-- The rules that need no call look at the content of a class only. -/
theorem WellFormed.of_content_eq (h : WellFormed c)
    (same : Fingerprint.content c = Fingerprint.content d) : WellFormed d where
  disk := by
    have alike := Fingerprint.content_eq_iff.1 same
    rw [← alike.diskType, ← alike.diskSizeBytes]
    exact h.disk
  subnets := by
    obtain ⟨s, hs⟩ := List.exists_mem_of_ne_nil _ h.subnets
    obtain ⟨t, ht, -⟩ := exists_subnet_of_content_eq same hs
    exact List.ne_nil_of_mem ht
  ids := by
    intro t ht
    obtain ⟨s, hs, hid, -⟩ := exists_subnet_of_content_eq same.symm ht
    rw [← hid]
    exact h.ids s hs
  acceleratedNetwork := by
    have alike := Fingerprint.content_eq_iff.1 same
    rw [acceleratedNetwork_eq_none_iff, ← alike.acceleratedNetwork]
    refine (acceleratedNetwork_eq_none_iff.1 h.acceleratedNetwork).imp_right fun hfull f hf => ?_
    exact hfull f ((alike.coreFractions f).2 hf)

/-- Whether an entry fits depends on its subnet and its zone only. -/
theorem Fits.congr {answers : Answers} {network : NetworkId} {s t : ResolvedSubnet}
    (h : Fits answers network s) (id : s.id = t.id) (zone : s.zone = t.zone) :
    Fits answers network t := by
  obtain ⟨reported, hreported, hrule⟩ := h
  unfold subnetRule at hrule
  rw [id] at hreported
  rw [id, zone] at hrule
  exact ⟨reported, hreported, hrule⟩

/-- A verdict is right for another class of the same content that records the same zones first. -/
theorem Passes.of_content_eq {answers : Answers} (h : Passes answers c)
    (same : Fingerprint.content c = Fingerprint.content d)
    (zones : SameFirstZones c.subnets d.subnets) : Passes answers d := by
  obtain ⟨hformed, network, hnetwork, hfits, hadmits⟩ := passes_iff.1 h
  refine passes_iff.2
    ⟨hformed.of_content_eq same, network, hnetwork, fun t ht => ?_, fun id hid => ?_⟩
  · obtain ⟨s', hs', hid', -⟩ := exists_subnet_of_content_eq same.symm ht.mem
    obtain ⟨s, hs, hid⟩ := exists_isFirst hs'
    have hst : s.id = t.id := hid.trans hid'
    exact (hfits s hs).congr hst (zones s t hs ht hst)
  · exact hadmits id (((Fingerprint.content_eq_iff.1 same).securityGroups id).2 hid)

end

/-! ### A provider that tells classes apart -/

/-- A provider that has every subnet and every security group, and reports the zone of one
subnet. -/
def reporting (id : SubnetId) (zone : Zone) : Answers
  | .clusterNetwork => .ok ""
  | .subnet i => .ok ⟨i, "", if i = id then zone else ""⟩
  | .securityGroup i => .ok ⟨i, ""⟩
  | _ => .error (.notFound "anything else" "")

theorem missingOnly_reporting (id : SubnetId) (zone : Zone) : MissingOnly (reporting id zone) := by
  intro r e h
  cases r <;> cases h <;> rfl

/-- Two zones do not contradict each other: they are the same, or one is not known. -/
def ZonesFit (recorded reported : Zone) : Prop :=
  recorded = "" ∨ reported = "" ∨ recorded = reported

/-- What it is for an entry to fit, in words of networks and zones. -/
theorem fits_iff {answers : Answers} {network : NetworkId} {s : ResolvedSubnet} :
    Fits answers network s ↔ ∃ reported, answers (.subnet s.id) = .ok reported ∧
      (reported.network = "" ∨ reported.network = network) ∧ ZonesFit s.zone reported.zone := by
  have hrule : ∀ reported, subnetRule network s reported = none ↔
      (reported.network = "" ∨ reported.network = network) ∧
        ZonesFit s.zone reported.zone := by
    intro reported
    unfold subnetRule ZonesFit
    grind
  unfold Fits
  simp only [hrule]

theorem fits_reporting_iff {id : SubnetId} {zone : Zone} {network : NetworkId}
    {s : ResolvedSubnet} :
    Fits (reporting id zone) network s ↔ (s.id = id → ZonesFit s.zone zone) := by
  rw [fits_iff]
  by_cases h : s.id = id
  · simp [reporting, h]
  · simp [reporting, h, ZonesFit]

theorem passes_reporting_iff {c : NodeClass} (formed : WellFormed c) {s : ResolvedSubnet}
    (first : IsFirst c.subnets s) (zone : Zone) :
    Passes (reporting s.id zone) c ↔ ZonesFit s.zone zone := by
  rw [passes_iff]
  constructor
  · rintro ⟨-, network, -, hfits, -⟩
    exact fits_reporting_iff.1 (hfits s first) rfl
  · intro hzone
    refine ⟨formed, "", rfl, fun t ht => fits_reporting_iff.2 fun hid => ?_, fun id _ => ?_⟩
    · rw [ht.eq first hid]
      exact hzone
    · exact ⟨_, rfl, .inl rfl⟩

/-- Some zone fits one zone and not another that is known. -/
theorem exists_zonesFit_and_not {a b : Zone} (known : b ≠ "") (h : a ≠ b) :
    ∃ zone, ZonesFit a zone ∧ ¬ ZonesFit b zone := by
  unfold ZonesFit
  by_cases ha : a = ""
  · have hne : b ≠ b ++ "-" := fun heq => by
      have hlength := congrArg String.length heq
      simp at hlength
    exact ⟨b ++ "-", by simp [ha, known, hne]⟩
  · exact ⟨a, by simp [known, ha, h.symm]⟩

/-- Of two zones some zone fits one and not the other. -/
theorem exists_zonesFit_iff_not {a b : Zone} (h : a ≠ b) :
    ∃ zone, ZonesFit a zone ↔ ¬ ZonesFit b zone := by
  by_cases hb : b = ""
  · obtain ⟨zone, hfit, hnot⟩ := exists_zonesFit_and_not (fun ha => h (ha.trans hb.symm)) h.symm
    exact ⟨zone, iff_of_false hnot (not_not_intro hfit)⟩
  · obtain ⟨zone, hfit, hnot⟩ := exists_zonesFit_and_not hb h
    exact ⟨zone, iff_of_true hfit hnot⟩

/-! ### Classes of one key -/

/-- Every provider whose calls fail only because something is not there treats two classes of one
key alike, exactly if the classes are not well formed or record the same zones first. -/
theorem forall_passes_iff {c d : NodeClass}
    (uncollided :
      Sha256.Uncollided (Fingerprint.content c).document (Fingerprint.content d).document)
    (same : Fingerprint.key c = Fingerprint.key d) :
    (∀ answers, MissingOnly answers → (Passes answers c ↔ Passes answers d)) ↔
      (¬ WellFormed c ∨ SameFirstZones c.subnets d.subnets) := by
  obtain ⟨-, hcontent⟩ := Fingerprint.eq_of_key_eq uncollided same
  constructor
  · intro halike
    by_cases hformed : WellFormed c
    · refine .inr fun s t hs ht hid => Classical.byContradiction fun hne => ?_
      obtain ⟨zone, hzone⟩ := exists_zonesFit_iff_not hne
      have hc := passes_reporting_iff hformed hs zone
      have hd := passes_reporting_iff (hformed.of_content_eq hcontent) ht zone
      have hsame := halike _ (missingOnly_reporting s.id zone)
      rw [hc, hid, hd] at hsame
      exact iff_not_self (hsame.symm.trans hzone)
    · exact .inl hformed
  · rintro (hformed | hzones) answers -
    · have hnot : ¬ WellFormed d := fun h => hformed (h.of_content_eq hcontent.symm)
      constructor
      · intro h
        exact absurd (passes_iff.1 h).1 hformed
      · intro h
        exact absurd (passes_iff.1 h).1 hnot
    · constructor
      · intro h
        exact h.of_content_eq hcontent hzones
      · intro h
        refine h.of_content_eq hcontent.symm fun t s ht hs hid => ?_
        exact (hzones s t hs ht hid.symm).symm

/-- A class that records one subnet in two zones. -/
def recordedTwice (first second : Zone) : NodeClass :=
  { NodeClass.named "class" with
    diskSizeBytes := .ofNat (4 * mebibyte)
    subnets := [⟨"subnet", first, none⟩, ⟨"subnet", second, none⟩]
    subnetsReady := .true }

/-- Two classes of one key that some provider does not treat alike. -/
theorem one_key_two_verdicts : ∃ c d : NodeClass, Fingerprint.key c = Fingerprint.key d ∧
    WellFormed c ∧ ∃ answers, MissingOnly answers ∧ ¬ (Passes answers c ↔ Passes answers d) := by
  have hcontent : Fingerprint.content (recordedTwice "a" "b") =
      Fingerprint.content (recordedTwice "b" "a") := by
    have hsubnets : (Fingerprint.content (recordedTwice "a" "b")).subnets =
        (Fingerprint.content (recordedTwice "b" "a")).subnets := by
      refine SortedSet.eq_of_mem_iff fun s => ?_
      simp [Fingerprint.content, recordedTwice, or_comm]
    exact congrArg (fun subnets => { Fingerprint.content (recordedTwice "a" "b") with subnets })
      hsubnets
  have hkey :
      Fingerprint.key (recordedTwice "a" "b") = Fingerprint.key (recordedTwice "b" "a") := by
    rw [Fingerprint.key, Fingerprint.key, hcontent]
    rfl
  have hformed : WellFormed (recordedTwice "a" "b") :=
    { disk := by decide
      subnets := List.cons_ne_nil _ _
      ids := by decide
      acceleratedNetwork := rfl }
  have hzones :
      ¬ SameFirstZones (recordedTwice "a" "b").subnets (recordedTwice "b" "a").subnets := by
    intro hsame
    have hzone := hsame ⟨"subnet", "a", none⟩ ⟨"subnet", "b", none⟩ rfl rfl rfl
    exact absurd hzone (by decide)
  have hiff := forall_passes_iff (fun _ => by rw [hcontent]) hkey
  have hdiffer : ¬ ∀ answers, MissingOnly answers →
      (Passes answers (recordedTwice "a" "b") ↔ Passes answers (recordedTwice "b" "a")) := by
    intro halike
    rcases hiff.1 halike with hnot | hsame
    · exact hnot hformed
    · exact hzones hsame
  obtain ⟨answers, hanswers⟩ := Classical.not_forall.1 hdiffer
  obtain ⟨hmissing, hverdicts⟩ := Classical.not_imp.1 hanswers
  exact ⟨_, _, hkey, hformed, answers, hmissing, hverdicts⟩

end NodeSupply.Checks
