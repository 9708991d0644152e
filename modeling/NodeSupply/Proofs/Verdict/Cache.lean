import NodeSupply.Proofs.Sorted
import NodeSupply.Verdict.Cache

/-!
# How long verdicts are kept

A verdict that was kept is found again under its key until it has grown too old.  A look at the kept
verdicts only drops what has grown too old, so nobody can tell whether somebody looked.

## Main definitions

* `VerdictCache.Keeps` : a verdict is kept under a key.
* `VerdictCache.Glanced` : somebody may have looked at the kept verdicts.

## Main statements

* `VerdictCache.get_insert` : a verdict that was kept not long ago is found.
* `VerdictCache.get_eq_some_iff` : what is found.
* `VerdictCache.Keeps.of_insert`, `VerdictCache.keeps_clear_iff` : what stays.
* `VerdictCache.Glanced.get_eq` : a look changes nothing that can be found.
-/

namespace NodeSupply.VerdictCache

/-- A verdict is kept under a key, whether it counts or not. -/
def Keeps (c : VerdictCache) (key : String) (k : KeptVerdict) : Prop := c.entries.get? key = some k

/-- Somebody may have looked at the kept verdicts at some time. -/
def Glanced (c : VerdictCache) (now : Instant) (c' : VerdictCache) : Prop :=
  c' = c ∨ ∃ key, c' = (c.get now key).2

@[simp] theorem ttl_dropOthers (c : VerdictCache) (key : String) :
    (c.dropOthers key).ttl = c.ttl := by
  unfold dropOthers
  split <;> rfl

@[simp] theorem ttl_insert (c : VerdictCache) (now : Instant) (key : String) (v : Verdict) :
    (c.insert now key v).ttl = c.ttl := ttl_dropOthers c key

@[simp] theorem ttl_clear (c : VerdictCache) (name : String) : (c.clear name).ttl = c.ttl := rfl

@[simp] theorem ttl_get (c : VerdictCache) (now : Instant) (key : String) :
    (c.get now key).2.ttl = c.ttl := by
  unfold get
  split
  next => rfl
  next => split <;> rfl

theorem Glanced.of_eq {c c' d : VerdictCache} {now : Instant} (h : c.Glanced now d)
    (same : c' = d) : c.Glanced now c' := same ▸ h

theorem Glanced.ttl_eq {c c' : VerdictCache} {now : Instant} (h : c.Glanced now c') :
    c'.ttl = c.ttl := by
  rcases h with rfl | ⟨key, rfl⟩
  · rfl
  · exact ttl_get c now key

/-- A verdict that was kept not long ago is found, and stays. -/
theorem get_insert (c : VerdictCache) {now now' : Instant} (key : String) (v : Verdict)
    (young : now' - now < c.ttl) :
    (c.insert now key v).get now' key = (some v, c.insert now key v) := by
  have hkept : (c.insert now key v).entries.get? key = some ⟨v, now⟩ :=
    SortedMap.get?_insert_self ..
  have hcounts : (c.insert now key v).counts now' ⟨v, now⟩ = true := by
    rw [counts, ttl_insert]
    exact decide_eq_true young
  rw [get, hkept]
  exact if_pos hcounts

/-- What is found is what is kept and counts. -/
theorem get_eq_some_iff {c : VerdictCache} {now : Instant} {key : String} {v : Verdict} :
    (c.get now key).1 = some v ↔ ∃ k, c.Keeps key k ∧ c.counts now k = true ∧ k.verdict = v := by
  unfold get Keeps
  cases c.entries.get? key with
  | none => simp
  | some k => cases h : c.counts now k <;> simp [h]

/-- A look drops only what has grown too old under the key. -/
theorem keeps_get_iff {c : VerdictCache} {now : Instant} {key key' : String} {k : KeptVerdict} :
    (c.get now key').2.Keeps key k ↔ c.Keeps key k ∧ (key = key' → c.counts now k = true) := by
  unfold get Keeps
  cases hkept : c.entries.get? key' with
  | none =>
    refine ⟨fun h => ⟨h, ?_⟩, And.left⟩
    rintro rfl
    cases hkept.symm.trans h
  | some k' =>
    have hsame : key = key' → c.entries.get? key = some k → k = k' := by
      rintro rfl h
      exact Option.some.inj (h.symm.trans hkept)
    by_cases hcounts : c.counts now k' = true
    · simp only [hcounts, if_true]
      exact ⟨fun h => ⟨h, fun hkey => hsame hkey h ▸ hcounts⟩, And.left⟩
    · simp only [hcounts, Bool.false_eq_true, if_false]
      rw [SortedMap.erase, SortedMap.get?_filter_eq_some_iff]
      refine and_congr_right fun h => ?_
      rw [bne_iff_ne, ne_eq, Std.LawfulEqOrd.compare_eq_iff_eq]
      exact ⟨fun hne hkey => absurd hkey.symm hne,
        fun himp hkey => hcounts (hsame hkey.symm h ▸ himp hkey.symm)⟩

theorem Keeps.of_glanced {c c' : VerdictCache} {now : Instant} (h : c.Glanced now c') {key : String}
    {k : KeptVerdict} (kept : c'.Keeps key k) : c.Keeps key k := by
  rcases h with rfl | ⟨key', rfl⟩
  · exact kept
  · exact (keeps_get_iff.1 kept).1

/-- A look leaves what counts. -/
theorem Keeps.glanced {c c' : VerdictCache} {now : Instant} (h : c.Glanced now c') {key : String}
    {k : KeptVerdict} (kept : c.Keeps key k) (counts : c.counts now k = true) : c'.Keeps key k := by
  rcases h with rfl | ⟨key', rfl⟩
  · exact kept
  · exact keeps_get_iff.2 ⟨kept, fun _ => counts⟩

/-- Where nothing is found under a key nothing is kept under it any more. -/
theorem not_keeps_of_get_eq_none {c : VerdictCache} {now : Instant} {key : String}
    (unknown : (c.get now key).1 = none) (k : KeptVerdict) : ¬ (c.get now key).2.Keeps key k := by
  intro hkeeps
  obtain ⟨hkept, hcounts⟩ := keeps_get_iff.1 hkeeps
  cases unknown.symm.trans (get_eq_some_iff.2 ⟨k, hkept, hcounts rfl, rfl⟩)

/-- What has grown too old does not count later either. -/
theorem counts_of_le {c : VerdictCache} {now now' : Instant} (le : now ≤ now') {k : KeptVerdict}
    (counts : c.counts now' k = true) : c.counts now k = true := by
  simp only [VerdictCache.counts, decide_eq_true_eq] at counts ⊢
  exact Nat.lt_of_le_of_lt (Nat.sub_le_sub_right le _) counts

/-- A look changes nothing that can be found from then on. -/
theorem Glanced.get_eq {c c' : VerdictCache} {now now' : Instant} (h : c.Glanced now c')
    (le : now ≤ now') (key : String) : (c'.get now' key).1 = (c.get now' key).1 := by
  rcases h with rfl | ⟨key', rfl⟩
  · rfl
  · ext v
    rw [get_eq_some_iff, get_eq_some_iff]
    have hsame : ∀ k, (c.get now key').2.counts now' k = c.counts now' k := fun k => by
      rw [counts, counts, ttl_get]
    constructor
    · rintro ⟨k, hkeeps, hcounts, hv⟩
      exact ⟨k, (keeps_get_iff.1 hkeeps).1, hsame k ▸ hcounts, hv⟩
    · rintro ⟨k, hkeeps, hcounts, hv⟩
      exact ⟨k, keeps_get_iff.2 ⟨hkeeps, fun _ => counts_of_le le hcounts⟩, hsame k ▸ hcounts, hv⟩

theorem keeps_clear_iff {c : VerdictCache} {name key : String} {k : KeptVerdict} :
    (c.clear name).Keeps key k ↔ c.Keeps key k ∧ Fingerprint.owner? key ≠ some name := by
  unfold Keeps clear
  rw [SortedMap.get?_filter_eq_some_iff]
  simp

/-- A new verdict is kept. -/
theorem keeps_insert_self (c : VerdictCache) (now : Instant) (key : String) (v : Verdict) :
    (c.insert now key v).Keeps key ⟨v, now⟩ := SortedMap.get?_insert_self ..

/-- A new verdict stays, and of the others those that do not belong to its name. -/
theorem Keeps.of_insert {c : VerdictCache} {now : Instant} {key key' name : String} {v : Verdict}
    {k : KeptVerdict} (owner : Fingerprint.owner? key = some name)
    (kept : (c.insert now key v).Keeps key' k) :
    key' = key ∧ k = ⟨v, now⟩ ∨ c.Keeps key' k ∧ Fingerprint.owner? key' ≠ some name := by
  by_cases hkey : key' = key
  · subst hkey
    have hnew := keeps_insert_self c now key' v
    exact .inl ⟨rfl, Option.some.inj (kept.symm.trans hnew)⟩
  · have hold : (c.dropOthers key).entries.get? key' = some k := by
      rw [Keeps, insert, SortedMap.get?_insert_of_ne _ _ hkey] at kept
      exact kept
    simp only [dropOthers, owner] at hold
    obtain ⟨hkeeps, hother⟩ := SortedMap.get?_filter_eq_some_iff.1 hold
    refine .inr ⟨hkeeps, fun howner => ?_⟩
    simp [hkey, howner] at hother

/-- A new verdict leaves those that do not belong to its name. -/
theorem Keeps.insert_of_owner_ne {c : VerdictCache} {now : Instant} {key key' name : String}
    {v : Verdict} {k : KeptVerdict} (kept : c.Keeps key k)
    (owner : Fingerprint.owner? key' = some name) (other : Fingerprint.owner? key ≠ some name) :
    (c.insert now key' v).Keeps key k := by
  have hkey : key ≠ key' := fun heq => other (heq ▸ owner)
  rw [Keeps, insert, SortedMap.get?_insert_of_ne _ _ hkey]
  simp only [dropOthers, owner]
  exact SortedMap.get?_filter_eq_some_iff.2 ⟨kept, by simp [other]⟩

end NodeSupply.VerdictCache
