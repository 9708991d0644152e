import Mathlib.Data.List.Nodup
import Mathlib.Tactic.IntervalCases
import Mathlib.Tactic.Ring
import NodeSupply.Disk
import NodeSupply.Proofs.Json.Compact
import NodeSupply.Proofs.Shape.Grammar

/-!
# Numbers of bytes as text

A number of bytes is written as a decimal number and the largest unit that divides it: TiB, GiB or
MiB, or no unit at all.  Such a text tells the number.  Where a unit is written it is one of those
that names of shapes give their memory in, and is read there as the same amount.

## Main definitions

* `Numeral.IsShortest` : text is the numeral for a number, without leading zeros.
* `byteUnits` : the units, the largest one first.

## Main statements

* `byteTextIn_eq` : what is written in some units, the largest one first.
* `byteText_lossless` : the number of bytes that a text stands for, and how it is read back.
-/

namespace NodeSupply

/-! ### Numerals without leading zeros -/

namespace Numeral

/-- Text is the numeral for a number, and a zero is in front only if it is all there is. -/
structure IsShortest (text : String) (n : Nat) : Prop where
  denotes : Denotes text n
  unpadded : text.toList.head? = some '0' → text = "0"

theorem eq_zero_of_head?_write {n : Nat} (h : (write n).head? = some '0') : n = 0 := by
  induction n using Nat.strongRecOn with
  | ind n ih =>
    by_cases hn : n < 10
    · rw [write, Nat.toDigits_of_lt_base hn] at h
      interval_cases n <;> simp_all [Nat.digitChar]
    · -- The first digit is that of the number without its ones.
      have htens : (write (n / 10)).head? = some '0' := by
        rw [write, Nat.toDigits_of_base_le (by omega) (by omega),
          List.head?_append_of_ne_nil _ Nat.toDigits_ne_nil] at h
        exact h
      have := ih (n / 10) (by omega) htens
      omega

theorem isShortest_text (n : Nat) : IsShortest (text n) n where
  denotes := read?_eq_some_iff.1 (by rw [text, String.toList_ofList, read?_write])
  unpadded h := by
    rw [text, String.toList_ofList] at h
    rw [eq_zero_of_head?_write h]
    rfl

end Numeral

/-! ### Units -/

/-- The units that a number of bytes is written in with their sizes, the largest one first; behind a
number that counts single bytes there is none. -/
def byteUnits : List (Nat × String) := [(2 ^ 40, "Ti"), (2 ^ 30, "Gi"), (2 ^ 20, "Mi"), (1, "")]

/-- A number of bytes is written in a unit that divides it, and no larger one does. -/
theorem byteTextIn_eq {units : List (Nat × String)}
    (descending : (units ++ [(1, "")]).Pairwise fun u v : Nat × String => v.1 < u.1)
    (bytes : Nat) :
    ∃ u ∈ units ++ [(1, "")], byteTextIn units bytes = Numeral.text (bytes / u.1) ++ u.2 ∧
      u.1 ∣ bytes ∧ (0 < bytes → ∀ v ∈ units ++ [(1, "")], u.1 < v.1 → ¬ v.1 ∣ bytes) := by
  induction units with
  | nil => exact ⟨(1, ""), by simp, by simp [byteTextIn], one_dvd _, by simp⟩
  | cons head units ih =>
    obtain ⟨size, suffix⟩ := head
    rw [List.cons_append] at descending ⊢
    obtain ⟨hfirst, hrest⟩ := List.pairwise_cons.1 descending
    by_cases h : bytes % size = 0 ∧ 0 < bytes
    · refine ⟨(size, suffix), List.mem_cons_self, by simp [byteTextIn, h],
        Nat.dvd_of_mod_eq_zero h.1, fun _ v hv hlt => ?_⟩
      rcases List.mem_cons.1 hv with rfl | hv
      · exact absurd hlt (Nat.lt_irrefl _)
      · exact absurd hlt (Nat.lt_asymm (hfirst v hv))
    · obtain ⟨u, hu, htext, hdvd, hlargest⟩ := ih hrest
      refine ⟨u, List.mem_cons_of_mem _ hu, by rw [byteTextIn, if_neg h, htext], hdvd,
        fun hpos v hv hlt => ?_⟩
      rcases List.mem_cons.1 hv with rfl | hv
      · exact fun hsize => h ⟨Nat.mod_eq_zero_of_dvd hsize, hpos⟩
      · exact hlargest hpos v hv hlt

theorem byteText_eq (bytes : UInt64) :
    ∃ u ∈ byteUnits, byteText bytes = Numeral.text (bytes.toNat / u.1) ++ u.2 ∧
      u.1 ∣ bytes.toNat ∧ (0 < bytes → ∀ v ∈ byteUnits, u.1 < v.1 → ¬ v.1 ∣ bytes.toNat) :=
  have descending : byteUnits.Pairwise fun u v => v.1 < u.1 := by decide
  @byteTextIn_eq [(tebibyte, "Ti"), (gibibyte, "Gi"), (mebibyte, "Mi")] descending _

theorem endsNumber_unit {u : Nat × String} (h : u ∈ byteUnits) : Json.EndsNumber u.2.toList := by
  simp only [byteUnits, List.mem_cons, List.not_mem_nil, or_false] at h
  rcases h with rfl | rfl | rfl | rfl <;> simp [Json.EndsNumber]

theorem eq_of_unit_eq {u v : Nat × String} (hu : u ∈ byteUnits) (hv : v ∈ byteUnits)
    (h : u.2 = v.2) : u = v := by
  have hdistinct : (byteUnits.map Prod.snd).Nodup := by decide
  exact List.inj_on_of_nodup_map hdistinct hu hv h

/-- A number and a unit are told from the text that they make up. -/
theorem text_append_unit_inj {n k : Nat} {u v : Nat × String} (hu : u ∈ byteUnits)
    (hv : v ∈ byteUnits) (h : Numeral.text n ++ u.2 = Numeral.text k ++ v.2) : n = k ∧ u = v := by
  have hchars : Numeral.write n ++ u.2.toList = Numeral.write k ++ v.2.toList := by
    simpa [Numeral.text] using congrArg String.toList h
  obtain ⟨hnumber, hunit⟩ := Json.write_append_inj (endsNumber_unit hu) (endsNumber_unit hv) hchars
  exact ⟨hnumber, eq_of_unit_eq hu hv (String.toList_inj.1 hunit)⟩

/-- A number of MiB is written in a unit of memory, whose size in bytes is that in MiB so many
times. -/
theorem exists_memoryUnit {u : Nat × String} (h : u ∈ byteUnits) (hsize : u.1 ≠ 1) :
    ∃ size, (u.2, size) ∈ Shape.memoryUnits ∧ u.1 = size * 2 ^ 20 := by
  simp only [byteUnits, List.mem_cons, List.not_mem_nil, or_false] at h
  rcases h with rfl | rfl | rfl | rfl
  · exact ⟨1024 ^ 2, by simp [Shape.memoryUnits], by norm_num⟩
  · exact ⟨1024, by simp [Shape.memoryUnits], by norm_num⟩
  · exact ⟨1, by simp [Shape.memoryUnits], by norm_num⟩
  · exact absurd rfl hsize

/-- What a positive number of whole MiB is written as is an amount of memory. -/
theorem memoryText_byteText {bytes : UInt64} (pos : 0 < bytes) (whole : 2 ^ 20 ∣ bytes.toNat) :
    Shape.MemoryText (byteText bytes) (bytes / 0x100000) := by
  obtain ⟨u, hu, htext, ⟨amount, hamount⟩, hlargest⟩ := byteText_eq bytes
  have hsize : u.1 ≠ 1 := fun hone =>
    hlargest pos (2 ^ 20, "Mi") (by simp [byteUnits]) (by simp [hone]) whole
  obtain ⟨size, hunit, hmib⟩ := exists_memoryUnit hu hsize
  have hpos : 0 < bytes.toNat := UInt64.lt_iff_toNat_lt.1 pos
  have hbytes : bytes.toNat = amount * size * 2 ^ 20 := by rw [hamount, hmib]; ring
  have hquotient : (bytes / 0x100000).toNat = amount * size := by
    rw [UInt64.toNat_div, hbytes]
    exact Nat.mul_div_cancel _ (by decide)
  have hdenotes : bytes.toNat / u.1 = amount := by
    rw [hamount, Nat.mul_div_cancel_left]
    exact Nat.pos_of_ne_zero fun hzero => by simp [hamount, hzero] at hpos
  refine ⟨Numeral.text amount, amount, u.2, size, hunit, hdenotes ▸ htext,
    (Numeral.isShortest_text amount).denotes, hquotient.symm, ?_⟩
  omega

/-- The text of a number of bytes is a decimal number without leading zeros and a unit that come to
it, where no larger unit divides it.  So other numbers have other texts.  The text of a positive
number of whole MiB is read as that amount of memory. -/
theorem byteText_lossless (bytes : UInt64) :
    (∃ digits amount, ∃ u ∈ byteUnits, byteText bytes = digits ++ u.2 ∧
      Numeral.IsShortest digits amount ∧ amount * u.1 = bytes.toNat ∧
        (0 < bytes → ∀ v ∈ byteUnits, u.1 < v.1 → ¬ v.1 ∣ bytes.toNat)) ∧
      (∀ bytes', byteText bytes' = byteText bytes → bytes' = bytes) ∧
      (0 < bytes → 2 ^ 20 ∣ bytes.toNat →
        Shape.readMemory? (byteText bytes).toList = some (bytes / 0x100000)) := by
  obtain ⟨u, hu, htext, hdvd, hlargest⟩ := byteText_eq bytes
  refine ⟨⟨_, bytes.toNat / u.1, u, hu, htext, Numeral.isShortest_text _,
    Nat.div_mul_cancel hdvd, hlargest⟩, fun bytes' h => ?_, fun pos whole =>
      Shape.readMemory?_eq_some_iff.2 (memoryText_byteText pos whole)⟩
  obtain ⟨u', hu', htext', hdvd', -⟩ := byteText_eq bytes'
  obtain ⟨hamount, rfl⟩ := text_append_unit_inj hu' hu (htext'.symm.trans (h.trans htext))
  apply UInt64.toNat_inj.1
  rw [← Nat.div_mul_cancel hdvd', hamount, Nat.div_mul_cancel hdvd]

/-- Three GiB are written in GiB, are read as so much memory, and are not told as one byte more. -/
theorem byteText_lossless_of_threeGib :
    byteText 0xc0000000 = "3Gi" ∧ Shape.readMemory? "3Gi".toList = some 3072 ∧
      byteText 0xc0000001 ≠ byteText 0xc0000000 := by
  obtain ⟨-, hinj, hread⟩ := byteText_lossless 0xc0000000
  have htext : byteText 0xc0000000 = "3Gi" := by decide +kernel
  refine ⟨htext, ?_, fun h => absurd (hinj _ h) (by decide)⟩
  rw [← htext, hread (by decide) (by decide)]
  rfl

end NodeSupply
