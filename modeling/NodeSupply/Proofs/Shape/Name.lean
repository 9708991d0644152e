import NodeSupply.Shape.Name

/-!
# Names are read back

A canonical name is cut at its underscores, so a shape is read back from its name if its platform
has no underscore, and if its parts follow the rules of names: a platform, a positive number of
cores and a positive amount of memory.  Nothing else is read from any name: another spelling, with
leading zeros or another unit, leads to a shape with these properties as well.

A platform may have underscores of its own, and then the name is not read back.  It still tells
the shape: the other three parts have no underscores, so they are found from the right end.

## Main definitions

* `Shape.Nameable` : a shape with a platform without underscores, cores and memory.

## Main statements

* `Shape.parse_name` : a nameable shape is read back from its name.
* `Shape.nameable_of_parse` : what is read from a name is nameable.
* `Shape.name_injective` : different shapes have different names.
* `Shape.name_lossless` : names are read back exactly for nameable shapes, after any spelling the
  canonical one is read too, and no two shapes share a name.
-/

namespace NodeSupply

namespace Shape

/-- A shape that its name tells. -/
structure Nameable (s : Shape) : Prop where
  platform_ne : s.platform ≠ ""
  undivided : '_' ∉ s.platform.toList
  cpu_pos : 0 < s.cpu
  memory_pos : 0 < s.memoryMib

/-! ### The parts of a name -/

theorem readCpu?_write {n : UInt32} (h : 0 < n) : readCpu? (Numeral.write n.toNat) = some n := by
  have hpos : 0 < n.toNat := UInt32.lt_iff_toNat_lt.1 h
  rw [readCpu?, Numeral.readBelow?_write n.toNat_lt_size, Option.filter_some,
    if_pos (decide_eq_true hpos), Option.map_some, UInt32.ofNat_toNat]

theorem readFraction?_write (f : CoreFraction) :
    readFraction? (Numeral.write f.percent) = some f := by
  have hbound : f.percent < 256 := Nat.lt_of_le_of_lt f.valid.2 (by decide)
  rw [readFraction?, Numeral.readBelow?_write hbound, Option.bind_some, CoreFraction.ofPercent?,
    dif_pos f.valid]

theorem splitMemory?_mib (digits : List Char) :
    splitMemory? (digits ++ ['M', 'i']) = some (digits, 1) := by
  simp [splitMemory?]

theorem splitMemory?_gib (digits : List Char) :
    splitMemory? (digits ++ ['G', 'i']) = some (digits, 1024) := by
  simp [splitMemory?]

/-- A quantity whose digits and unit give an amount is read as that amount. -/
theorem readMemory?_of_split {cs : List Char} {n unit : Nat} {mib : UInt64}
    (split : splitMemory? cs = some (Numeral.write n, unit)) (bound : n < UInt64.size)
    (amount : n * unit = mib.toNat) (h : 0 < mib) : readMemory? cs = some mib := by
  have hmib : 0 < mib.toNat ∧ mib.toNat < UInt64.size :=
    ⟨UInt64.lt_iff_toNat_lt.1 h, mib.toNat_lt_size⟩
  simp only [readMemory?, split, Option.bind_eq_bind, Option.bind_some,
    Numeral.readBelow?_write bound, amount, if_pos hmib, UInt64.ofNat_toNat]

/-- An amount of memory is read back from either unit that it is written in. -/
theorem readMemory?_memoryChars {mib : UInt64} (h : 0 < mib) :
    readMemory? (memoryChars mib) = some mib := by
  have hsize : mib.toNat < UInt64.size := mib.toNat_lt_size
  unfold memoryChars
  split
  next hgib =>
    have hamount : mib.toNat / 1024 < UInt64.size := Nat.lt_of_le_of_lt (Nat.div_le_self _ _) hsize
    have hmib : mib.toNat / 1024 * 1024 = mib.toNat :=
      Nat.div_mul_cancel (Nat.dvd_of_mod_eq_zero hgib.1)
    exact readMemory?_of_split (splitMemory?_gib _) hamount hmib h
  next => exact readMemory?_of_split (splitMemory?_mib _) hsize (Nat.mul_one _) h

theorem underscore_not_mem_write (n : Nat) : '_' ∉ Numeral.write n := fun h =>
  absurd (Numeral.isDigit_of_mem_write h) (by decide)

theorem underscore_not_mem_memoryChars (mib : UInt64) : '_' ∉ memoryChars mib := by
  unfold memoryChars
  split <;> simp [underscore_not_mem_write]

theorem memoryChars_ne {mib mib' : UInt64} (hgib : mib.toNat % 1024 = 0 ∧ 0 < mib.toNat)
    (hmib : ¬(mib'.toNat % 1024 = 0 ∧ 0 < mib'.toNat)) : memoryChars mib ≠ memoryChars mib' := by
  intro h
  rw [memoryChars, if_pos hgib, memoryChars, if_neg hmib] at h
  exact absurd (List.append_inj' h rfl).2 (by decide)

/-- Different amounts of memory are written differently, though the unit is chosen by the amount. -/
theorem memoryChars_injective : Function.Injective memoryChars := by
  intro mib mib' h
  refine UInt64.toNat_inj.1 ?_
  by_cases hmib : mib.toNat % 1024 = 0 ∧ 0 < mib.toNat <;>
    by_cases hmib' : mib'.toNat % 1024 = 0 ∧ 0 < mib'.toNat
  · rw [memoryChars, if_pos hmib, memoryChars, if_pos hmib'] at h
    have hgib : mib.toNat / 1024 = mib'.toNat / 1024 :=
      Numeral.write_injective (List.append_inj' h rfl).1
    omega
  · exact absurd h (memoryChars_ne hmib hmib')
  · exact absurd h.symm (memoryChars_ne hmib' hmib)
  · rw [memoryChars, if_neg hmib, memoryChars, if_neg hmib'] at h
    exact Numeral.write_injective (List.append_inj' h rfl).1

/-! ### What the readers accept -/

theorem cpu_pos_of_readCpu? {cs : List Char} {n : UInt32} (h : readCpu? cs = some n) : 0 < n := by
  obtain ⟨k, hk, rfl⟩ := Option.map_eq_some_iff.1 h
  obtain ⟨hread, hpos⟩ := Option.filter_eq_some_iff.1 hk
  obtain ⟨-, hbound⟩ := Option.filter_eq_some_iff.1 hread
  rw [UInt32.lt_iff_toNat_lt, UInt32.toNat_ofNat_of_lt' (of_decide_eq_true hbound)]
  exact of_decide_eq_true hpos

theorem memory_pos_of_readMemory? {cs : List Char} {mib : UInt64} (h : readMemory? cs = some mib) :
    0 < mib := by
  obtain ⟨⟨digits, unit⟩, -, h⟩ := Option.bind_eq_some_iff.1 h
  obtain ⟨amount, -, h⟩ := Option.bind_eq_some_iff.1 h
  dsimp only at h
  split at h
  next hamount =>
    rw [← Option.some.inj h, UInt64.lt_iff_toNat_lt, UInt64.toNat_ofNat_of_lt' hamount.2]
    exact hamount.1
  next => exact nomatch h

/-! ### Whole names -/

/-- The parts of a name are its fields. -/
theorem fields_nameChars {s : Shape} (undivided : '_' ∉ s.platform.toList) :
    Text.fields '_' s.nameChars = [s.platform.toList, Numeral.write s.cpu.toNat,
      memoryChars s.memoryMib, Numeral.write s.fraction.percent] := by
  rw [nameChars, Text.fields_append undivided, Text.fields_append (underscore_not_mem_write _),
    Text.fields_append (underscore_not_mem_memoryChars _),
    Text.fields_of_not_mem (underscore_not_mem_write _)]

/-- A nameable shape is read back from its name. -/
theorem parse_name {s : Shape} (h : s.Nameable) : parse s.name = .ok s := by
  have hplatform : s.platform.toList.isEmpty = false :=
    List.isEmpty_eq_false_iff.2 (mt String.toList_eq_nil_iff.1 h.platform_ne)
  have hfields := fields_nameChars h.undivided
  unfold parse name
  rw [String.toList_ofList, hfields]
  simp only [hplatform, readCpu?_write h.cpu_pos, readFraction?_write,
    readMemory?_memoryChars h.memory_pos, orError, Option.elim_some, String.ofList_toList]
  rfl

/-- What goes on after a part of a name was read goes on from the value of the part. -/
theorem exists_of_orError {value : Option α} {error : String → NameError} {cs : List Char}
    {f : α → Except NameError β} {b : β} (h : (orError value error cs >>= f) = .ok b) :
    ∃ a, value = some a ∧ f a = .ok b := by
  cases value with
  | none => exact nomatch h
  | some a => exact ⟨a, rfl, h⟩

/-- What is read from a name, in any spelling, is nameable. -/
theorem nameable_of_parse {text : String} {s : Shape} (h : parse text = .ok s) : s.Nameable := by
  unfold parse at h
  split at h
  next platform cpu memory fraction hfields =>
    split at h
    next => exact nomatch h
    next hplatform =>
      obtain ⟨cores, hcpu, h⟩ := exists_of_orError h
      obtain ⟨share, -, h⟩ := exists_of_orError h
      obtain ⟨mib, hmemory, h⟩ := exists_of_orError h
      have hmem : platform ∈ Text.fields '_' text.toList := hfields ▸ List.mem_cons_self
      rw [← Except.ok.inj h]
      exact {
        platform_ne := fun hnil => by simp_all
        undivided := by
          rw [String.toList_ofList]
          exact Text.not_mem_of_mem_fields hmem
        cpu_pos := cpu_pos_of_readCpu? hcpu
        memory_pos := memory_pos_of_readMemory? hmemory }
  next => exact nomatch h

/-- Different shapes have different names: the parts are cut off from the right, and what is left
is the platform. -/
theorem name_injective : Function.Injective name := by
  intro s t h
  have hchars : s.nameChars = t.nameChars := String.ofList_injective h
  have hright (u : Shape) : u.nameChars = ((u.platform.toList ++ '_' :: Numeral.write u.cpu.toNat)
      ++ '_' :: memoryChars u.memoryMib) ++ '_' :: Numeral.write u.fraction.percent := by
    simp only [nameChars, List.append_assoc, List.cons_append]
  rw [hright s, hright t] at hchars
  obtain ⟨hchars, hfraction⟩ := Text.append_sep_inj (underscore_not_mem_write _)
    (underscore_not_mem_write _) hchars
  obtain ⟨hchars, hmemory⟩ := Text.append_sep_inj (underscore_not_mem_memoryChars _)
    (underscore_not_mem_memoryChars _) hchars
  obtain ⟨hplatform, hcpu⟩ := Text.append_sep_inj (underscore_not_mem_write _)
    (underscore_not_mem_write _) hchars
  cases s
  cases t
  obtain rfl := String.toList_injective hplatform
  obtain rfl := CoreFraction.ext (Numeral.write_injective hfraction)
  obtain rfl := UInt32.toNat_inj.1 (Numeral.write_injective hcpu)
  obtain rfl := memoryChars_injective hmemory
  rfl

/-- A shape is read back from its name exactly if it has a platform without underscores, cores and
memory.  After any spelling of a name the canonical name is read as the same shape.  No two
shapes share a name, also where it is not read back. -/
theorem name_lossless :
    (∀ s : Shape, parse s.name = .ok s ↔
      s.platform ≠ "" ∧ '_' ∉ s.platform.toList ∧ 0 < s.cpu ∧ 0 < s.memoryMib) ∧
    (∀ {text : String} {s : Shape}, parse text = .ok s → parse s.name = .ok s) ∧
    Function.Injective name := by
  refine ⟨fun s => ⟨fun h => ?_, fun h => ?_⟩, fun h => parse_name (nameable_of_parse h),
    name_injective⟩
  · have hs := nameable_of_parse h
    exact ⟨hs.platform_ne, hs.undivided, hs.cpu_pos, hs.memory_pos⟩
  · obtain ⟨platform_ne, undivided, cpu_pos, memory_pos⟩ := h
    exact parse_name ⟨platform_ne, undivided, cpu_pos, memory_pos⟩

/-- With a leading zero and in MiB the name is not canonical, and the canonical name is read
as the same shape. -/
theorem name_lossless_respelled :
    parse "standard-v3_02_4096Mi_100" = .ok ⟨"standard-v3", .full, 2, 4096⟩ ∧
    (Shape.mk "standard-v3" .full 2 4096).name = "standard-v3_2_4Gi_100" ∧
    parse (Shape.mk "standard-v3" .full 2 4096).name = .ok ⟨"standard-v3", .full, 2, 4096⟩ := by
  have hparse : parse "standard-v3_02_4096Mi_100" = .ok ⟨"standard-v3", .full, 2, 4096⟩ := rfl
  exact ⟨hparse, by decide +kernel, name_lossless.2.1 hparse⟩

end Shape

end NodeSupply
