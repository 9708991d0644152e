import Mathlib.Data.List.Induction
import Mathlib.Data.Nat.Digits.Defs
import NodeSupply.Proofs.Shape.Name

/-!
# The grammar of names

A name of a shape is a platform, a number of cores, an amount of memory and a core fraction with
underscores between them.  Numbers are runs of ASCII digits, leading zeros allowed; behind that of
the memory stands its unit.  Text that is no name breaks a first rule, in the order parts, platform,
cores, core fraction, memory.

## Main definitions

* `Numeral.Denotes` : text is a numeral for a number.
* `Shape.HasParts` : the four parts of text.
* `Shape.CpuText`, `Shape.FractionText`, `Shape.MemoryText` : what the parts of a name are.
* `Shape.IsNameOf` : text is a name of a shape.
* `Shape.Violates` : the first rule that text breaks.

## Main statements

* `Numeral.read?_eq_some_iff` : numerals are read as what they denote.
* `Shape.hasParts_iff` : the parts are what stands between the underscores.
* `Shape.parse_follows_grammar` : names are read as their shapes, and all other text is refused for
  the first rule that it breaks.
-/

namespace NodeSupply

/-! ### Numerals -/

namespace Numeral

/-- Text is a numeral for a number: a nonempty run of ASCII digits, of which the last one counts the
ones, the one before it the tens, and so on. -/
structure Denotes (text : String) (n : Nat) : Prop where
  nonempty : text ≠ ""
  digits : ∀ c ∈ text.toList, '0' ≤ c ∧ c ≤ '9'
  value : Nat.ofDigits 10 (text.toList.reverse.map fun c => c.toNat - '0'.toNat) = n

theorem ofDigitChars_eq_ofDigits (cs : List Char) : Nat.ofDigitChars 10 cs 0 =
    Nat.ofDigits 10 (cs.reverse.map fun c => c.toNat - '0'.toNat) := by
  induction cs using List.reverseRecOn with
  | nil => rfl
  | append_singleton cs c ih =>
    rw [Nat.ofDigitChars_append, ih, List.reverse_append, List.reverse_singleton,
      List.singleton_append, List.map_cons, Nat.ofDigits_cons, Nat.ofDigitChars_cons]
    exact Nat.add_comm _ _

theorem all_isDigit_iff {cs : List Char} :
    cs.all Char.isDigit = true ↔ ∀ c ∈ cs, '0' ≤ c ∧ c ≤ '9' := by
  simp only [List.all_eq_true, Char.isDigit, Bool.and_eq_true, decide_eq_true_eq]
  rfl

/-- Numerals are read as what they denote, and nothing else is read. -/
theorem read?_eq_some_iff {text : String} {n : Nat} :
    read? text.toList = some n ↔ Denotes text n := by
  have hempty : text.toList.isEmpty = false ↔ text ≠ "" := by
    rw [List.isEmpty_eq_false_iff, ne_eq, String.toList_eq_nil_iff]
  have hbad : (text.toList.isEmpty || !text.toList.all Char.isDigit) = false ↔
      text ≠ "" ∧ ∀ c ∈ text.toList, '0' ≤ c ∧ c ≤ '9' := by
    rw [Bool.or_eq_false_iff, hempty, Bool.not_eq_false', all_isDigit_iff]
  rw [read?, ofDigitChars_eq_ofDigits]
  constructor
  · intro h
    split at h
    next => cases h
    next hread =>
      obtain ⟨hne, hdigits⟩ := hbad.1 (Bool.eq_false_of_not_eq_true hread)
      exact ⟨hne, hdigits, Option.some.inj h⟩
  · rintro ⟨hne, hdigits, rfl⟩
    rw [hbad.2 ⟨hne, hdigits⟩]
    rfl

theorem readBelow?_eq_some_iff {bound n : Nat} {text : String} :
    readBelow? bound text.toList = some n ↔ Denotes text n ∧ n < bound := by
  rw [readBelow?, Option.filter_eq_some_iff, read?_eq_some_iff, decide_eq_true_iff]

end Numeral

namespace Shape

open Numeral (Denotes)

/-! ### The parts of a name -/

/-- Text is four parts without underscores, with underscores between them. -/
structure HasParts (name platform cpu memory fraction : String) : Prop where
  text : name = platform ++ "_" ++ cpu ++ "_" ++ memory ++ "_" ++ fraction
  undivided : ∀ part ∈ [platform, cpu, memory, fraction], '_' ∉ part.toList

/-- The parts are what stands between the underscores. -/
theorem hasParts_iff {name platform cpu memory fraction : String} :
    HasParts name platform cpu memory fraction ↔ Text.fields '_' name.toList =
      [platform.toList, cpu.toList, memory.toList, fraction.toList] := by
  have hchars : (platform ++ "_" ++ cpu ++ "_" ++ memory ++ "_" ++ fraction).toList =
      platform.toList ++ '_' :: (cpu.toList ++ '_' :: (memory.toList ++
        '_' :: fraction.toList)) := by
    simp
  constructor
  · rintro ⟨rfl, hundivided⟩
    simp only [List.forall_mem_cons] at hundivided
    obtain ⟨hplatform, hcpu, hmemory, hfraction, -⟩ := hundivided
    rw [hchars, Text.fields_append hplatform, Text.fields_append hcpu, Text.fields_append hmemory,
      Text.fields_of_not_mem hfraction]
  · intro hfields
    refine ⟨String.toList_injective ?_, fun part hpart => ?_⟩
    · rw [hchars, ← Text.intercalate_fields '_' name.toList, hfields]
      simp [List.intercalate]
    · have hmem : part.toList ∈ Text.fields '_' name.toList := by
        rw [hfields]
        exact List.mem_map_of_mem (f := String.toList) hpart
      exact Text.not_mem_of_mem_fields hmem

/-- There is one part more than there are underscores. -/
theorem length_fields (sep : Char) (cs : List Char) :
    (Text.fields sep cs).length = cs.count sep + 1 := by
  induction cs with
  | nil => rfl
  | cons c cs ih =>
    obtain ⟨field, rest, h⟩ := List.exists_cons_of_ne_nil (Text.fields_ne_nil sep cs)
    rw [Text.fields, h, List.count_cons]
    rw [h] at ih
    split
    next hc => simp_all
    next hc => simp_all

theorem exists_hasParts {name : String} (h : name.toList.count '_' = 3) :
    ∃ platform cpu memory fraction, HasParts name platform cpu memory fraction := by
  have hlength := length_fields '_' name.toList
  rw [h] at hlength
  match hfields : Text.fields '_' name.toList, hlength with
  | [platform, cpu, memory, fraction], _ =>
    exact ⟨.ofList platform, .ofList cpu, .ofList memory, .ofList fraction,
      hasParts_iff.2 (by simp [hfields])⟩

/-- Text is a number of cores: a numeral for a positive number below `2 ^ 32`. -/
def CpuText (text : String) (cores : UInt32) : Prop := Denotes text cores.toNat ∧ 0 < cores.toNat

/-- Text is a core fraction: a numeral for a number from 1 to 100. -/
def FractionText (text : String) (f : CoreFraction) : Prop := Denotes text f.percent

/-- The units of memory with their sizes in MiB. -/
def memoryUnits : List (String × Nat) := [("Mi", 1), ("Gi", 1024), ("Ti", 1024 ^ 2)]

/-- Text is an amount of memory: a numeral and a unit, which together come to a positive number of
MiB below `2 ^ 64`. -/
def MemoryText (text : String) (mib : UInt64) : Prop :=
  ∃ digits amount unit size, (unit, size) ∈ memoryUnits ∧ text = digits ++ unit ∧
    Denotes digits amount ∧ amount * size = mib.toNat ∧ 0 < mib.toNat

theorem readCpu?_eq_some_iff {text : String} {cores : UInt32} :
    readCpu? text.toList = some cores ↔ CpuText text cores := by
  simp only [readCpu?, Option.map_eq_some_iff, Option.filter_eq_some_iff,
    Numeral.readBelow?_eq_some_iff, decide_eq_true_eq, CpuText]
  constructor
  · rintro ⟨n, ⟨⟨hdenotes, hbound⟩, hpos⟩, rfl⟩
    rw [UInt32.toNat_ofNat_of_lt' hbound]
    exact ⟨hdenotes, hpos⟩
  · rintro ⟨hdenotes, hpos⟩
    exact ⟨_, ⟨⟨hdenotes, cores.toNat_lt_size⟩, hpos⟩, UInt32.ofNat_toNat⟩

theorem ofPercent?_eq_some_iff {n : Nat} {f : CoreFraction} :
    CoreFraction.ofPercent? n = some f ↔ f.percent = n := by
  unfold CoreFraction.ofPercent?
  constructor
  · intro h
    split at h <;> cases h
    rfl
  · rintro rfl
    rw [dif_pos f.valid]

theorem readFraction?_eq_some_iff {text : String} {f : CoreFraction} :
    readFraction? text.toList = some f ↔ FractionText text f := by
  simp only [readFraction?, Option.bind_eq_some_iff, Numeral.readBelow?_eq_some_iff,
    ofPercent?_eq_some_iff, FractionText]
  constructor
  · rintro ⟨n, ⟨hdenotes, -⟩, rfl⟩
    exact hdenotes
  · intro hdenotes
    exact ⟨_, ⟨hdenotes, Nat.lt_of_le_of_lt f.valid.2 (by decide)⟩, rfl⟩

/-- An amount of memory is cut in front of its unit. -/
theorem splitMemory?_eq_some_iff {text : String} {digits : List Char} {size : Nat} :
    splitMemory? text.toList = some (digits, size) ↔
      ∃ unit, (unit, size) ∈ memoryUnits ∧ text = String.ofList digits ++ unit := by
  have hchars : ∀ unit, text = String.ofList digits ++ unit ↔
      text.toList.reverse = unit.toList.reverse ++ digits.reverse := fun unit => by
    rw [← List.reverse_append, List.reverse_inj, ← String.toList_inj, String.toList_append,
      String.toList_ofList]
  unfold splitMemory?
  constructor
  · intro h
    split at h
    next digits hrev =>
      cases h
      exact ⟨"Mi", by decide, (hchars _).2 (by simp [hrev])⟩
    next digits hrev =>
      cases h
      exact ⟨"Gi", by decide, (hchars _).2 (by simp [hrev])⟩
    next digits hrev =>
      cases h
      exact ⟨"Ti", by decide, (hchars _).2 (by simp [hrev])⟩
    next => cases h
  · rintro ⟨unit, hunit, htext⟩
    rw [(hchars _).1 htext]
    simp only [memoryUnits, List.mem_cons, Prod.mk.injEq, List.not_mem_nil, or_false] at hunit
    rcases hunit with ⟨rfl, rfl⟩ | ⟨rfl, rfl⟩ | ⟨rfl, rfl⟩ <;> simp

theorem readMemory?_eq_some_iff {text : String} {mib : UInt64} :
    readMemory? text.toList = some mib ↔ MemoryText text mib := by
  simp only [readMemory?, Option.bind_eq_bind, Option.bind_eq_some_iff, Prod.exists,
    splitMemory?_eq_some_iff, MemoryText]
  constructor
  · rintro ⟨digits, size, ⟨unit, hunit, htext⟩, amount, hread, h⟩
    split at h
    next hmib =>
      cases h
      rw [← String.toList_ofList (l := digits), Numeral.readBelow?_eq_some_iff] at hread
      rw [UInt64.toNat_ofNat_of_lt' hmib.2]
      exact ⟨_, amount, unit, size, hunit, htext, hread.1, rfl, hmib.1⟩
    next => cases h
  · rintro ⟨digits, amount, unit, size, hunit, rfl, hdenotes, hmib, hpos⟩
    have hsize : amount * size < UInt64.size := hmib ▸ mib.toNat_lt_size
    have hamount : amount < UInt64.size :=
      Nat.lt_of_le_of_lt (Nat.le_mul_of_pos_right _ (Nat.pos_of_mul_pos_left (hmib ▸ hpos))) hsize
    refine ⟨digits.toList, size, ⟨unit, hunit, by rw [String.ofList_toList]⟩, amount,
      Numeral.readBelow?_eq_some_iff.2 ⟨hdenotes, hamount⟩, ?_⟩
    rw [if_pos ⟨hmib ▸ hpos, hsize⟩, hmib, UInt64.ofNat_toNat]

/-! ### Names -/

/-- Text is a name of a shape. -/
def IsNameOf (name : String) (s : Shape) : Prop :=
  ∃ cpu memory fraction, HasParts name s.platform cpu memory fraction ∧ s.platform ≠ "" ∧
    CpuText cpu s.cpu ∧ FractionText fraction s.fraction ∧ MemoryText memory s.memoryMib

/-- The first rule that text breaks which is no name: it has four parts, and of these first the
platform, then the cores, then the core fraction and then the memory is as it has to be. -/
inductive Violates (name : String) : NameError → Prop where
  | parts (wrong : name.toList.count '_' ≠ 3) :
    Violates name (.wrongPartCount name (name.toList.count '_' + 1))
  | platform {cpu memory fraction : String} (parts : HasParts name "" cpu memory fraction) :
    Violates name (.emptyPlatform name)
  | cpu {platform cpu memory fraction : String} (parts : HasParts name platform cpu memory fraction)
    (nonempty : platform ≠ "") (wrong : ∀ cores, ¬ CpuText cpu cores) :
    Violates name (.invalidCpu cpu)
  | fraction {platform cpu memory fraction : String} {cores : UInt32}
    (parts : HasParts name platform cpu memory fraction) (nonempty : platform ≠ "")
    (counted : CpuText cpu cores) (wrong : ∀ share, ¬ FractionText fraction share) :
    Violates name (.invalidCoreFraction fraction)
  | memory {platform cpu memory fraction : String} {cores : UInt32} {share : CoreFraction}
    (parts : HasParts name platform cpu memory fraction) (nonempty : platform ≠ "")
    (counted : CpuText cpu cores) (shared : FractionText fraction share)
    (wrong : ∀ mib, ¬ MemoryText memory mib) : Violates name (.invalidMemory memory)

/-- Four parts are read one after the other. -/
theorem parse_of_hasParts {name platform cpu memory fraction : String}
    (parts : HasParts name platform cpu memory fraction) (nonempty : platform ≠ "") : parse name =
      (orError (readCpu? cpu.toList) .invalidCpu cpu.toList >>= fun cores =>
        orError (readFraction? fraction.toList) .invalidCoreFraction fraction.toList >>=
          fun share => orError (readMemory? memory.toList) .invalidMemory memory.toList >>=
            fun mib => .ok ⟨platform, share, cores, mib⟩) := by
  have hplatform : platform.toList.isEmpty = false :=
    List.isEmpty_eq_false_iff.2 (mt String.toList_eq_nil_iff.1 nonempty)
  rw [parse, hasParts_iff.1 parts]
  simp [hplatform]
  rfl

/-- A part that is nothing is refused. -/
theorem orError_bind_of_eq_none {α β : Type} {value : Option α} (none : value = none)
    (error : String → NameError) (part : String) (f : α → Except NameError β) :
    (orError value error part.toList >>= f) = .error (error part) := by
  subst none
  rw [orError, String.ofList_toList]
  rfl

theorem orError_bind_of_eq_some {α β : Type} {value : Option α} {a : α} (some : value = some a)
    (error : String → NameError) (part : String) (f : α → Except NameError β) :
    (orError value error part.toList >>= f) = f a := by
  subst some
  rfl

theorem parse_of_isNameOf {name : String} {s : Shape} (h : IsNameOf name s) :
    parse name = .ok s := by
  obtain ⟨cpu, memory, fraction, hparts, hplatform, hcpu, hfraction, hmemory⟩ := h
  rw [parse_of_hasParts hparts hplatform,
    orError_bind_of_eq_some (readCpu?_eq_some_iff.2 hcpu),
    orError_bind_of_eq_some (readFraction?_eq_some_iff.2 hfraction),
    orError_bind_of_eq_some (readMemory?_eq_some_iff.2 hmemory)]

/-- Nothing is read from a part that is nothing of its kind. -/
theorem eq_none_of_iff {α : Type} {value : Option α} {P : α → Prop}
    (reads : ∀ {a}, value = some a ↔ P a) (wrong : ∀ a, ¬ P a) : value = none :=
  Option.eq_none_iff_forall_ne_some.2 fun a ha => wrong a (reads.1 ha)

theorem parse_of_violates {name : String} {e : NameError} (h : Violates name e) :
    parse name = .error e := by
  cases h with
  | parts wrong =>
    have hlength := length_fields '_' name.toList
    unfold parse
    split
    next hfields => simp_all
    next => rw [hlength]; rfl
  | platform parts =>
    rw [parse, hasParts_iff.1 parts]
    rfl
  | cpu parts nonempty wrong =>
    rw [parse_of_hasParts parts nonempty,
      orError_bind_of_eq_none (eq_none_of_iff readCpu?_eq_some_iff wrong)]
  | fraction parts nonempty counted wrong =>
    rw [parse_of_hasParts parts nonempty,
      orError_bind_of_eq_some (readCpu?_eq_some_iff.2 counted),
      orError_bind_of_eq_none (eq_none_of_iff readFraction?_eq_some_iff wrong)]
  | memory parts nonempty counted shared wrong =>
    rw [parse_of_hasParts parts nonempty,
      orError_bind_of_eq_some (readCpu?_eq_some_iff.2 counted),
      orError_bind_of_eq_some (readFraction?_eq_some_iff.2 shared),
      orError_bind_of_eq_none (eq_none_of_iff readMemory?_eq_some_iff wrong)]

/-- Text is a name of a shape or breaks a first rule. -/
theorem isNameOf_or_violates (name : String) :
    (∃ s, IsNameOf name s) ∨ ∃ e, Violates name e := by
  by_cases hcount : name.toList.count '_' = 3
  · obtain ⟨platform, cpu, memory, fraction, hparts⟩ := exists_hasParts hcount
    by_cases hplatform : platform = ""
    · exact .inr ⟨_, .platform (hplatform ▸ hparts)⟩
    by_cases hcpu : ∃ cores, CpuText cpu cores
    · obtain ⟨cores, hcpu⟩ := hcpu
      by_cases hfraction : ∃ share, FractionText fraction share
      · obtain ⟨share, hfraction⟩ := hfraction
        by_cases hmemory : ∃ mib, MemoryText memory mib
        · obtain ⟨mib, hmemory⟩ := hmemory
          exact .inl ⟨⟨platform, share, cores, mib⟩, cpu, memory, fraction, hparts, hplatform, hcpu,
            hfraction, hmemory⟩
        · exact .inr ⟨_, .memory hparts hplatform hcpu hfraction (not_exists.1 hmemory)⟩
      · exact .inr ⟨_, .fraction hparts hplatform hcpu (not_exists.1 hfraction)⟩
    · exact .inr ⟨_, .cpu hparts hplatform (not_exists.1 hcpu)⟩
  · exact .inr ⟨_, .parts hcount⟩

/-- Text is read as a shape if it is a name of it, and refused for a rule if that is the first one
that it breaks; there is no other text. -/
theorem parse_follows_grammar (name : String) :
    (∀ s, parse name = .ok s ↔ IsNameOf name s) ∧
      ∀ e, parse name = .error e ↔ Violates name e := by
  rcases isNameOf_or_violates name with ⟨s, hs⟩ | ⟨e, he⟩
  · have hparse := parse_of_isNameOf hs
    refine ⟨fun s' => ⟨fun h => ?_, parse_of_isNameOf⟩, fun e => ⟨fun h => ?_, parse_of_violates⟩⟩
    · cases hparse.symm.trans h
      exact hs
    · cases hparse.symm.trans h
  · have hparse := parse_of_violates he
    refine ⟨fun s => ⟨fun h => ?_, parse_of_isNameOf⟩, fun e' => ⟨fun h => ?_, parse_of_violates⟩⟩
    · cases hparse.symm.trans h
    · cases hparse.symm.trans h
      exact he

/-- The core fraction is looked at before the memory. -/
example : parse "p_007_0Mi_101" = .error (.invalidCoreFraction "101") := rfl

/-- A number that fits a word may be too large with its unit. -/
example : parse "p_1_17592186044416Ti_9" = .error (.invalidMemory "17592186044416Ti") ∧
    parse "p_1_0017592186044415Ti_9" = .ok ⟨"p", ⟨9, by decide⟩, 1, 18446744073708503040⟩ :=
  ⟨rfl, rfl⟩

end Shape

end NodeSupply
