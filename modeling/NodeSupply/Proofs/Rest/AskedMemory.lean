import Mathlib.Algebra.Group.Nat.Defs
import NodeSupply.Proofs.Rest.Echo

/-!
# How much memory a new group asks for

A shape counts its memory in MiB, and the document that asks for a group counts it in bytes, in a
word.  The bytes come of a shift, and a shift by less than the width of a word loses what does not
fit without a sign of it.  So a shape of 2^44 MiB, or of more, asks for less than it has, and never
for the greatest word.

## Main definitions

* `NodeGroupSpec.exactMemory`, `NodeGroupSpec.saturatedMemory` : the memory of a new group in bytes,
  where no word bounds it, and where the greatest word stands for what is more.
* `NodeGroupSpec.askedMemory?` : what its document says about the memory.

## Main statements

* `NodeGroupSpec.toNat_memoryBytes` : the bytes that are left.
* `NodeGroupSpec.askedMemory_saturates_iff` : what is asked for, and when it is enough.
-/

namespace NodeSupply.NodeGroupSpec

/-- The memory of a new group in bytes, where no word bounds it. -/
def exactMemory (s : NodeGroupSpec) : Nat := s.shape.memoryMib.toNat * 2 ^ 20

/-- The memory of a new group in bytes, or the greatest word where that is too small for it. -/
def saturatedMemory (s : NodeGroupSpec) : Nat :=
  if s.exactMemory < 2 ^ 64 then s.exactMemory else 2 ^ 64 - 1

/-- What the document that asks for a group says about the memory of its node. -/
def askedMemory? (s : NodeGroupSpec) : Option Json := do
  let template ← s.document.part? 4 "nodeTemplate"
  let resources ← template.part? 3 "resourcesSpec"
  resources.part? 0 "memory"

theorem askedMemory?_eq (s : NodeGroupSpec) :
    s.askedMemory? = some (numberText s.memoryBytes.toNat) := rfl

theorem numberText_inj {n k : Nat} : numberText n = numberText k ↔ n = k := by
  refine ⟨fun h => ?_, congrArg _⟩
  exact Numeral.write_injective (String.ofList_injective (Json.text.inj h))

/-- The bytes lose what a word does not hold. -/
theorem toNat_memoryBytes (s : NodeGroupSpec) : s.memoryBytes.toNat = s.exactMemory % 2 ^ 64 := by
  rw [memoryBytes, UInt64.toNat_shiftLeft, Nat.shiftLeft_eq]
  rfl

/-- A word holds the memory of a shape in bytes if the shape has less than 2^44 MiB. -/
theorem exactMemory_lt_iff (s : NodeGroupSpec) :
    s.exactMemory < 2 ^ 64 ↔ s.shape.memoryMib.toNat < 2 ^ 44 := by
  unfold exactMemory
  omega

/-- The document of a new group asks for its memory in bytes without the bits that a word does not
hold.  That is the memory, or the greatest word where the memory is more, exactly if the memory fits
a word; where it does not, the document asks for less than the shape has. -/
theorem askedMemory_saturates_iff (s : NodeGroupSpec) :
    s.askedMemory? = some (numberText (s.exactMemory % 2 ^ 64)) ∧
      (s.askedMemory? = some (numberText s.saturatedMemory) ↔ s.exactMemory < 2 ^ 64) ∧
      (s.exactMemory % 2 ^ 64 < s.exactMemory ↔ 2 ^ 44 ≤ s.shape.memoryMib.toNat) := by
  refine ⟨?_, ?_, ?_⟩
  · rw [askedMemory?_eq, toNat_memoryBytes]
  · rw [askedMemory?_eq, toNat_memoryBytes, Option.some.injEq, numberText_inj]
    unfold saturatedMemory exactMemory
    -- A shifted word is even, and the greatest word is odd.
    split_ifs <;> omega
  · have hfits := s.exactMemory_lt_iff
    omega

/-- A request for a node with 2^14 cores and 2^30 MiB of memory for each, as a tier may sell it. -/
def vastRequest : NodeGroupRequest :=
  { spotRequest with
    shape := ⟨"standard-v3", .full, 16384, Tier.memoryMib 16384 1073741824⟩ }

/-- A vast node is asked for with no memory at all. -/
theorem askedMemory_of_vast :
    (vastRequest.spec "home").exactMemory = 2 ^ 64 ∧
      (vastRequest.spec "home").askedMemory? = some (.text "0") ∧
      (vastRequest.spec "home").askedMemory? ≠
        some (numberText (vastRequest.spec "home").saturatedMemory) := by
  have hexact : (vastRequest.spec "home").exactMemory = 2 ^ 64 := by decide
  obtain ⟨hmember, hsaturates, -⟩ := askedMemory_saturates_iff (vastRequest.spec "home")
  rw [hexact] at hmember hsaturates
  exact ⟨hexact, hmember, fun h => absurd (hsaturates.1 h) (by decide)⟩

end NodeSupply.NodeGroupSpec
