import NodeSupply.Shape.Catalog

/-!
# The catalog of the region

The platforms that the region `ru-central1` sells.
-/

namespace NodeSupply.Region

/-- From half a GiB up to so many GiB for each core, in steps of half a GiB. -/
def halfGibSteps (gib : Nat) : List UInt32 :=
  (List.range (2 * gib)).map fun n => UInt32.ofNat ((n + 1) * 512)

/-- From one GiB up to so many GiB for each core, in steps of one GiB. -/
def wholeGibSteps (gib : Nat) : List UInt32 :=
  (List.range gib).map fun n => UInt32.ofNat ((n + 1) * 1024)

/-- Every second core count up to 16, then every fourth up to `most`. -/
def dedicatedVcpus (most : Nat) : List UInt32 :=
  ((List.range 8).map fun n => UInt32.ofNat (2 * n + 2)) ++
    (List.range ((most - 16) / 4)).map fun n => UInt32.ofNat (4 * n + 20)

/-- A tier with a twentieth of each core. -/
def burst5 (vcpus memory : List UInt32) : Tier := ⟨⟨5, by decide⟩, vcpus, memory⟩

/-- A tier with a fifth of each core. -/
def burst20 (vcpus memory : List UInt32) : Tier := ⟨⟨20, by decide⟩, vcpus, memory⟩

/-- A tier with half of each core. -/
def burst50 (vcpus memory : List UInt32) : Tier := ⟨⟨50, by decide⟩, vcpus, memory⟩

/-- A tier with whole cores. -/
def dedicated (vcpus memory : List UInt32) : Tier := ⟨.full, vcpus, memory⟩

/-- The platforms on sale. -/
def catalog : Catalog where
  platforms :=
    [⟨"gpu-standard-v3i", [dedicated [18, 36, 72, 180] [8192]], true⟩,
     ⟨"gpu-standard-v3", [dedicated [28, 56, 112, 224] [4352]], true⟩,
     ⟨"standard-v1",
      [burst5 [2, 4] (halfGibSteps 2),
       burst20 [2, 4] (halfGibSteps 4),
       dedicated [2, 4, 6, 8, 10, 12, 14, 16, 20, 24, 28, 32] (wholeGibSteps 8)], true⟩,
     ⟨"gpu-standard-v1", [dedicated [8, 16, 32] [12288]], true⟩,
     ⟨"standard-v2",
      [burst5 [2, 4] (256 :: halfGibSteps 2),
       burst20 [2, 4] (halfGibSteps 4),
       burst50 [2, 4] (halfGibSteps 4),
       dedicated (dedicatedVcpus 80) (wholeGibSteps 16)], true⟩,
     ⟨"gpu-standard-v2", [dedicated [8, 16, 32, 64] [6144]], true⟩,
     ⟨"standard-v3",
      [burst20 [2, 4] (halfGibSteps 4),
       burst50 [2, 4] (halfGibSteps 4),
       dedicated (dedicatedVcpus 96) (wholeGibSteps 16)], true⟩,
     ⟨"highfreq-v3", [dedicated (dedicatedVcpus 56) (wholeGibSteps 16)], false⟩,
     ⟨"standard-v3-t4", [dedicated [4, 8, 16, 32] [4096]], true⟩,
     ⟨"standard-v3-t4i", [dedicated [4, 8, 16, 32] [4096]], true⟩]

/-- The zones of the region. -/
def zones : List String := ["ru-central1-a", "ru-central1-b", "ru-central1-d"]

end NodeSupply.Region
