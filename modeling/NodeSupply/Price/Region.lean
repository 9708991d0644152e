import NodeSupply.Price.Tariff

/-!
# The prices of the region

What the region `ru-central1` charges for an hour, in roubles with tax.
-/

namespace NodeSupply.Region

/-- A price with four decimal places, given in units of the last place. -/
def price (units : Nat) : Binary64 := Binary64.ofDecimal units 4

/-- Prices of a core by core fraction, in percent. -/
def coreRates (rates : List (Nat × Nat)) : SortedMap CoreFraction Binary64 :=
  .ofList (rates.filterMap fun (percent, units) =>
    (CoreFraction.ofPercent? percent).map (·, price units))

/-- The prices of the third generation of the standard platform. -/
def thirdGeneration : Tariff where
  onDemand := coreRates [(20, 4752), (50, 6912), (100, 11340)]
  discounted := coreRates [(20, 1512), (50, 2160), (100, 3132)]
  memoryGib := price 3024
  discountedMemoryGib := price 756

/-- The prices of the disks. -/
def diskPrice : DiskKind → Binary64
  | .hdd => price 44
  | .ssd => price 179
  | .ssdNonreplicated => price 132
  | .ssdIoM3 => price 297

/-- The prices of the region. -/
def prices : PriceList where
  platforms := .ofList
    [("amd-v1", thirdGeneration),
     ("highfreq-v4a",
      { onDemand := coreRates [(20, 4580), (50, 11450), (100, 22900)]
        discounted := coreRates [(20, 1374), (50, 3435), (100, 16030)]
        memoryGib := price 4200
        discountedMemoryGib := price 1260 }),
     ("standard-v1",
      { onDemand := coreRates [(5, 3193), (20, 9064), (100, 11536)]
        discounted := coreRates [(5, 1957), (20, 2781), (100, 3502)]
        memoryGib := price 4017
        discountedMemoryGib := price 1236 }),
     ("standard-v2",
      { onDemand := coreRates [(5, 1728), (20, 5292), (50, 7776), (100, 12852)]
        discounted := coreRates [(5, 1080), (20, 1728), (50, 2376), (100, 3456)]
        memoryGib := price 3348
        discountedMemoryGib := price 756 }),
     ("standard-v3", thirdGeneration),
     ("highfreq-v3",
      { onDemand := coreRates [(100, 19008)]
        discounted := .empty
        memoryGib := price 3456
        discountedMemoryGib := price 0 })]
  disks kind := some (diskPrice kind)

end NodeSupply.Region
