import NodeSupply.Shape.Basic
import NodeSupply.Text.Fields
import NodeSupply.Text.Numeral
import NodeSupply.Text.Quoted

/-!
# Canonical names of shapes

The name of a shape is its platform, cores, memory and core fraction with underscores between
them, as in `standard-v3_2_4Gi_100`.  Memory is written in whole GiB where it is a positive
multiple of one and in MiB otherwise; a name may also give it in TiB.

## Main definitions

* `Shape.name` : the canonical name.
* `Shape.parse` : the shape that a name stands for, or the first rule that the name breaks.
-/

namespace NodeSupply

/-- Why text is not the name of a shape. -/
inductive NameError where
  /-- The name has not exactly four parts. -/
  | wrongPartCount (name : String) (parts : Nat)
  /-- The platform is empty. -/
  | emptyPlatform (name : String)
  /-- The number of cores is no positive 32-bit number. -/
  | invalidCpu (value : String)
  /-- The memory is no positive 64-bit amount. -/
  | invalidMemory (value : String)
  /-- The core fraction is no number from 1 to 100. -/
  | invalidCoreFraction (value : String)
deriving Repr, DecidableEq

/-- What is said about text that is not the name of a shape. -/
def NameError.message : NameError → String
  | wrongPartCount name parts =>
    "instance type " ++ Text.quote name ++ " must have 4 '_'-separated parts, found "
      ++ Numeral.text parts
  | emptyPlatform name => "instance type " ++ Text.quote name ++ " has an empty platform"
  | invalidCpu value => "invalid vCPU count " ++ Text.quote value
  | invalidMemory value =>
    "invalid memory quantity " ++ Text.quote value ++ ": expected <n>Mi, <n>Gi or <n>Ti"
  | invalidCoreFraction value =>
    "invalid core fraction " ++ Text.quote value ++ ": expected 1..=100"

/-- The core fraction of so many percent, or the rule that it breaks. -/
def CoreFraction.check (percent : Nat) : Except NameError CoreFraction :=
  (ofPercent? percent).elim (.error (.invalidCoreFraction (Numeral.text percent))) .ok

namespace Shape

/-! ### Memory quantities -/

/-- An amount of memory, in GiB where it is a positive whole number of them. -/
def memoryChars (mib : UInt64) : List Char :=
  if mib.toNat % 1024 = 0 ∧ 0 < mib.toNat then Numeral.write (mib.toNat / 1024) ++ ['G', 'i']
  else Numeral.write mib.toNat ++ ['M', 'i']

/-- The memory of a shape as a quantity. -/
def memoryQuantity (s : Shape) : String := String.ofList (memoryChars s.memoryMib)

/-- The digits and the unit, in MiB, of a memory quantity. -/
def splitMemory? (cs : List Char) : Option (List Char × Nat) :=
  match cs.reverse with
  | 'i' :: 'M' :: digits => some (digits.reverse, 1)
  | 'i' :: 'G' :: digits => some (digits.reverse, 1024)
  | 'i' :: 'T' :: digits => some (digits.reverse, 1048576)
  | _ => none

/-- The memory in MiB that a quantity stands for, if it is positive and fits a word. -/
def readMemory? (cs : List Char) : Option UInt64 := do
  let (digits, unit) ← splitMemory? cs
  let amount ← Numeral.readBelow? UInt64.size digits
  let mib := amount * unit
  if 0 < mib ∧ mib < UInt64.size then some (UInt64.ofNat mib) else none

/-! ### Names -/

/-- The number of cores that digits stand for. -/
def readCpu? (cs : List Char) : Option UInt32 :=
  ((Numeral.readBelow? UInt32.size cs).filter (0 < ·)).map UInt32.ofNat

/-- The core fraction that digits stand for. -/
def readFraction? (cs : List Char) : Option CoreFraction :=
  (Numeral.readBelow? 256 cs).bind CoreFraction.ofPercent?

/-- The characters of the canonical name. -/
def nameChars (s : Shape) : List Char :=
  s.platform.toList ++ '_' :: (Numeral.write s.cpu.toNat ++ '_' :: (memoryChars s.memoryMib ++
    '_' :: Numeral.write s.fraction.percent))

/-- The canonical name. -/
def name (s : Shape) : String := String.ofList s.nameChars

/-- The value of an optional part, or the error for text that is none. -/
def orError (value : Option α) (error : String → NameError) (cs : List Char) :
    Except NameError α :=
  value.elim (.error (error (String.ofList cs))) .ok

/-- The shape that a name stands for.  The rules are tried in the order part count, platform,
cores, core fraction, memory. -/
def parse (name : String) : Except NameError Shape :=
  match Text.fields '_' name.toList with
  | [platform, cpu, memory, fraction] => do
    if platform.isEmpty then throw (.emptyPlatform name)
    let cores ← orError (readCpu? cpu) .invalidCpu cpu
    let share ← orError (readFraction? fraction) .invalidCoreFraction fraction
    let mib ← orError (readMemory? memory) .invalidMemory memory
    return ⟨String.ofList platform, share, cores, mib⟩
  | parts => throw (.wrongPartCount name parts.length)

end Shape

end NodeSupply
