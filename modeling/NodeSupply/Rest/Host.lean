import NodeSupply.Rest.Domain
import NodeSupply.Text.Numeral
import NodeSupply.Text.Utf8

/-!
# Hosts

The server part of a web address: a name, or the address of a machine as four or as sixteen bytes.
A name may be percent-encoded and need not be in ASCII; it is kept in ASCII.  A name that ends in a
number must be an address of four bytes.

## Main definitions

* `Host.parse?` : the host that text stands for.
* `Host.text` : a host as it is written.
-/

namespace NodeSupply

/-- The server part of a web address. -/
inductive Host where
  /-- A name, in ASCII. -/
  | domain (name : String)
  /-- An address of four bytes. -/
  | four (address : Nat)
  /-- An address of sixteen bytes, as eight pieces. -/
  | sixteen (pieces : List Nat)
deriving Repr, DecidableEq

namespace Host

/-! ### Percent-encoding -/

/-- The byte that two hexadecimal digits stand for. -/
def hexByte? (high low : UInt8) : Option UInt8 := do
  let digit (b : UInt8) := Numeral.hexDigit? (Char.ofNat b.toNat)
  return UInt8.ofNat ((← digit high) * 16 + (← digit low))

/-- Bytes with what is percent-encoded among them decoded. -/
def percentDecode : List UInt8 → List UInt8
  | 0x25 :: high :: low :: rest =>
    match hexByte? high low with
    | some b => b :: percentDecode rest
    | none => 0x25 :: percentDecode (high :: low :: rest)
  | b :: rest => b :: percentDecode rest
  | [] => []

/-! ### Addresses of four bytes -/

/-- The number that a label is: octal after a zero, hexadecimal after `0x`. -/
def number? : List Char → Option Nat
  | ['0', 'x'] => some 0
  | '0' :: 'x' :: digits => Numeral.readRadix? 16 digits
  | '0' :: c :: digits => Numeral.readRadix? 8 (c :: digits)
  | digits => Numeral.readRadix? 10 digits

/-- The labels without an empty one at the end. -/
def withoutRoot (labels : List (List Char)) : List (List Char) :=
  if labels.getLast? = some [] then labels.dropLast else labels

/-- Whether labels end in a number. -/
def endsInNumber (labels : List (List Char)) : Bool :=
  match (withoutRoot labels).getLast? with
  | none => false
  | some label => (!label.isEmpty && label.all Char.isDigit) || (number? label).isSome

/-- The address that labels are: a byte each, and the last one all bytes that are left. -/
def four? (labels : List (List Char)) : Option Host := do
  let numbers ← (withoutRoot labels).mapM number?
  let bytes := numbers.dropLast
  let last ← numbers.getLast?
  if 3 < bytes.length || bytes.any (255 < ·) then none
  else
    let place := 4 - bytes.length
    if Nat.pow 256 place ≤ last then none
    else some (.four (bytes.foldl (fun n b => n * 256 + b) 0 * Nat.pow 256 place + last))

/-! ### Addresses of sixteen bytes -/

/-- The piece that a group of at most four hexadecimal digits is. -/
def piece? (group : List Char) : Option Nat :=
  if group.length ≤ 4 then Numeral.readRadix? 16 group else none

/-- The byte that a decimal number without leading zeros is. -/
def byte? (digits : List Char) : Option Nat :=
  (Numeral.readBelow? 256 digits).filter fun n => Numeral.write n == digits

/-- The two pieces that four bytes in decimal are. -/
def bytePieces? (group : List Char) : Option (List Nat) := do
  match ← (Text.fields '.' group).mapM byte? with
  | [a, b, c, d] => some [a * 256 + b, c * 256 + d]
  | _ => none

/-- The pieces that groups are; the last group of an address may be four bytes. -/
def pieces? (isEnd : Bool) : List (List Char) → Option (List Nat)
  | [] => some []
  | [group] =>
    if isEnd && group.contains '.' then bytePieces? group else (piece? group).map ([·])
  | group :: groups => do return (← piece? group) :: (← pieces? isEnd groups)

/-- The pieces of a part of an address, which may be empty. -/
def part? (isEnd : Bool) (cs : List Char) : Option (List Nat) :=
  if cs.isEmpty then some [] else pieces? isEnd (Text.fields ':' cs)

/-- Text in front of the first double colon and text after it. -/
def cutGap : List Char → List Char × Option (List Char)
  | [] => ([], none)
  | ':' :: ':' :: rest => ([], some rest)
  | c :: rest => (c :: (cutGap rest).1, (cutGap rest).2)

/-- The address of sixteen bytes that text is; a double colon stands for the zeros that are missing,
of which there must be one. -/
def sixteen? (cs : List Char) : Option Host := do
  match cutGap cs with
  | (whole, none) =>
    let pieces ← pieces? true (Text.fields ':' whole)
    if pieces.length = 8 then some (.sixteen pieces) else none
  | (before, some after) =>
    let before ← part? false before
    let after ← part? true after
    let missing := 8 - (before.length + after.length)
    if missing = 0 then none else some (.sixteen (before ++ List.replicate missing 0 ++ after))

/-- The first of the longest runs of zeros in some pieces, counted from place `at_`: its place and
its length. -/
def longestGap (at_ : Nat) : List Nat → Nat × Nat
  | [] => (at_, 0)
  | n :: pieces =>
    let here := ((n :: pieces).takeWhile (· == 0)).length
    let later := longestGap (at_ + 1) pieces
    if here < later.2 then later else (at_, here)

/-- Pieces with colons between them. -/
def piecesText (pieces : List Nat) : List Char :=
  [':'].intercalate (pieces.map Numeral.writeHex)

/-- An address of sixteen bytes, where a double colon stands for the first of the longest runs of
zeros, if it is longer than one. -/
def sixteenText (pieces : List Nat) : List Char :=
  let (place, length) := longestGap 0 pieces
  if length < 2 then piecesText pieces
  else piecesText (pieces.take place) ++ [':', ':'] ++ piecesText (pieces.drop (place + length))

/-! ### Hosts -/

/-- The host that text stands for. -/
def parse? (cs : List Char) : Option Host :=
  match cs with
  | '[' :: rest => if rest.getLast? = some ']' then sixteen? rest.dropLast else none
  | cs => do
    let name ← Utf8.decode? (percentDecode (Utf8.encode (String.ofList cs)))
    let labels ← Domain.labels? name.toList
    if labels = [[]] then none
    else if endsInNumber labels then four? labels
    else some (.domain (String.ofList (['.'].intercalate labels)))

/-- A host as it is written. -/
def text : Host → String
  | domain name => name
  | four address =>
    ".".intercalate ([24, 16, 8, 0].map fun shift => Numeral.text ((address >>> shift) % 256))
  | sixteen pieces => "[" ++ String.ofList (sixteenText pieces) ++ "]"

end Host

end NodeSupply
