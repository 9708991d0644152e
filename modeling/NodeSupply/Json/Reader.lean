import NodeSupply.Json.Value
import NodeSupply.Text.Numeral
import NodeSupply.Text.Utf8

/-!
# Reading JSON

A strict reader of one JSON document from bytes.  White space is the space, the tab and the two
line ends; a number has no leading zero; a string holds no bare control character; nothing but
white space may follow the value.  The reader does not ask whether the bytes of a string form
text: a value where they do not is garbled, which matters only to whoever uses it.

## Main definitions

* `Json.read?` : the value of a document.
-/

namespace NodeSupply.Json

/-- What is left to read. -/
abbrev Input := List UInt8

/-- Whether a byte is white space between tokens. -/
def isSpace (b : UInt8) : Bool := b == 0x20 || b == 0x0a || b == 0x09 || b == 0x0d

/-- The input after white space. -/
def skipSpace (input : Input) : Input := input.dropWhile isSpace

/-- Whether a byte is an ASCII digit. -/
def isDigit (b : UInt8) : Bool := 0x30 ≤ b && b ≤ 0x39

/-- The input after a fixed run of bytes. -/
def expect? (token : List UInt8) (input : Input) : Option Input :=
  if token.isPrefixOf input then some (input.drop token.length) else none

/-! ### Strings -/

/-- One element of a string: a byte as it stands or by a short escape, or a UTF-16 unit. -/
inductive Piece where
  /-- A byte. -/
  | byte (b : UInt8)
  /-- A unit written with four hexadecimal digits. -/
  | unit (n : Nat)
deriving Repr, DecidableEq

/-- The value of a hexadecimal digit. -/
def hexDigit? (b : UInt8) : Option Nat := Numeral.hexDigit? (Char.ofNat b.toNat)

/-- The byte that a short escape stands for. -/
def shortEscape? (b : UInt8) : Option UInt8 :=
  if b = 0x22 || b = 0x5c || b = 0x2f then some b
  else if b = 0x62 then some 0x08
  else if b = 0x66 then some 0x0c
  else if b = 0x6e then some 0x0a
  else if b = 0x72 then some 0x0d
  else if b = 0x74 then some 0x09
  else none

/-- The pieces of a string up to its closing quote, and the input after it. -/
def readPieces? : Input → Option (List Piece × Input)
  | [] => none
  | 0x22 :: rest => some ([], rest)
  | 0x5c :: 0x75 :: a :: b :: c :: d :: rest => do
    let unit := (← hexDigit? a) * 4096 + (← hexDigit? b) * 256 + (← hexDigit? c) * 16
      + (← hexDigit? d)
    let (pieces, rest) ← readPieces? rest
    some (.unit unit :: pieces, rest)
  | 0x5c :: e :: rest => do
    let b ← shortEscape? e
    let (pieces, rest) ← readPieces? rest
    some (.byte b :: pieces, rest)
  | b :: rest => do
    if b < 0x20 || b = 0x5c then none
    let (pieces, rest) ← readPieces? rest
    some (.byte b :: pieces, rest)

/-- The bytes of pieces; a leading surrogate and the trailing one after it are one character, and
a surrogate on its own is none. -/
def bytesOf? : List Piece → Option (List UInt8)
  | [] => some []
  | .byte b :: rest => (bytesOf? rest).map (b :: ·)
  | .unit n :: rest =>
    if 0xdc00 ≤ n && n < 0xe000 then none
    else if 0xd800 ≤ n && n < 0xdc00 then
      match rest with
      | .unit m :: rest =>
        if 0xdc00 ≤ m && m < 0xe000 then
          let c := Char.ofNat (0x10000 + (n - 0xd800) * 0x400 + (m - 0xdc00))
          (bytesOf? rest).map (Utf8.encode c.toString ++ ·)
        else none
      | _ => none
    else (bytesOf? rest).map (Utf8.encode (Char.ofNat n).toString ++ ·)

/-- The text that pieces form. -/
def textOf? (pieces : List Piece) : Option String := do Utf8.decode? (← bytesOf? pieces)

/-! ### Numbers -/

/-- The digits at the start of the input, and what follows them. -/
def readDigits (input : Input) : List UInt8 × Input :=
  (input.takeWhile isDigit, input.dropWhile isDigit)

/-- At least one digit at the start of the input, and what follows the digits. -/
def someDigits? (input : Input) : Option (List UInt8 × Input) :=
  let (digits, rest) := readDigits input
  if digits.isEmpty then none else some (digits, rest)

/-- The fraction at the start of the input, or nothing where none begins. -/
def readFraction? : Input → Option (List UInt8 × Input)
  | 0x2e :: rest => do
    let (digits, rest) ← someDigits? rest
    some (0x2e :: digits, rest)
  | input => some ([], input)

/-- The sign at the start of the input, if there is one. -/
def readSign : Input → List UInt8 × Input
  | 0x2b :: rest => ([0x2b], rest)
  | 0x2d :: rest => ([0x2d], rest)
  | input => ([], input)

/-- The exponent at the start of the input, or nothing where none begins. -/
def readExponent? : Input → Option (List UInt8 × Input)
  | b :: rest =>
    if b = 0x65 || b = 0x45 then do
      let (sign, rest) := readSign rest
      let (digits, rest) ← someDigits? rest
      some (b :: sign ++ digits, rest)
    else some ([], b :: rest)
  | [] => some ([], [])

/-- The whole part at the start of the input, without a leading zero. -/
def readWhole? : Input → Option (List UInt8 × Input)
  | 0x30 :: b :: rest => if isDigit b then none else some ([0x30], b :: rest)
  | input => someDigits? input

/-- ASCII bytes as characters. -/
def asciiChars (bytes : List UInt8) : List Char := bytes.map fun b => Char.ofNat b.toNat

/-- The number at the start of the input. -/
def readNumber? (input : Input) : Option (Json × Input) := do
  let (negative, unsigned) := match input with
    | 0x2d :: rest => (true, rest)
    | input => (false, input)
  let (whole, rest) ← readWhole? unsigned
  let (fraction, rest) ← readFraction? rest
  let (exponent, rest) ← readExponent? rest
  let value := Nat.ofDigitChars 10 (asciiChars whole) 0
  if fraction.isEmpty && exponent.isEmpty && !(negative && value == 0) then
    some (.integer (if negative then -(value : Int) else value), rest)
  else
    let sign := if negative then ['-'] else []
    some (.decimal (String.ofList (sign ++ asciiChars (whole ++ fraction ++ exponent))), rest)

/-! ### Values -/

/-- A value as text, or garbled where there is no text. -/
def ofText? (s : Option String) : Json := s.elim .garbled .text

/-- An object from its members, or garbled where a key is no text. -/
def ofMembers (members : List (Option String × Json)) : Json :=
  match members.mapM fun (key, value) => key.map (·, value) with
  | some members => .object members
  | none => .garbled

mutual

/-- The value at the start of the input, read with calls at most `fuel` deep. -/
def readValue? (fuel : Nat) (input : Input) : Option (Json × Input) :=
  match fuel with
  | 0 => none
  | fuel + 1 =>
    match skipSpace input with
    | [] => none
    | b :: rest =>
      if b = 0x6e then (expect? [0x75, 0x6c, 0x6c] rest).map (.null, ·)
      else if b = 0x74 then (expect? [0x72, 0x75, 0x65] rest).map (.bool true, ·)
      else if b = 0x66 then (expect? [0x61, 0x6c, 0x73, 0x65] rest).map (.bool false, ·)
      else if b = 0x22 then (readPieces? rest).map fun (pieces, rest) =>
        (ofText? (textOf? pieces), rest)
      else if b = 0x5b then
        match skipSpace rest with
        | 0x5d :: rest => some (.array [], rest)
        | rest => (readItems? fuel rest).map fun (items, rest) => (.array items, rest)
      else if b = 0x7b then
        match skipSpace rest with
        | 0x7d :: rest => some (.object [], rest)
        | rest => (readMembers? fuel rest).map fun (members, rest) => (ofMembers members, rest)
      else readNumber? (b :: rest)

/-- The items of a list that is not empty, up to its closing bracket. -/
def readItems? (fuel : Nat) (input : Input) : Option (List Json × Input) :=
  match fuel with
  | 0 => none
  | fuel + 1 => do
    let (item, rest) ← readValue? fuel input
    match skipSpace rest with
    | 0x5d :: rest => some ([item], rest)
    | 0x2c :: rest =>
      let (items, rest) ← readItems? fuel rest
      some (item :: items, rest)
    | _ => none

/-- The members of an object that is not empty, up to its closing brace. -/
def readMembers? (fuel : Nat) (input : Input) : Option (List (Option String × Json) × Input) :=
  match fuel with
  | 0 => none
  | fuel + 1 =>
    match skipSpace input with
    | 0x22 :: rest => do
      let (pieces, rest) ← readPieces? rest
      let rest ← expect? [0x3a] (skipSpace rest)
      let (value, rest) ← readValue? fuel rest
      match skipSpace rest with
      | 0x7d :: rest => some ([(textOf? pieces, value)], rest)
      | 0x2c :: rest =>
        let (members, rest) ← readMembers? fuel rest
        some ((textOf? pieces, value) :: members, rest)
      | _ => none
    | _ => none

end

/-- The value of a document.  Every call of the reader takes at least a byte, so the length of the
document bounds their depth. -/
def read? (document : List UInt8) : Option Json := do
  let (value, rest) ← readValue? (2 * document.length + 2) document
  if (skipSpace rest).isEmpty then some value else none

end NodeSupply.Json
