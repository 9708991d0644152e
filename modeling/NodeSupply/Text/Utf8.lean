/-!
# UTF-8

Bytes are read one at a time.  A lead byte says how many tail bytes it is owed and in which range
the first of them lies; a byte outside that range closes the unfinished sequence as ill-formed and
is then read afresh, so that an ill-formed sequence is always as long as possible.

## Main definitions

* `Utf8.scan` : the characters of some bytes, with a gap for each ill-formed sequence.
* `Utf8.decode?` : the text that bytes encode, if they are well formed.
* `Utf8.decodeLossy` : as `decode?`, with `U+FFFD` for each ill-formed sequence.
* `Utf8.encode` : the bytes of text.
-/

namespace NodeSupply.Utf8

/-- A sequence that still lacks tail bytes. -/
structure Unfinished where
  /-- The number of tail bytes owed after the next one. -/
  more : Nat
  /-- The least value that the next byte may have. -/
  low : Nat
  /-- The greatest value that the next byte may have. -/
  high : Nat
  /-- The code point read so far. -/
  code : Nat
deriving Repr, DecidableEq

/-- What a byte at the start of a sequence means. -/
inductive Lead where
  /-- The byte is a character of its own. -/
  | whole (c : Char)
  /-- The byte opens a sequence. -/
  | opens (rest : Unfinished)
  /-- The byte opens no sequence. -/
  | stray
deriving Repr, DecidableEq

/-- The meaning of a byte at the start of a sequence. -/
def lead (b : Nat) : Lead :=
  if b < 0x80 then .whole (Char.ofNat b)
  else if b < 0xc2 then .stray
  else if b < 0xe0 then .opens ⟨0, 0x80, 0xbf, b - 0xc0⟩
  else if b = 0xe0 then .opens ⟨1, 0xa0, 0xbf, 0⟩
  else if b = 0xed then .opens ⟨1, 0x80, 0x9f, 0xd⟩
  else if b < 0xf0 then .opens ⟨1, 0x80, 0xbf, b - 0xe0⟩
  else if b = 0xf0 then .opens ⟨2, 0x90, 0xbf, 0⟩
  else if b < 0xf4 then .opens ⟨2, 0x80, 0xbf, b - 0xf0⟩
  else if b = 0xf4 then .opens ⟨2, 0x80, 0x8f, 4⟩
  else .stray

/-- Reads a byte at the start of a sequence: what it completes and what it leaves open. -/
def readLead (b : Nat) : List (Option Char) × Option Unfinished :=
  match lead b with
  | .whole c => ([some c], none)
  | .opens rest => ([], some rest)
  | .stray => ([none], none)

/-- Reads a byte after an unfinished sequence. -/
def readTail (open_ : Unfinished) (b : Nat) : List (Option Char) × Option Unfinished :=
  if open_.low ≤ b ∧ b ≤ open_.high then
    let code := open_.code * 64 + (b - 0x80)
    match open_.more with
    | 0 => ([some (Char.ofNat code)], none)
    | more + 1 => ([], some ⟨more, 0x80, 0xbf, code⟩)
  else
    let (read, next) := readLead b
    (none :: read, next)

/-- The characters of some bytes after an unfinished sequence, with a gap for each ill-formed
sequence. -/
def scanFrom : Option Unfinished → List UInt8 → List (Option Char)
  | none, [] => []
  | some _, [] => [none]
  | none, b :: bytes =>
    let (read, next) := readLead b.toNat
    read ++ scanFrom next bytes
  | some open_, b :: bytes =>
    let (read, next) := readTail open_ b.toNat
    read ++ scanFrom next bytes

/-- The characters of some bytes, with a gap for each ill-formed sequence. -/
def scan (bytes : List UInt8) : List (Option Char) := scanFrom none bytes

/-- The text that bytes encode, if they are well formed. -/
def decode? (bytes : List UInt8) : Option String :=
  ((scan bytes).mapM id).map String.ofList

/-- The text that bytes encode, with `U+FFFD` for each ill-formed sequence. -/
def decodeLossy (bytes : List UInt8) : String :=
  String.ofList ((scan bytes).map (·.getD '\uFFFD'))

/-- The bytes of text. -/
def encode (s : String) : List UInt8 := s.toUTF8.toList

end NodeSupply.Utf8
