import NodeSupply.Text.Blank
import NodeSupply.Text.Fields
import NodeSupply.Text.Numeral

/-!
# Settings

The values that environment variables hold.  Text with commas is a list of its parts.  Any other
text is read as a value by its looks: a truth value, a number, a list between brackets, values under
keys between braces, text between quotes, one character between apostrophes, or bare words.  Text
that is none of these from its start to its end stands for itself.

## Main definitions

* `Setting` : the value of a variable.
* `Setting.read?` : the value that text is from its start to its end.
* `Setting.ofText` : the value that a variable holds.
-/

namespace NodeSupply

/-- The value of a variable. -/
inductive Setting where
  /-- A truth value. -/
  | flag (b : Bool)
  /-- A whole number. -/
  | whole (n : Int)
  /-- A number with a point. -/
  | pointed
  /-- Text. -/
  | text (s : String)
  /-- A list of values. -/
  | list (items : List Setting)
  /-- Values under keys. -/
  | table
deriving Repr

namespace Setting

/-! ### Numbers and words -/

/-- A number without its sign, and whether that is a minus. -/
def unsigned : List Char → Bool × List Char
  | '-' :: cs => (true, cs)
  | '+' :: cs => (false, cs)
  | cs => (false, cs)

/-- The whole number that text is, if a word holds it. -/
def whole? (cs : List Char) : Option Int :=
  match unsigned cs with
  | (false, digits) => (Numeral.readBelow? UInt64.size digits).map Int.ofNat
  | (true, digits) => (Numeral.readBelow? 0x8000000000000001 digits).map fun n => -(n : Int)

/-- Whether text is the exponent of a number, or none. -/
def isExponent : List Char → Bool
  | [] => true
  | e :: cs => (e == 'e' || e == 'E') && (Numeral.read? (unsigned cs).2).isSome

/-- Whether text is a number with a point. -/
def isPointed (cs : List Char) : Bool :=
  let cs := (unsigned cs).2
  match cs.dropWhile Char.isDigit with
  | '.' :: rest =>
    (rest.head?.any Char.isDigit || cs.head?.any Char.isDigit) &&
      isExponent (rest.dropWhile Char.isDigit)
  | _ => false

/-- The value of bare words: a number if they are one. -/
def bare (cs : List Char) : Setting :=
  if isPointed cs then .pointed
  else
    match whole? cs with
    | some n => .whole n
    | none => .text (String.ofList cs)

/-! ### Quoted text -/

/-- The character that a backslash and a letter stand for. -/
def shortEscape? (letter : Char) : Option Char :=
  [('"', '"'), ('\\', '\\'), ('b', '\x08'), ('f', '\x0c'), ('n', '\n'), ('r', '\r'),
    ('t', '\t')].lookup letter

/-- The character with a hexadecimal code. -/
def coded? (digits : List Char) : Option Char := do
  let code ← Numeral.readRadix? 16 digits
  if code.isValidChar then some (Char.ofNat code) else none

/-- Whether a character may stand for itself between quotes: any but a control, of which the tab
may. -/
def isPlain (c : Char) : Bool := c == '\t' || (0x20 ≤ c.toNat && c.toNat != 0x7f)

/-- Text up to its closing quote, with its escapes read, and what follows that. -/
def readEscaped? : List Char → Option (List Char × List Char)
  | [] => none
  | '"' :: rest => some ([], rest)
  | '\\' :: 'u' :: a :: b :: c :: d :: rest => do
    let first ← coded? [a, b, c, d]
    let (cs, rest) ← readEscaped? rest
    some (first :: cs, rest)
  | '\\' :: 'U' :: a :: b :: c :: d :: e :: f :: g :: h :: rest => do
    let first ← coded? [a, b, c, d, e, f, g, h]
    let (cs, rest) ← readEscaped? rest
    some (first :: cs, rest)
  | '\\' :: letter :: rest => do
    let first ← shortEscape? letter
    let (cs, rest) ← readEscaped? rest
    some (first :: cs, rest)
  | c :: rest => do
    if c = '\\' || !isPlain c then none
    let (cs, rest) ← readEscaped? rest
    some (c :: cs, rest)

/-- Whether a character ends a run of characters that stand for themselves. -/
def endsRun (c : Char) : Bool := c == '"' || c == '\\'

/-- The longest start of text that takes up at most `size` bytes. -/
def takeBytes (size : Nat) : List Char → List Char
  | [] => []
  | c :: cs => if c.utf8Size ≤ size then c :: takeBytes (size - c.utf8Size) cs else []

/-- Text up to its closing quote, and what follows that.  Of the text in front of the first escape
as many bytes are kept as it has characters, so all of it where it is in ASCII. -/
def readQuoted? (cs : List Char) : Option (List Char × List Char) := do
  let (quoted, rest) ← readEscaped? cs
  let run := cs.takeWhile (!endsRun ·)
  if cs[run.length]? = some '\\' then
    some (takeBytes run.length run ++ quoted.drop run.length, rest)
  else some (quoted, rest)

/-! ### Values -/

/-- Whether a character is white space between values. -/
def isSpace (c : Char) : Bool := [' ', '\t', '\n', '\x0c', '\r'].contains c

/-- Text after the white space at its start. -/
def skipSpace (cs : List Char) : List Char := cs.dropWhile isSpace

/-- Whether a character ends bare words. -/
def isSeparator (c : Char) : Bool := [',', '\x7b', '\x7d', '[', ']'].contains c

/-- Whether a character may be part of a key without quotes. -/
def isKeyChar (c : Char) : Bool := c.isAlphanum || c == '_' || c == '-'

/-- What follows some text at the start of other text. -/
def after? (start cs : List Char) : Option (List Char) :=
  if start.isPrefixOf cs then some (cs.drop start.length) else none

/-- A truth value or bare words at the start of text, and what follows them. -/
def readWords (cs : List Char) : Setting × List Char :=
  match after? "true".toList cs, after? "false".toList cs with
  | some rest, _ => (flag true, rest)
  | none, some rest => (flag false, rest)
  | none, none =>
    (bare (Text.trimChars (cs.takeWhile (!isSeparator ·))), cs.dropWhile (!isSeparator ·))

/-- A character in front of an apostrophe, and what follows that. -/
def readCharacter? : List Char → Option (Char × List Char)
  | c :: '\'' :: rest => some (c, rest)
  | _ => none

/-- What follows the key at the start of text. -/
def skipKey? : List Char → Option (List Char)
  | '"' :: rest => (readQuoted? rest).map (·.2)
  | c :: rest => if isKeyChar c then some (rest.dropWhile isKeyChar) else none
  | [] => none

mutual

/-- The value at the start of text and what follows it and the white space after it, read with calls
at most `fuel` deep. -/
def readValue? (fuel : Nat) (cs : List Char) : Option (Setting × List Char) :=
  match fuel with
  | 0 => none
  | fuel + 1 =>
    let found := match skipSpace cs with
      | '\x7b' :: rest => (skipEntries? fuel rest).map (table, ·)
      | '[' :: rest => (readItems? fuel rest).map fun (items, rest) => (list items, rest)
      | '"' :: rest => (readQuoted? rest).map fun (s, rest) => (text (String.ofList s), rest)
      | '\'' :: rest => (readCharacter? rest).map fun (c, rest) => (text (String.ofList [c]), rest)
      | cs => some (readWords cs)
    found.map fun (value, rest) => (value, skipSpace rest)

/-- The items of a list up to its closing bracket, in front of which a comma may stand. -/
def readItems? (fuel : Nat) (cs : List Char) : Option (List Setting × List Char) :=
  match fuel, cs with
  | 0, _ => none
  | _, ']' :: rest => some ([], rest)
  | fuel + 1, cs => do
    let (item, rest) ← readValue? fuel cs
    match rest with
    | ',' :: rest =>
      let (items, rest) ← readItems? fuel rest
      some (item :: items, rest)
    | ']' :: rest => some ([item], rest)
    | _ => none

/-- What follows keys and values up to the closing brace, in front of which a comma may stand. -/
def skipEntries? (fuel : Nat) (cs : List Char) : Option (List Char) :=
  match fuel, cs with
  | 0, _ => none
  | _, '\x7d' :: rest => some rest
  | fuel + 1, cs => do
    let rest ← skipKey? (skipSpace cs)
    match skipSpace rest with
    | '=' :: rest =>
      let (_, rest) ← readValue? fuel rest
      match rest with
      | ',' :: rest => skipEntries? fuel rest
      | '\x7d' :: rest => some rest
      | _ => none
    | _ => none

end

/-- The value that text is from its start to its end.  Between a call of the reader and the next but
one within it lies at least a character, so the length of the text bounds their depth. -/
def read? (cs : List Char) : Option Setting := do
  let (value, rest) ← readValue? (2 * cs.length + 2) cs
  if rest.isEmpty then some value else none

/-- Whether text begins as a value that may hold commas. -/
def isDelimited (cs : List Char) : Bool := cs.head?.any ['[', '\x7b', '"', '\''].contains

/-- The value that a variable holds. -/
def ofText (s : String) : Setting :=
  let cs := Text.trimChars s.toList
  if cs.contains ',' && !isDelimited cs then
    .list ((Text.fields ',' cs).map fun part => .text (String.ofList (Text.trimChars part)))
  else (read? cs).getD (.text (String.ofList cs))

/-! ### Kinds -/

/-- The text that a value is. -/
def text? : Setting → Option String
  | text s => some s
  | _ => none

/-- The word that a value is. -/
def word? : Setting → Option UInt64
  | whole (.ofNat n) => some (UInt64.ofNat n)
  | _ => none

/-- The list of text that a value is. -/
def texts? : Setting → Option (List String)
  | list items => items.mapM text?
  | _ => none

end Setting

end NodeSupply
