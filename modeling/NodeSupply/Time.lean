import NodeSupply.Text.Numeral

/-!
# Time

Spans and points of time in whole milliseconds.

## Main definitions

* `Duration`, `Instant` : spans and points of time.
* `Instant.greatest` : the last point of time that a clock tells.
* `Duration.text` : a span in the largest unit it fills.
-/

namespace NodeSupply

/-- A span of time in milliseconds. -/
abbrev Duration := Nat

/-- A point of time, in milliseconds since the clock was started. -/
abbrev Instant := Nat

/-- The last point of time that a clock tells: its seconds are a signed word of 64 bits. -/
def Instant.greatest : Instant := Nat.pow 2 63 * 1000 - 1

namespace Duration

/-- The digits of a number of thousandths after the point, without zeros at the end. -/
def fraction (thousandths : Nat) : List Char :=
  let digits := [thousandths / 100 % 10, thousandths / 10 % 10, thousandths % 10].map Nat.digitChar
  (digits.reverse.dropWhile (· == '0')).reverse

/-- A span in seconds if it has one, and in milliseconds otherwise; no span has no unit to fill. -/
def text (d : Duration) : String :=
  if d = 0 then "0ns"
  else if d < 1000 then Numeral.text d ++ "ms"
  else
    match fraction (d % 1000) with
    | [] => Numeral.text (d / 1000) ++ "s"
    | digits => Numeral.text (d / 1000) ++ "." ++ String.ofList digits ++ "s"

end Duration

end NodeSupply
