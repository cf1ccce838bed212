import WordMachine.Text.Numeral

/-!
# Durations

Spans of time in whole nanoseconds, within 64 bits. They are rounded to milliseconds,
a half going away from zero, and written with units, as in `1m0s` or `25h1m1.002s`.
-/

namespace WordMachine

/-- A span of time in nanoseconds. -/
structure Duration where
  nanoseconds : Int
deriving DecidableEq, Repr

namespace Duration

/-- Nanoseconds in a second. -/
abbrev second : Nat := 1000000000

/-- Nanoseconds in a millisecond. -/
abbrev millisecond : Nat := 1000000

/-- The longest span. -/
abbrev maxNanoseconds : Nat := 0x7FFFFFFFFFFFFFFF

/-- A number of nanoseconds rounded to milliseconds, a half upwards. -/
def roundUpHalf (n : Nat) : Nat :=
  (n + millisecond / 2) / millisecond * millisecond

/-- The nearest whole millisecond, a half going away from zero. Past the ends of the
    range the end stands in. -/
def rounded (duration : Duration) : Duration :=
  match duration.nanoseconds with
  | .ofNat n => ⟨min (roundUpHalf n) maxNanoseconds⟩
  | .negSucc n => ⟨-(min (roundUpHalf (n + 1)) (maxNanoseconds + 1) : Nat)⟩

/-- A whole number and a fraction of so many digits, zeros at the end of it left out. -/
def fraction (digits n : Nat) : String :=
  let scale := Nat.pow 10 digits
  let places := (Numeral.decimalPadded digits (n % scale)).toList.reverse.dropWhile (· = '0')
  let whole := toString (n / scale)
  if places.isEmpty then whole else whole ++ "." ++ String.ofList places.reverse

/-- A span that is not negative, in the unit that fits it. -/
def textOfNat (n : Nat) : String :=
  if n = 0 then "0s"
  else if n < 1000 then toString n ++ "ns"
  else if n < millisecond then fraction 3 n ++ "µs"
  else if n < second then fraction 6 n ++ "ms"
  else
    let minutes := n / second / 60
    let seconds := fraction 9 (n % (60 * second)) ++ "s"
    if minutes = 0 then seconds
    else
      let hours := minutes / 60
      let rest := toString (minutes % 60) ++ "m" ++ seconds
      if hours = 0 then rest else toString hours ++ "h" ++ rest

def text (duration : Duration) : String :=
  match duration.nanoseconds with
  | .ofNat n => textOfNat n
  | .negSucc n => "-" ++ textOfNat (n + 1)

/-- The span in seconds: the whole seconds and the rest of it, each rounded. A span that
    is not positive counts as none. -/
def seconds (duration : Duration) : Float :=
  match duration.nanoseconds with
  | .ofNat n => (n / second).toUInt64.toFloat + (n % second).toUInt64.toFloat / 1e9
  | .negSucc _ => 0

end Duration

end WordMachine
