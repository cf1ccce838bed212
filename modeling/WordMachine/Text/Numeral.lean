import WordMachine.Text.Blank

/-!
# Numerals

How numbers are written (hexadecimal with a least width, decimal) and read: a
numeral is hexadecimal after `$` or `0x`, decimal after `#`, and otherwise decimal
if it can be, else hexadecimal.
-/

namespace WordMachine

/-- What a text says when it is read as a 64-bit number. -/
inductive Reading where
  /-- The number. -/
  | number (n : UInt64)
  /-- Not a numeral. -/
  | malformed
  /-- A numeral past the largest 64-bit number. -/
  | tooLarge
deriving DecidableEq, Repr

/-- The number, if there is one. -/
def Reading.number? : Reading → Option UInt64
  | .number n => some n
  | _ => none

namespace Numeral

/-- The value of a digit, letters of either case counting from ten. -/
def digit? (c : Char) : Option Nat :=
  if '0' ≤ c ∧ c ≤ '9' then some (c.toNat - '0'.toNat)
  else if 'a' ≤ c ∧ c ≤ 'z' then some (c.toNat - 'a'.toNat + 10)
  else if 'A' ≤ c ∧ c ≤ 'Z' then some (c.toNat - 'A'.toNat + 10)
  else none

/-- Reads further digits after those that make up `value`. The reading ends at the
    first character that is no digit of the base or takes the number past 64 bits,
    whichever comes first. -/
def readFrom (base value : Nat) : List Char → Reading
  | [] => .number value.toUInt64
  | c :: rest =>
    match digit? c with
    | none => .malformed
    | some d =>
      if d < base then
        if base * value + d < 0x10000000000000000 then readFrom base (base * value + d) rest
        else .tooLarge
      else .malformed

/-- Reads one or more digits of a base. -/
def readDigits (base : Nat) : List Char → Reading
  | [] => .malformed
  | cs => readFrom base 0 cs

/-- Reads a numeral without surrounding white space. -/
def readTrimmed : List Char → Reading
  | '$' :: digits => readDigits 16 digits
  | '0' :: 'x' :: digits => readDigits 16 digits
  | '0' :: 'X' :: digits => readDigits 16 digits
  | '#' :: digits => readDigits 10 digits
  | digits =>
    match readDigits 10 digits with
    | .number n => .number n
    | _ => readDigits 16 digits

/-- Reads a numeral, white space around it set aside. -/
def readChars (cs : List Char) : Reading :=
  readTrimmed (Text.trim cs)

/-- Reads a numeral, white space around it set aside. -/
def read (text : String) : Reading :=
  readChars text.toList

/-- `fill` put before the characters until there are `width` of them. -/
def padLeft (fill : Char) (width : Nat) (cs : List Char) : List Char :=
  List.replicate (width - cs.length) fill ++ cs

/-- Spaces put after the characters until there are `width` of them. -/
def padRight (width : Nat) (text : String) : String :=
  text ++ String.ofList (List.replicate (width - text.length) ' ')

/-- The digits of a number in base sixteen, lower case, at least `width` of them. -/
def hexDigits (width n : Nat) : List Char :=
  padLeft '0' width (Nat.toDigits 16 n)

/-- Lower-case hexadecimal with at least `width` digits. -/
def hexLower (width n : Nat) : String :=
  String.ofList (hexDigits width n)

/-- Upper-case hexadecimal with at least `width` digits. -/
def hex (width n : Nat) : String :=
  String.ofList ((hexDigits width n).map Char.toUpper)

/-- Decimal with leading zeros up to `width` digits. -/
def decimalPadded (width n : Nat) : String :=
  String.ofList (padLeft '0' width (Nat.toDigits 10 n))

end Numeral

end WordMachine
