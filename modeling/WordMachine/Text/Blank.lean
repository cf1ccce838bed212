import WordMachine.Text.Utf8

/-!
# White space

The characters with the Unicode property White_Space, and what is left of a text
when they are taken off its two ends.
-/

namespace WordMachine.Text

/-- The Unicode property White_Space. The zero-width space U+200B and the
    separators U+001C to U+001F do not have it. -/
def isBlank (c : Char) : Bool :=
  ('\t' ≤ c && c ≤ '\r') || c = ' ' || c = '\u0085' || c = '\u00A0' || c = '\u1680' ||
  ('\u2000' ≤ c && c ≤ '\u200A') || c = '\u2028' || c = '\u2029' || c = '\u202F' ||
  c = '\u205F' || c = '\u3000'

/-- The characters after the leading white space. -/
def trimStart (cs : List Char) : List Char :=
  cs.dropWhile isBlank

/-- The characters before the trailing white space. -/
def trimEnd (cs : List Char) : List Char :=
  (cs.reverse.dropWhile isBlank).reverse

/-- The characters between the leading and the trailing white space. -/
def trim (cs : List Char) : List Char :=
  trimEnd (trimStart cs)

end WordMachine.Text
