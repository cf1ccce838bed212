/-!
# Characters as bytes

Text leaves and enters the machine as UTF-8. Writing encodes one character at a
time, and a code that is no character is written as U+FFFD. Reading splits a
byte string into the characters it spells and the stray bytes that belong to no
character.
-/

namespace WordMachine.Utf8

/-- The character that stands for whatever is not a character. -/
def replacement : Char := '\uFFFD'

/-- The character of a code. Negative codes, surrogates and codes past U+10FFFF
    give `replacement`. -/
def charOfCode (code : Int) : Char :=
  if 0 ≤ code ∧ code.toNat.isValidChar then Char.ofNat code.toNat else replacement

/-- The bytes of one character. -/
def encode (c : Char) : List UInt8 :=
  String.utf8EncodeChar c

/-- The bytes of a text. -/
def bytesOf (text : String) : List UInt8 :=
  text.toUTF8.toList

/-- What a byte string spells at one position. -/
inductive Glyph where
  | char (c : Char)
  /-- A byte that starts no character. -/
  | stray (b : UInt8)
deriving DecidableEq, Repr

/-- Stray bytes read as `replacement`. -/
def Glyph.toChar : Glyph → Char
  | .char c => c
  | .stray _ => replacement

/-- A byte that continues a character. -/
def isTail (b : UInt8) : Bool := 0x80 ≤ b && b ≤ 0xBF

/-- The bounds on the second byte, which rule out overlong forms, surrogates and
    codes past U+10FFFF. -/
def secondBounds (lead : UInt8) : UInt8 × UInt8 :=
  if lead = 0xE0 then (0xA0, 0xBF)
  else if lead = 0xED then (0x80, 0x9F)
  else if lead = 0xF0 then (0x90, 0xBF)
  else if lead = 0xF4 then (0x80, 0x8F)
  else (0x80, 0xBF)

/-- A second byte within the bounds its lead byte sets. -/
def isSecond (lead b : UInt8) : Bool :=
  (secondBounds lead).1 ≤ b && b ≤ (secondBounds lead).2

/-- The low six bits of a continuation byte. -/
def tailBits (b : UInt8) : Nat := b.toNat % 64

/-- The first glyph of a byte string, and the bytes after it. -/
def first (lead : UInt8) (rest : List UInt8) : Glyph × List UInt8 :=
  if lead < 0x80 then (.char (Char.ofNat lead.toNat), rest)
  else if 0xC2 ≤ lead && lead ≤ 0xDF then
    match rest with
    | b :: more =>
      if isTail b then (.char (Char.ofNat ((lead.toNat % 32) * 64 + tailBits b)), more)
      else (.stray lead, rest)
    | _ => (.stray lead, rest)
  else if 0xE0 ≤ lead && lead ≤ 0xEF then
    match rest with
    | b :: c :: more =>
      if isSecond lead b && isTail c then
        (.char (Char.ofNat (((lead.toNat % 16) * 64 + tailBits b) * 64 + tailBits c)), more)
      else (.stray lead, rest)
    | _ => (.stray lead, rest)
  else if 0xF0 ≤ lead && lead ≤ 0xF4 then
    match rest with
    | b :: c :: d :: more =>
      if isSecond lead b && isTail c && isTail d then
        (.char (Char.ofNat
          ((((lead.toNat % 8) * 64 + tailBits b) * 64 + tailBits c) * 64 + tailBits d)), more)
      else (.stray lead, rest)
    | _ => (.stray lead, rest)
  else (.stray lead, rest)

theorem length_first_le (lead : UInt8) (rest : List UInt8) :
    (first lead rest).2.length ≤ rest.length := by
  unfold first
  repeat' split
  all_goals simp <;> omega

/-- Reads glyphs to the end of the bytes, after those in `out`. -/
def scanInto (out : Array Glyph) : List UInt8 → Array Glyph
  | [] => out
  | lead :: rest =>
    let step := first lead rest
    scanInto (out.push step.1) step.2
termination_by bytes => bytes.length
decreasing_by
  have := length_first_le lead rest
  simp only [List.length_cons]
  omega

/-- The glyphs of a byte string in order. -/
def scan (bytes : List UInt8) : List Glyph :=
  (scanInto #[] bytes).toList

/-- The characters of a byte string, each stray byte as `replacement`. -/
def decode (bytes : List UInt8) : List Char :=
  (scan bytes).map Glyph.toChar

/-- The character of a glyph that is no stray byte. -/
def Glyph.char? : Glyph → Option Char
  | .char c => some c
  | .stray _ => none

/-- The characters of a byte string without stray bytes. -/
def decode? (bytes : List UInt8) : Option (List Char) :=
  (scan bytes).mapM Glyph.char?

end WordMachine.Utf8
