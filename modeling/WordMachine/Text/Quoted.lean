import WordMachine.Text.Numeral
import WordMachine.Text.Printable

/-!
# Quoted text

Texts that come from outside are quoted in messages: printable characters stand
for themselves, all others are written as escapes, and a byte that belongs to no
character as a two-digit escape.
-/

namespace WordMachine.Quoted

open Utf8 (Glyph)

/-- The letter that follows the backslash for the control characters that have one. -/
def controlLetter? (c : Char) : Option Char :=
  if c = '\x07' then some 'a'
  else if c = '\x08' then some 'b'
  else if c = '\x0C' then some 'f'
  else if c = '\n' then some 'n'
  else if c = '\r' then some 'r'
  else if c = '\t' then some 't'
  else if c = '\x0B' then some 'v'
  else none

def char (c : Char) : List Char :=
  if c = '"' ∨ c = '\\' then ['\\', c]
  else if Text.isPrintable c then [c]
  else match controlLetter? c with
    | some letter => ['\\', letter]
    | none =>
      if c.toNat < 0x20 ∨ c.toNat = 0x7F then '\\' :: 'x' :: Numeral.hexDigits 2 c.toNat
      else if c.toNat < 0x10000 then '\\' :: 'u' :: Numeral.hexDigits 4 c.toNat
      else '\\' :: 'U' :: Numeral.hexDigits 8 c.toNat

def glyph : Glyph → List Char
  | .char c => char c
  | .stray b => '\\' :: 'x' :: Numeral.hexDigits 2 b.toNat

def text (s : String) : String :=
  String.ofList ('"' :: s.toList.flatMap char ++ ['"'])

/-- The text that bytes spell, with its quotes. -/
def bytes (bs : List UInt8) : String :=
  String.ofList ('"' :: (Utf8.scan bs).flatMap glyph ++ ['"'])

end WordMachine.Quoted
