import WordMachine.Terminal.Memory
import WordMachine.Text.Blank

/-!
# Input scripts

A script is a text of input lines. Blank lines and lines that start with `#` are
left out, and the others are handed out one by one before the next channel is asked.
A line that is handed out may be echoed to the next channel first.
-/

namespace WordMachine

/-- The lines still to hand out, and whether they are echoed. -/
structure Script where
  lines : List (List UInt8)
  echo : Bool
deriving DecidableEq, Repr

namespace Script

/-- A line of a script has fewer bytes than this. -/
abbrev lineLimit : Nat := 65536

/-- Splits bytes at newlines, after the lines in `out` and the bytes in `line`. A last
    line without a newline counts unless it is empty. -/
def splitInto (out : Array (List UInt8)) (line : Array UInt8) : List UInt8 → Array (List UInt8)
  | [] => if line.isEmpty then out else out.push line.toList
  | b :: rest =>
    if b = newline then splitInto (out.push line.toList) #[] rest
    else splitInto out (line.push b) rest

/-- The lines of a text without their newlines. -/
def split (bytes : List UInt8) : List (List UInt8) :=
  (splitInto #[] #[] bytes).toList

/-- A line without the carriage returns at its end. -/
def stripReturns (line : List UInt8) : List UInt8 :=
  (line.reverse.dropWhile (· = 13)).reverse

/-- Whether a line is neither blank nor a comment. -/
def isCommand (line : List UInt8) : Bool :=
  match Text.trimStart (Utf8.decode line) with
  | [] => false
  | c :: _ => c ≠ '#'

/-- The lines that a text hands out. There are none if a line is too long. -/
def commands? (bytes : List UInt8) : Option (List (List UInt8)) :=
  let lines := split bytes
  if lines.all (·.length < lineLimit) then
    some (((lines.map stripReturns).filter isCommand).map (· ++ [newline]))
  else none

def unreadable (reason : String) : String := "reading input script: " ++ reason

def tooLong : String := unreadable "bufio.Scanner: token too long"

def parse (bytes : List UInt8) (echo : Bool) : Except String Script :=
  match commands? bytes with
  | some lines => .ok ⟨lines, echo⟩
  | none => .error tooLong

/-- How many lines are left. -/
def remaining (script : Script) : Nat := script.lines.length

/-- Writes characters one by one until one is refused. -/
def writeAll {τ : Type} (write : τ → Char → Except ChannelError Unit × τ) :
    List Char → τ → Except ChannelError Unit × τ
  | [], next => (.ok (), next)
  | c :: rest, next =>
    match write next c with
    | (.error error, next) => (.error error, next)
    | (.ok _, next) => writeAll write rest next

/-- Hands out the next line, or asks the next channel when none is left. The line is
    gone even if its echo is refused. -/
def readLine {τ : Type} (write : τ → Char → Except ChannelError Unit × τ)
    (ask : τ → Except ChannelError (List UInt8) × τ) (script : Script) (next : τ) :
    Except ChannelError (List UInt8) × Script × τ :=
  match script with
  | ⟨[], echo⟩ =>
    let (answer, next) := ask next
    (answer, ⟨[], echo⟩, next)
  | ⟨line :: rest, echo⟩ =>
    if echo then
      match writeAll write (Utf8.decode line) next with
      | (.error error, next) => (.error error, ⟨rest, echo⟩, next)
      | (.ok _, next) => (.ok line, ⟨rest, echo⟩, next)
    else (.ok line, ⟨rest, echo⟩, next)

end Script

/-- A script in front of a channel. -/
structure Scripted (τ : Type) where
  script : Script
  next : τ

/-- Output and flushes go to the channel behind the script. -/
instance {τ : Type} [Channel τ] : Channel (Scripted τ) where
  writeChar terminal c :=
    let (answer, next) := Channel.writeChar terminal.next c
    (answer, ⟨terminal.script, next⟩)
  readLine terminal :=
    let (answer, script, next) :=
      terminal.script.readLine Channel.writeChar Channel.readLine terminal.next
    (answer, ⟨script, next⟩)
  flush terminal :=
    let (answer, next) := Channel.flush terminal.next
    (answer, ⟨terminal.script, next⟩)

end WordMachine
