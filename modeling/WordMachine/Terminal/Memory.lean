import WordMachine.Terminal.Channel
import WordMachine.Text.Utf8

/-!
# The terminal in memory

Lines wait in a queue, and output collects until it is drained. Nothing fails.
-/

namespace WordMachine

abbrev newline : UInt8 := 10

/-- Queued input lines and collected output. -/
structure MemoryTerminal where
  lines : List (List UInt8)
  output : Array UInt8
deriving DecidableEq, Repr

namespace MemoryTerminal

/-- No input and no output. -/
def empty : MemoryTerminal := ⟨[], #[]⟩

/-- A line with a newline at its end, added if it is missing. -/
def terminated (line : List UInt8) : List UInt8 :=
  if line.getLast? = some newline then line else line ++ [newline]

def enqueue (terminal : MemoryTerminal) (line : List UInt8) : MemoryTerminal :=
  { terminal with lines := terminal.lines ++ [terminated line] }

def writeChar (terminal : MemoryTerminal) (c : Char) : Except ChannelError Unit × MemoryTerminal :=
  (.ok (), ⟨terminal.lines, terminal.output ++ Utf8.encode c⟩)

/-- Takes the first queued line. -/
def readLine : MemoryTerminal → Except ChannelError (List UInt8) × MemoryTerminal
  | ⟨[], output⟩ => (.error .endOfInput, ⟨[], output⟩)
  | ⟨line :: rest, output⟩ => (.ok line, ⟨rest, output⟩)

/-- The output so far, and the terminal without it. -/
def drain (terminal : MemoryTerminal) : Array UInt8 × MemoryTerminal :=
  (terminal.output, { terminal with output := #[] })

instance : Channel MemoryTerminal where
  writeChar := writeChar
  readLine := readLine
  flush := fun terminal => (.ok (), terminal)

end MemoryTerminal

end WordMachine
