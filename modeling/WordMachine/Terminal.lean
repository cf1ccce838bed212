import WordMachine.Terminal.Editor
import WordMachine.Terminal.Script
import WordMachine.Terminal.Stream

/-!
# Terminals

The channels a machine can be attached to. Scripts may stand in front of any of
them, one before the other.
-/

namespace WordMachine

/-- A channel of one of the known makes. -/
inductive Terminal where
  /-- Takes all output, shows none of it, and has no input. -/
  | null
  /-- Lines and output in memory. -/
  | memory (terminal : MemoryTerminal)
  /-- Byte streams. -/
  | stream (terminal : StreamTerminal)
  /-- A screen and a keyboard. -/
  | editor (terminal : EditorTerminal)
  /-- Prepared lines before those of another terminal. -/
  | script (script : Script) (next : Terminal)
deriving DecidableEq, Repr

namespace Terminal

/-- Writes one character. -/
def writeChar : Terminal → Char → Except ChannelError Unit × Terminal
  | null, _ => (.ok (), null)
  | memory t, c => let (answer, t) := t.writeChar c; (answer, memory t)
  | stream t, c => let (answer, t) := t.writeChar c; (answer, stream t)
  | editor t, c => let (answer, t) := t.writeChar c; (answer, editor t)
  | script s next, c => let (answer, next) := writeChar next c; (answer, script s next)

def readLine : Terminal → Except ChannelError (List UInt8) × Terminal
  | null => (.error .endOfInput, null)
  | memory t => let (answer, t) := t.readLine; (answer, memory t)
  | stream t => let (answer, t) := t.readLine; (answer, stream t)
  | editor t => let (answer, t) := t.readLine; (answer, editor t)
  | script s next =>
    let (answer, s, next) := s.readLine writeChar (fun _ => readLine next) next
    (answer, script s next)

/-- Sends on what is kept back. -/
def flush : Terminal → Except ChannelError Unit × Terminal
  | null => (.ok (), null)
  | memory t => (.ok (), memory t)
  | stream t => let (answer, t) := t.flush; (answer, stream t)
  | editor t => let (answer, t) := t.flush; (answer, editor t)
  | script s next => let (answer, next) := flush next; (answer, script s next)

instance : Channel Terminal where
  writeChar := writeChar
  readLine := readLine
  flush := flush

/-- The bytes that came out since the last time, and the terminal without them. -/
def drain : Terminal → Array UInt8 × Terminal
  | null => (#[], null)
  | memory t => let (bytes, t) := t.drain; (bytes, memory t)
  | stream t => let (bytes, t) := t.drain; (bytes, stream t)
  | editor t => let (bytes, t) := t.drain; (bytes, editor t)
  | script s next => let (bytes, next) := drain next; (bytes, script s next)

/-- Queues a line where lines are queued. -/
def enqueue (line : List UInt8) : Terminal → Terminal
  | memory t => memory (t.enqueue line)
  | script s next => script s (enqueue line next)
  | other => other

/-- The bytes of the input that no line was made of. -/
def unread : Terminal → List UInt8
  | null | memory _ => []
  | stream t => t.input
  | editor t => t.fetched ++ t.keys
  | script _ next => unread next

/-- The terminal with other bytes as its input. -/
def withInput (input : List UInt8) : Terminal → Terminal
  | stream t => stream { t with input }
  | editor t => editor { t with fetched := [], keys := input }
  | script s next => script s (withInput input next)
  | other => other

/-- How many prepared lines are left in front. -/
def remaining : Terminal → Nat
  | script s _ => s.remaining
  | _ => 0

/-- Gives an interactive terminal back. -/
def release : Terminal → Terminal
  | editor t => editor t.release
  | script s next => script s (release next)
  | other => other

/-- Writes characters until one is refused, and says at which place that was. -/
def writeChars (terminal : Terminal) (place : Nat) :
    List Char → Except (ChannelError × Nat) Unit × Terminal
  | [] => (.ok (), terminal)
  | c :: rest =>
    match terminal.writeChar c with
    | (.error error, terminal) => (.error (error, place), terminal)
    | (.ok _, terminal) => writeChars terminal (place + 1) rest

end Terminal

end WordMachine
