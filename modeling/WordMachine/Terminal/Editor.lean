import WordMachine.Terminal.Memory
import WordMachine.Terminal.Sink
import WordMachine.Text.Numeral

/-!
# The line editor

An interactive terminal echoes what is typed and hands over a line when Enter is
pressed. Output is kept back until a newline, a read or a flush. If a line is being
typed when output is sent, the editor wipes the line off the screen, writes the
output and draws the line again.

Keys are fetched some at a time, and what they show is sent once all of those are
handled. A key that ends input leaves them fetched: the next read handles them again.
-/

namespace WordMachine

/-- The state of the screen and the keyboard. -/
structure EditorTerminal where
  /-- Keys not yet fetched. -/
  keys : List UInt8
  /-- Keys fetched and not yet done with. -/
  fetched : List UInt8
  /-- The error that follows the keys, if they do not simply end. -/
  readFailure : Option String
  sink : Sink
  /-- Output kept back. -/
  held : Array UInt8
  /-- Screen commands and echo not yet sent. -/
  queue : Array UInt8
  /-- The line being typed. -/
  line : Array UInt8
  /-- The column of the cursor within the line being typed. -/
  column : Nat
  /-- The row of the cursor within the line being typed. -/
  row : Nat
  /-- Whether the terminal was given back. -/
  released : Bool
deriving DecidableEq, Repr

namespace EditorTerminal

def opened (keys : List UInt8) (readFailure : Option String) (sink : Sink) : EditorTerminal :=
  ⟨keys, [], readFailure, sink, #[], #[], #[], 0, 0, false⟩

abbrev width : Nat := 80

/-- The longest line that can be typed. -/
abbrev lineLimit : Nat := 4096

/-- The bytes that end a line on the screen. -/
def lineEnd : List UInt8 := [13, 10]

/-- The command that moves the cursor some places in the direction of a letter. -/
def moveCommand (places : Nat) (direction : Char) : List UInt8 :=
  if places = 0 then []
  else if places = 1 then Utf8.bytesOf ("\x1b[" ++ direction.toString)
  else Utf8.bytesOf ("\x1b[" ++ toString places ++ direction.toString)

/-- The command that wipes the line from the cursor on. -/
def wipeCommand : List UInt8 := Utf8.bytesOf "\x1b[K"

/-- Adds bytes to the queue. -/
def enqueue (terminal : EditorTerminal) (bytes : List UInt8) : EditorTerminal :=
  { terminal with queue := terminal.queue ++ bytes }

/-- Sends the queue. It is kept if that fails. -/
def sendQueue (terminal : EditorTerminal) : Except ChannelError Unit × EditorTerminal :=
  match terminal.sink.write terminal.queue with
  | (.ok _, sink) => (.ok (), { terminal with sink, queue := #[] })
  | (.error error, sink) => (.error error, { terminal with sink })

/-- Shows one typed byte. A cursor that reaches the end of a row goes to the next. -/
def echo (terminal : EditorTerminal) (b : UInt8) : EditorTerminal :=
  if terminal.column + 1 < width then
    { terminal.enqueue [b] with column := terminal.column + 1 }
  else
    { terminal.enqueue (b :: lineEnd) with column := 0, row := terminal.row + 1 }

/-- Sends output bytes, every newline with a carriage return before it. The pieces
    between newlines and the line ends are sent one by one. -/
def sendLines (sink : Sink) (piece : Array UInt8) : List UInt8 → Except ChannelError Unit × Sink
  | [] => if piece.isEmpty then (.ok (), sink) else sink.write piece
  | b :: rest =>
    if b = newline then
      match sink.write piece with
      | (.error error, sink) => (.error error, sink)
      | (.ok _, sink) =>
        match sink.write lineEnd.toArray with
        | (.error error, sink) => (.error error, sink)
        | (.ok _, sink) => sendLines sink #[] rest
    else sendLines sink (piece.push b) rest

/-- The commands that wipe rows above the cursor. -/
def wipeRows : Nat → List UInt8
  | 0 => []
  | rows + 1 => moveCommand 1 'A' ++ wipeCommand ++ wipeRows rows

/-- Takes the line being typed off the screen. -/
def wipe (terminal : EditorTerminal) : EditorTerminal :=
  let commands := moveCommand terminal.column 'D' ++ wipeCommand ++ wipeRows terminal.row
  { terminal.enqueue commands with column := 0, row := 0 }

/-- Draws the line being typed. -/
def redraw (terminal : EditorTerminal) : EditorTerminal :=
  terminal.line.foldl echo terminal

def display (terminal : EditorTerminal) (output : List UInt8) :
    Except ChannelError Unit × EditorTerminal :=
  if terminal.column = 0 ∧ terminal.row = 0 then
    let (answer, sink) := sendLines terminal.sink #[] output
    (answer, { terminal with sink })
  else
    match terminal.wipe.sendQueue with
    | (.error error, terminal) => (.error error, terminal)
    | (.ok _, terminal) =>
      match sendLines terminal.sink #[] output with
      | (.error error, sink) => (.error error, { terminal with sink })
      | (.ok _, sink) => ({ terminal with sink } : EditorTerminal).redraw.sendQueue

/-- Sends the output kept back. None of it is kept if that fails. -/
def flush (terminal : EditorTerminal) : Except ChannelError Unit × EditorTerminal :=
  if terminal.held.isEmpty then (.ok (), terminal)
  else ({ terminal with held := #[] } : EditorTerminal).display terminal.held.toList

/-- Keeps a character back; a newline sends everything kept back. -/
def writeChar (terminal : EditorTerminal) (c : Char) : Except ChannelError Unit × EditorTerminal :=
  let terminal := { terminal with held := terminal.held ++ Utf8.encode c }
  if c = '\n' then terminal.flush else (.ok (), terminal)

abbrev interruptKey : UInt8 := 3

/-- The key that ends input on an empty line. -/
abbrev endKey : UInt8 := 4

abbrev enterKey : UInt8 := 13

def isTyped (key : UInt8) : Bool := 32 ≤ key && key < 127

/-- Sends the queue and forgets it, whether or not the sink takes it. -/
def sendEcho (terminal : EditorTerminal) : EditorTerminal :=
  { terminal.sendQueue.2 with queue := #[] }

/-- Adds a typed character to the line and shows it. A full line takes no more. -/
def typeKey (terminal : EditorTerminal) (key : UInt8) : EditorTerminal :=
  if terminal.line.size < lineLimit then
    ({ terminal with line := terminal.line.push key } : EditorTerminal).echo key
  else terminal

/-- Ends the line being typed. -/
def enter (terminal : EditorTerminal) : EditorTerminal :=
  { terminal.enqueue lineEnd with line := #[], column := 0, row := 0 }

/-- What handling fetched keys comes to. -/
inductive Progress where
  /-- Enter ended the line, and these keys come after it. -/
  | entered (line rest : List UInt8)
  | ended
  | typing

/-- Handles keys up to one that ends the line or the input. Nothing is sent. -/
def handle (terminal : EditorTerminal) : List UInt8 → Progress × EditorTerminal
  | [] => (.typing, terminal)
  | key :: rest =>
    if key = interruptKey ∨ (key = endKey ∧ terminal.line.isEmpty) then (.ended, terminal)
    else if key = enterKey then (.entered terminal.line.toList rest, terminal.enter)
    else if isTyped key then handle (terminal.typeKey key) rest
    else handle terminal rest

/-- The error when there are no more keys. -/
def lastError (terminal : EditorTerminal) : ChannelError :=
  match terminal.readFailure with
  | some reason => .failure reason
  | none => .endOfInput

abbrev fetchSize : Nat := 256

/-- Handles the fetched keys, then fetches others, until Enter. What was fetched when a key
    ends input stays fetched, and what it shows stays in the queue. -/
def edit (terminal : EditorTerminal) (fetched keys : List UInt8) :
    Except ChannelError (List UInt8) × EditorTerminal :=
  match terminal.handle fetched with
  | (.ended, terminal) => (.error .endOfInput, { terminal with fetched, keys })
  | (.entered line rest, terminal) =>
    (.ok line, { terminal.sendEcho with fetched := rest, keys })
  | (.typing, terminal) =>
    match keys with
    | [] => (.error terminal.lastError, { terminal.sendEcho with fetched := [], keys := [] })
    | key :: rest =>
      edit terminal.sendEcho (key :: rest.take (fetchSize - 1)) (rest.drop (fetchSize - 1))
termination_by keys.length

/-- Sends what is in the queue if no line is being typed. -/
def settle (terminal : EditorTerminal) : EditorTerminal :=
  if terminal.column = 0 ∧ terminal.row = 0 then terminal.sendEcho else terminal

/-- Sends the output kept back, then handles keys until Enter. -/
def readLine (terminal : EditorTerminal) : Except ChannelError (List UInt8) × EditorTerminal :=
  match terminal.flush with
  | (.error error, terminal) => (.error error, terminal)
  | (.ok _, terminal) =>
    match terminal.settle.edit terminal.fetched terminal.keys with
    | (.error error, terminal) => (.error error, terminal)
    | (.ok line, terminal) => (.ok (line ++ [newline]), terminal)

/-- Gives the terminal back, sending the output kept back the first time. -/
def release (terminal : EditorTerminal) : EditorTerminal :=
  if terminal.released then terminal else { terminal.flush.2 with released := true }

/-- The bytes that reached the sink, and the terminal without them. -/
def drain (terminal : EditorTerminal) : Array UInt8 × EditorTerminal :=
  (terminal.sink.received, { terminal with sink := terminal.sink.drain.2 })

instance : Channel EditorTerminal where
  writeChar := writeChar
  readLine := readLine
  flush := flush

end EditorTerminal

end WordMachine
