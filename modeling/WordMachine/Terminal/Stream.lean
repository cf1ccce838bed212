import WordMachine.Terminal.Memory
import WordMachine.Terminal.Sink

/-!
# The terminal on streams

Output goes through a buffer that is sent to a sink at every newline, before every
read, and when a character might not fit. The first failure to send is kept and
answers every later call that would write. Input is a byte string read line by
line; a last line without a newline is given one.
-/

namespace WordMachine

/-- Unread input, what follows it, buffered output and the sink. -/
structure StreamTerminal where
  /-- The bytes not yet read. -/
  input : List UInt8
  /-- The error that follows the input, if it does not simply end. -/
  readFailure : Option String
  /-- Output not yet sent. -/
  buffer : Array UInt8
  sink : Sink
  /-- The first failure to send. -/
  broken : Option ChannelError
deriving DecidableEq, Repr

namespace StreamTerminal

abbrev capacity : Nat := 4096

def opened (input : List UInt8) (readFailure : Option String) (sink : Sink) : StreamTerminal :=
  ⟨input, readFailure, #[], sink, none⟩

/-- Sends the buffer. What the sink does not take stays in the buffer. -/
def flush (terminal : StreamTerminal) : Except ChannelError Unit × StreamTerminal :=
  match terminal with
  | ⟨input, readFailure, buffer, sink, broken⟩ =>
    match broken with
    | some error => (.error error, ⟨input, readFailure, buffer, sink, some error⟩)
    | none =>
      let taken := sink.accepts buffer.size
      match sink.write buffer with
      | (.ok _, sink) => (.ok (), ⟨input, readFailure, #[], sink, none⟩)
      | (.error error, sink) =>
        (.error error, ⟨input, readFailure, buffer.extract taken buffer.size, sink, some error⟩)

/-- The free space that a character of so many bytes asks for: one byte is checked
    exactly, a longer character as if it had four. -/
def demand (length : Nat) : Nat :=
  if length ≤ 1 then 1 else 4

/-- Puts the bytes of a character into the buffer, after sending it if space is short. -/
def put (terminal : StreamTerminal) (c : Char) : Except ChannelError Unit × StreamTerminal :=
  match terminal.broken with
  | some error => (.error error, terminal)
  | none =>
    let bytes := Utf8.encode c
    if capacity < terminal.buffer.size + demand bytes.length then
      match terminal.flush with
      | (.error error, terminal) => (.error error, terminal)
      | (.ok _, terminal) => (.ok (), { terminal with buffer := terminal.buffer ++ bytes })
    else (.ok (), { terminal with buffer := terminal.buffer ++ bytes })

/-- Writes a character; a newline sends the buffer. -/
def writeChar (terminal : StreamTerminal) (c : Char) : Except ChannelError Unit × StreamTerminal :=
  match terminal.put c with
  | (.error error, terminal) => (.error error, terminal)
  | (.ok _, terminal) => if c = '\n' then terminal.flush else (.ok (), terminal)

/-- The bytes before the first newline, and those from it on. -/
def splitLine (bytes : List UInt8) : List UInt8 × List UInt8 :=
  bytes.span (· ≠ newline)

/-- Takes the next line from the input. Bytes without a newline before a read failure
    are lost. -/
def takeLine (terminal : StreamTerminal) : Except ChannelError (List UInt8) × StreamTerminal :=
  match splitLine terminal.input, terminal.readFailure with
  | (line, _ :: rest), _ => (.ok (line ++ [newline]), { terminal with input := rest })
  | (_, []), some reason => (.error (.failure reason), { terminal with input := [] })
  | ([], []), none => (.error .endOfInput, { terminal with input := [] })
  | (line, []), none => (.ok (line ++ [newline]), { terminal with input := [] })

/-- Sends the buffer, then takes a line. -/
def readLine (terminal : StreamTerminal) : Except ChannelError (List UInt8) × StreamTerminal :=
  match terminal.flush with
  | (.error error, terminal) => (.error error, terminal)
  | (.ok _, terminal) => terminal.takeLine

/-- The bytes that reached the sink, and the terminal without them. -/
def drain (terminal : StreamTerminal) : Array UInt8 × StreamTerminal :=
  (terminal.sink.received, { terminal with sink := terminal.sink.drain.2 })

instance : Channel StreamTerminal where
  writeChar := writeChar
  readLine := readLine
  flush := flush

end StreamTerminal

end WordMachine
