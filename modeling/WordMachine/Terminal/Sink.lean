import WordMachine.Terminal.Channel

/-!
# Sinks

Where output bytes end up. A sink may have room for a limited number of bytes;
a write past that takes what fits and fails.
-/

namespace WordMachine

/-- The bytes that arrived, and the room left if it is limited. -/
structure Sink where
  received : Array UInt8
  room : Option Nat
deriving DecidableEq, Repr

namespace Sink

/-- A sink with no bytes and the given room. -/
def empty (room : Option Nat) : Sink := ⟨#[], room⟩

/-- The refusal of a sink without room. -/
def full : ChannelError := .failure "sink full"

/-- How many of `count` bytes the sink takes. -/
def accepts (sink : Sink) (count : Nat) : Nat :=
  match sink.room with
  | none => count
  | some room => min room count

/-- Writes bytes; the sink takes the first of them that fit. -/
def write (sink : Sink) (bytes : Array UInt8) : Except ChannelError Unit × Sink :=
  let taken := sink.accepts bytes.size
  let after : Sink := ⟨sink.received ++ bytes.extract 0 taken, sink.room.map (· - taken)⟩
  if taken < bytes.size then (.error full, after) else (.ok (), after)

/-- The bytes that arrived, and the sink with them taken away. -/
def drain (sink : Sink) : Array UInt8 × Sink :=
  (sink.received, { sink with received := #[] })

end Sink

end WordMachine
