/-!
# Character channels

A machine talks to the outside through a channel: it writes single characters and
reads whole lines. A channel is a state that each call may change, whether or not
the call succeeds.
-/

namespace WordMachine

/-- Why a channel refuses a call. -/
inductive ChannelError where
  /-- There is no more input. -/
  | endOfInput
  /-- Any other reason, in words. -/
  | failure (reason : String)
deriving DecidableEq, Repr

def ChannelError.message : ChannelError → String
  | .endOfInput => "EOF"
  | .failure reason => reason

/-- The calls of a channel. Each returns what came of it and the channel afterwards. -/
class Channel (τ : Type) where
  /-- Writes one character. -/
  writeChar : τ → Char → Except ChannelError Unit × τ
  /-- Reads one line with its newline. -/
  readLine : τ → Except ChannelError (List UInt8) × τ
  /-- Sends on what the channel has kept back. -/
  flush : τ → Except ChannelError Unit × τ

end WordMachine
