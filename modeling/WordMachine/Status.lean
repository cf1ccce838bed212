import WordMachine.Duration
import WordMachine.Machine.Run

/-!
# Run status

How long a run took, how many instructions it retired, and how fast that was.
-/

namespace WordMachine

/-- A run and its measurements. -/
structure RunStatus where
  runId : String
  program : String
  elapsed : Duration
  /-- The count of instructions when the run started. -/
  base : UInt64
  instructions : UInt64
  result : RunResult
  done : Bool

namespace RunStatus

/-- The number of instructions of the run, modulo 2^64. -/
def retired (status : RunStatus) : UInt64 :=
  status.instructions - status.base

/-- Millions of instructions per second; none if no time passed. -/
def mips (status : RunStatus) : Float :=
  if 0 < status.elapsed.nanoseconds then
    status.retired.toFloat / status.elapsed.seconds / 1e6
  else 0

/-- A quotient rounded to the nearest whole number, a half going to the even one. -/
def roundQuotient (numerator denominator : Nat) : Nat :=
  let quotient := numerator / denominator
  let twice := 2 * (numerator % denominator)
  if twice < denominator then quotient
  else if denominator < twice then quotient + 1
  else quotient + quotient % 2

/-- A finite number that is not negative, in hundredths. The bits of the number give a
    whole number and a power of two, so the rounding is exact. -/
def hundredths (bits : UInt64) : Nat :=
  let exponent := (bits >>> 52).toNat % 2048
  let mantissa := bits.toNat % 0x10000000000000 + (if exponent = 0 then 0 else 0x10000000000000)
  let shift := max exponent 1
  if 1075 ≤ shift then mantissa * Nat.pow 2 (shift - 1075) * 100
  else roundQuotient (mantissa * 100) (Nat.pow 2 (1075 - shift))

def twoPlaces (x : Float) : String :=
  let n := hundredths x.toBits
  toString (n / 100) ++ "." ++ Numeral.decimalPadded 2 (n % 100)

def state (status : RunStatus) : String :=
  if status.done then status.result.name else "running"

def text (status : RunStatus) : String :=
  "run " ++ status.runId ++ " (" ++ status.program ++ ") " ++ status.state ++ ": " ++
    toString status.retired.toNat ++ " instructions in " ++ status.elapsed.rounded.text ++ " (" ++
    twoPlaces status.mips ++ " MIPS)"

end RunStatus

end WordMachine
