import Mathlib.Control.Monad.Basic
import WordMachine.Terminal.Channel
import WordMachine.Text.Utf8

/-!
Calls of a channel. What each of some calls is answered makes up a history (`Channel.history`), and
often only the answers to the reads matter (`Channel.perform`). A channel that stands for another
one under each call does so under any calls (`perform_map`), and a channel that never refuses a
character takes any text (`Accepting.accepts`).
-/

namespace WordMachine

theorem Utf8.charOfCode_toNat (c : Char) : charOfCode c.toNat = c := by
  have valid : 0 ≤ (c.toNat : Int) ∧ ((c.toNat : Int).toNat).isValidChar :=
    ⟨Int.natCast_nonneg _, c.valid⟩
  rw [charOfCode, if_pos valid, Int.toNat_natCast, Char.ofNat_toNat]

/-- A call of a channel. A character to write is given by its code. -/
inductive ChannelCall where
  | write (code : Int)
  | read
  | flush
deriving DecidableEq, Repr

namespace ChannelCall

/-- The call that writes a character. -/
def put (c : Char) : ChannelCall := write c.toNat

/-- The bytes that a call is to add to the output. -/
def bytes : ChannelCall → List UInt8
  | write code => Utf8.encode (Utf8.charOfCode code)
  | read | flush => []

theorem count_write (code : Int) (calls : List ChannelCall) :
    (write code :: calls).count read = calls.count read :=
  List.count_cons_of_ne (by simp)

theorem count_flush (calls : List ChannelCall) : (flush :: calls).count read = calls.count read :=
  List.count_cons_of_ne (by simp)

end ChannelCall

/-- A call of a channel, and its answer. -/
inductive Exchange where
  | write (code : Int) (answer : Except ChannelError Unit)
  | read (answer : Except ChannelError (List UInt8))
  | flush (answer : Except ChannelError Unit)

/-- The answer to a read. -/
def Exchange.line? : Exchange → Option (Except ChannelError (List UInt8))
  | read answer => some answer
  | write _ _ | flush _ => none

/-- Why the call was refused, if it was. -/
def Exchange.error? : Exchange → Option ChannelError
  | write _ (.error error) | read (.error error) | flush (.error error) => some error
  | write _ (.ok _) | read (.ok _) | flush (.ok _) => none

namespace Channel

variable {τ : Type} [Channel τ]

/-- Carries out a call. -/
def exchange (channel : τ) : ChannelCall → Exchange × τ
  | .write code =>
    let (answer, channel) := writeChar channel (Utf8.charOfCode code)
    (.write code answer, channel)
  | .read =>
    let (answer, channel) := readLine channel
    (.read answer, channel)
  | .flush =>
    let (answer, channel) := flush channel
    (.flush answer, channel)

/-- Carries out calls in turn. -/
def history : List ChannelCall → τ → List Exchange × τ
  | [], channel => ([], channel)
  | call :: calls, channel =>
    let (first, channel) := exchange channel call
    let (rest, channel) := history calls channel
    (first :: rest, channel)

/-- The answers to the reads among some calls, and the channel after all the calls. -/
def perform (calls : List ChannelCall) (channel : τ) :
    List (Except ChannelError (List UInt8)) × τ :=
  ((history calls channel).1.filterMap Exchange.line?, (history calls channel).2)

theorem perform_put (c : Char) (calls : List ChannelCall) (channel : τ) :
    perform (.put c :: calls) channel = perform calls (writeChar channel c).2 := by
  have written : exchange channel (.put c) =
      (.write c.toNat (writeChar channel c).1, (writeChar channel c).2) := by
    rw [ChannelCall.put, exchange, Utf8.charOfCode_toNat]
  rw [perform, history, written]
  rfl

theorem perform_read {channel after : τ} {answer : Except ChannelError (List UInt8)}
    (read : readLine channel = (answer, after)) (calls : List ChannelCall) :
    perform (.read :: calls) channel =
      (answer :: (perform calls after).1, (perform calls after).2) := by
  rw [perform, history, exchange, read]
  rfl

theorem history_append (first second : List ChannelCall) (channel : τ) :
    history (first ++ second) channel =
      ((history first channel).1 ++ (history second (history first channel).2).1,
        (history second (history first channel).2).2) := by
  induction first generalizing channel with
  | nil => rfl
  | cons call calls ih => simp only [List.cons_append, history, ih]

theorem perform_append (first second : List ChannelCall) (channel : τ) :
    perform (first ++ second) channel =
      ((perform first channel).1 ++ (perform second (perform first channel).2).1,
        (perform second (perform first channel).2).2) := by
  simp only [perform, history_append, List.filterMap_append]

/-- A channel that stands for another one under each call does so under any calls. -/
theorem perform_map {σ : Type} [Channel σ] (f : σ → τ)
    (stands : ∀ channel call, exchange (f channel) call =
      ((exchange channel call).1, f (exchange channel call).2))
    (calls : List ChannelCall) (channel : σ) :
    perform calls (f channel) = ((perform calls channel).1, f (perform calls channel).2) := by
  have same : history calls (f channel) =
      ((history calls channel).1, f (history calls channel).2) := by
    induction calls generalizing channel with
    | nil => rfl
    | cons call calls ih => simp only [history, stands, ih]
  simp only [perform, same]

theorem perform_puts (text : List Char) (channel : τ) :
    (perform (text.map .put) channel).1 = [] := by
  induction text generalizing channel with
  | nil => rfl
  | cons c rest ih =>
    rw [List.map_cons, perform_put]
    exact ih (writeChar channel c).2

/-! ## Channels that take characters -/

/-- The characters are taken one after the other. -/
def Accepts : List Char → τ → Prop
  | [], _ => True
  | c :: rest, channel => (writeChar channel c).1 = .ok () ∧ Accepts rest (writeChar channel c).2

instance Accepts.decidable : (text : List Char) → (channel : τ) → Decidable (Accepts text channel)
  | [], _ => .isTrue trivial
  | c :: rest, channel =>
    have := Accepts.decidable rest (writeChar channel c).2
    inferInstanceAs (Decidable (_ ∧ _))

/-- No character is ever refused, whatever is called before. -/
def Accepting (channel : τ) : Prop :=
  ∀ calls c, (writeChar (perform calls channel).2 c).1 = .ok ()

theorem Accepting.after {channel : τ} (accepting : Accepting channel) (calls : List ChannelCall) :
    Accepting (perform calls channel).2 := by
  intro more c
  have accepted := accepting (calls ++ more) c
  rwa [perform_append] at accepted

theorem Accepting.accepts {channel : τ} (accepting : Accepting channel) (text : List Char) :
    Accepts text channel := by
  induction text generalizing channel with
  | nil => exact trivial
  | cons c rest ih =>
    have later := accepting.after [.put c]
    rw [perform_put] at later
    exact ⟨accepting [] c, ih later⟩

theorem accepts_append (first second : List Char) (channel : τ) :
    Accepts (first ++ second) channel ↔
      Accepts first channel ∧ Accepts second (perform (first.map .put) channel).2 := by
  induction first generalizing channel with
  | nil => exact (iff_of_eq (true_and _)).symm
  | cons c rest ih =>
    rw [List.map_cons, perform_put]
    exact (and_congr_right fun _ => ih (writeChar channel c).2).trans and_assoc.symm

end Channel

end WordMachine
