/-
# ControlLink.Session.Channel — a transport that can be closed

A channel carries out the actions of an operation on a transport, in a time of its own, and keeps
the history of what happened. Once it is closed it stays closed and never touches its transport
again: an action answers `closed`, and one under way when the channel closes is abandoned. Each
receive may be limited in time.
-/
import ControlLink.Session.Operation

namespace ControlLink.Session

set_option autoImplicit false

/-- What a transport does with a frame: after a delay it answers, or it never does. -/
structure Delivery (α : Type) where
  after : Option Nat
  result : Except LinkError α

/-- A duplex channel for frames to one device. -/
class Transport (σ : Type) where
  describe : σ → String := fun _ => "device"
  send : σ → Bytes → Delivery Unit × σ
  /-- Receives a frame of at most so many bytes. -/
  receive : σ → Nat → Delivery Bytes × σ

/-- What happens on a channel. -/
inductive Event where
  | sending (frame : Bytes)
  | sent (frame : Bytes)
  | receiving
  | received (frame : Bytes)
  | closed
  | noted (notice : Notice)

structure Channel (σ : Type) where
  transport : σ
  /-- How long a receive may take. -/
  timeout : Option Nat := none
  clock : Nat := 0
  closed : Bool := false
  /-- When the owner of the channel will report it closed. -/
  closeAt : Option Nat := none
  /-- What happened so far, the last first. -/
  history : List Event := []

namespace Channel

variable {σ α : Type}

def happen (channel : Channel σ) (event : Event) : Channel σ :=
  { channel with history := event :: channel.history }

/-- Closes the channel. -/
def close (channel : Channel σ) : Channel σ :=
  if channel.closed then channel else { channel with closed := true }.happen .closed

/-- Lets time pass up to a moment. -/
def advance (channel : Channel σ) (moment : Nat) : Channel σ :=
  { channel with clock := max channel.clock moment }

/-- How a wait ends. -/
inductive Wait where
  | over
  /-- The channel closed in the meantime. -/
  | interrupted
  /-- Nothing will ever happen. -/
  | endless
deriving DecidableEq

/-- Closes the channel at the moment when its owner reports it closed. -/
def closeOn (channel : Channel σ) (moment : Nat) : Channel σ :=
  { (channel.advance moment).close with closeAt := none }

/-- Waits for something that happens after a delay, or never. -/
def wait (channel : Channel σ) (delay : Option Nat) : Wait × Channel σ :=
  match delay, channel.closeAt with
  | some delay, some moment =>
    if moment ≤ channel.clock + delay then (.interrupted, channel.closeOn moment)
    else (.over, channel.advance (channel.clock + delay))
  | some delay, none => (.over, channel.advance (channel.clock + delay))
  | none, some moment => (.interrupted, channel.closeOn moment)
  | none, none => (.endless, channel)

/-- Keeps a delivery to a limit of time. -/
def limited (timeout : Option Nat) (delivery : Delivery α) : Delivery α :=
  match timeout, delivery.after with
  | none, _ => delivery
  | some limit, some delay => if delay ≤ limit then delivery else ⟨some limit, .error .timedOut⟩
  | some limit, none => ⟨some limit, .error .timedOut⟩

/-- Waits for a delivery. No answer if it never comes. -/
def await (channel : Channel σ) (delivery : Delivery α) (arrived : α → Event) :
    Option (Except LinkError α) × Channel σ :=
  match channel.wait delivery.after with
  | (.endless, channel) => (none, channel)
  | (.interrupted, channel) => (some (.error .closed), channel)
  | (.over, channel) =>
    match delivery.result with
    | .ok value => (some (.ok value), channel.happen (arrived value))
    | .error error => (some (.error error), channel)

variable [Transport σ]

def describe (channel : Channel σ) : String := Transport.describe channel.transport

def send (channel : Channel σ) (frame : Bytes) : Option (Except LinkError Unit) × Channel σ :=
  if channel.closed then (some (.error .closed), channel)
  else
    let (delivery, transport) := Transport.send channel.transport frame
    ({ channel with transport }.happen (.sending frame)).await delivery fun () => .sent frame

def receive (channel : Channel σ) : Option (Except LinkError Bytes) × Channel σ :=
  if channel.closed then (some (.error .closed), channel)
  else
    let (delivery, transport) := Transport.receive channel.transport frameLimit
    ({ channel with transport }.happen .receiving).await (limited channel.timeout delivery)
      .received

/-- Carries out one action. -/
def answer : (action : Action) → Channel σ → Option (Answer action) × Channel σ
  | .send frame, channel => channel.send frame
  | .receive, channel => channel.receive
  | .close, channel => (some (), channel.close)
  | .note notice, channel => (some (), channel.happen (.noted notice))

/-- Runs an operation to its end. No value if it never ends. -/
def run (channel : Channel σ) (procedure : Procedure α) : Option α × Channel σ :=
  procedure.run answer channel

end Channel

end ControlLink.Session
