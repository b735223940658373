/-
# ControlLink.Session.Schedule — callers that share a channel

Callers that start together take the channel one after another, in the order in which they came;
only closing the channel and refusing a request need no channel and take effect at once. The owner
of the channel may also report it closed after a delay; then the callers are done when they have
ended and the channel is closed.
-/
import ControlLink.Session.Channel

namespace ControlLink.Session

set_option autoImplicit false

/-- What a caller wants. -/
inductive Request (α : Type) where
  | operate (procedure : Procedure α)
  /-- Close the channel; the value depends on whether it was closed before. -/
  | close (value : Bool → α)

/-- A request, and when to report the channel closed after it started. -/
structure Call (α : Type) where
  request : Request α
  closeAfter : Option Nat := none

/-- A value with what happened until it was there. -/
structure Outcome (α : Type) where
  value : α
  events : List Event

namespace Channel

variable {σ α : Type}

/-- The events since the history was empty, and a channel with an empty history. -/
def flush (channel : Channel σ) : List Event × Channel σ :=
  (channel.history.reverse, { channel with history := [] })

def isClose : Call α → Bool
  | ⟨.close _, _⟩ => true
  | _ => false

variable [Transport σ]

/-- Serves one caller. -/
def serve (channel : Channel σ) : Request α → Option (Outcome α) × Channel σ
  | .operate procedure =>
    match channel.run procedure with
    | (some value, channel) =>
      let (events, channel) := channel.flush
      (some ⟨value, events⟩, channel)
    | (none, channel) => (none, channel)
  | .close value =>
    let (events, closed) := channel.close.flush
    (some ⟨value channel.closed, events⟩, closed)

/-- Serves callers in turn. -/
def serveAll (channel : Channel σ) : List (Request α) → Option (List (Outcome α)) × Channel σ
  | [] => (some [], channel)
  | request :: requests =>
    match channel.serve request with
    | (none, channel) => (none, channel)
    | (some outcome, channel) =>
      match channel.serveAll requests with
      | (none, channel) => (none, channel)
      | (some outcomes, channel) => (some (outcome :: outcomes), channel)

/-- The outcomes of the calls that close and of the others, in the order of the calls. -/
def interleave : List (Call α) → List (Outcome α) → List (Outcome α) → List (Outcome α)
  | [], _, _ => []
  | call :: calls, closing, operating =>
    if isClose call then
      match closing with
      | outcome :: closing => outcome :: interleave calls closing operating
      | [] => []
    else
      match operating with
      | outcome :: operating => outcome :: interleave calls closing operating
      | [] => []

/-- The first moment at which some call reports the channel closed, and the last. -/
def deadlines (calls : List (Call α)) : Option (Nat × Nat) :=
  calls.foldl (fun bounds call =>
    match call.closeAfter, bounds with
    | none, bounds => bounds
    | some delay, none => some (delay, delay)
    | some delay, some (first, last) => some (min first delay, max last delay)) none

/-- Serves calls that start together. -/
def together (channel : Channel σ) (calls : List (Call α)) :
    Option (List (Outcome α)) × Channel σ :=
  let start := channel.clock
  let bounds := deadlines calls
  let closeAt := bounds.map fun bounds => start + bounds.1
  let channel : Channel σ := { channel with closeAt }
  let (closing, others) := calls.partition isClose
  match channel.serveAll (closing.map Call.request) with
  | (none, channel) => (none, channel)
  | (some closing, channel) =>
    match channel.serveAll (others.map Call.request) with
    | (none, channel) => (none, channel)
    | (some operating, channel) =>
      let channel := match bounds with
        | some (_, last) => (channel.closeOn (start + last)).flush.2
        | none => channel
      (some (interleave calls closing operating), channel)

end Channel

end ControlLink.Session
