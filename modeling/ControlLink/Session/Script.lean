/-
# ControlLink.Session.Script — a transport that follows a script

A script gives what successive receives produce and what becomes of given attempts to send. Any
other frame is sent at once. A script that is at its end is a closed connection.
-/
import ControlLink.Bridge.Link
import ControlLink.Session.Channel

namespace ControlLink.Session

set_option autoImplicit false

structure Script where
  device : String := "device"
  /-- What the receives to come produce. -/
  incoming : List (Delivery Bytes)
  /-- What becomes of attempts to send, by their numbers. -/
  faults : List (Nat × Delivery Unit) := []
  /-- How many attempts to send there were. -/
  attempts : Nat := 0

namespace Script

/-- A delivery of a frame that may not be longer than a limit. -/
def fitting (limit : Nat) (delivery : Delivery Bytes) : Delivery Bytes :=
  match delivery.result with
  | .ok frame =>
    if limit < frame.length then
      { delivery with result := .error (.frameTooLong limit frame.length) }
    else delivery
  | .error _ => delivery

instance : Transport Script where
  describe script := script.device
  send script _ :=
    ((script.faults.lookup script.attempts).getD ⟨some 0, .ok ()⟩,
      { script with attempts := script.attempts + 1 })
  receive script limit :=
    match script.incoming with
    | [] => (⟨some 0, .error .closed⟩, script)
    | delivery :: incoming => (fitting limit delivery, { script with incoming })

end Script

/-- A bridge connection answers at once. -/
instance : Transport Bridge.Link where
  send link frame :=
    let (result, link) := link.send frame
    (⟨some 0, result⟩, link)
  receive link limit :=
    let (result, link) := link.receive limit
    (⟨some 0, result⟩, link)

end ControlLink.Session
