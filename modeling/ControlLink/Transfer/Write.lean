/-
# ControlLink.Transfer.Write — the host side of a configuration write

A write announces its blocks, hands them out one by one and then waits for the verdict of the
device. A step out of order is an error; a failed transfer stays failed.
-/
import ControlLink.Failure
import ControlLink.Wire.Block
import ControlLink.Wire.Response

namespace ControlLink.Transfer

set_option autoImplicit false

open Wire

/-- A step that does not belong into the phase of a transfer. -/
def outOfSequence (step : Step) (phase : Phase) : Failure :=
  .protocol (.invalidData (.outOfSequence step phase))

/-- A response of another kind than the one that is due. -/
def unexpected (expected : ResponseKind) (response : Response) : Failure :=
  .protocol (.unexpectedResponse expected (.known response.kind))

/-- The phase in which so many blocks are left, and the one after the last. -/
def awaiting (left : Nat) (done : Phase) : Phase :=
  if left = 0 then done else .awaitingBlocks left

structure WriteTransfer where
  blocks : List Block
  count : BlockCount
  /-- How many blocks have been handed out. -/
  handedOut : Nat := 0
  phase : Phase := .idle

namespace WriteTransfer

/-- A transfer of a payload that can be sent. -/
def ofPayload (payload : Bytes) : Except RequestError WriteTransfer :=
  match checkPayload payload with
  | .error error => .error (.ofWire error)
  | .ok count =>
    match splitBlocks payload with
    | .error error => .error (.ofWire error)
    | .ok blocks => .ok { blocks, count }

/-- The command that opens the transfer. -/
def start (transfer : WriteTransfer) : Except Failure Command × WriteTransfer :=
  if transfer.phase = .idle ∧ transfer.handedOut = 0 then
    (.ok (.writeConfig transfer.count),
      { transfer with phase := awaiting transfer.count.val .awaitingVerdict })
  else (.error (outOfSequence .start transfer.phase), transfer)

/-- The next block to send, or none if every block has been handed out. -/
def nextBlock (transfer : WriteTransfer) : Option Block × WriteTransfer :=
  match transfer.phase, transfer.blocks[transfer.handedOut]? with
  | .awaitingBlocks left, some block =>
    (some block, { transfer with
      handedOut := transfer.handedOut + 1
      phase := awaiting (left - 1) .awaitingVerdict })
  | _, _ => (none, transfer)

def fail (transfer : WriteTransfer) : WriteTransfer := { transfer with phase := .failed }

/-- What the answer to the last block says. -/
def verdict (frame : Bytes) : Except Failure Unit :=
  match Response.decode frame with
  | .ok .ok => .ok ()
  | .ok (.error fault) => .error (.device fault)
  | .ok response => .error (unexpected .ok response)
  | .error error => .error (.ofWire error)

/-- Takes the answer to the last block. -/
def finish (transfer : WriteTransfer) (frame : Bytes) : Except Failure Unit × WriteTransfer :=
  if transfer.phase = .awaitingVerdict then
    match verdict frame with
    | .ok () => (.ok (), { transfer with phase := .idle })
    | .error failure => (.error failure, transfer.fail)
  else (.error (outOfSequence .verdict transfer.phase), transfer.fail)

/-- The blocks that remain to be handed out, and the transfer after them. -/
def drain (transfer : WriteTransfer) : Nat → List Block × WriteTransfer
  | 0 => ([], transfer)
  | fuel + 1 =>
    match transfer.nextBlock with
    | (none, transfer) => ([], transfer)
    | (some block, transfer) =>
      let (blocks, transfer) := transfer.drain fuel
      (block :: blocks, transfer)

/-- Hands out every block that remains. -/
def rest (transfer : WriteTransfer) : List Block × WriteTransfer :=
  transfer.drain (transfer.blocks.length + 1)

end WriteTransfer

end ControlLink.Transfer
