/-
# ControlLink.Transfer.Read — the host side of a configuration read

A read asks for the configuration, takes a header that announces the blocks, takes those blocks and
yields the payload inside them. A step out of order is an error; a failed transfer stays failed.
-/
import ControlLink.Transfer.Write

namespace ControlLink.Transfer

set_option autoImplicit false

open Wire

structure ReadTransfer where
  /-- The blocks received so far, once the header has come. -/
  assembler : Option Assembler := none
  phase : Phase := .idle

namespace ReadTransfer

/-- The command that opens the transfer. -/
def start (transfer : ReadTransfer) : Except Failure Command × ReadTransfer :=
  if transfer.phase = .idle ∧ transfer.assembler.isNone then
    (.ok .readConfig, { transfer with phase := .awaitingHeader })
  else (.error (outOfSequence .start transfer.phase), transfer)

def fail (transfer : ReadTransfer) : ReadTransfer := { transfer with phase := .failed }

/-- The number of blocks that a header announces. -/
def announced (frame : Bytes) : Except Failure BlockCount :=
  match Response.decode frame with
  | .ok (.config blocks) =>
    match BlockCount.ofNat blocks.toNat with
    | .ok count => .ok count
    | .error error => .error (.ofWire error)
  | .ok (.error fault) => .error (.device fault)
  | .ok response => .error (unexpected .config response)
  | .error error => .error (.ofWire error)

/-- Takes the answer to the command. -/
def header (transfer : ReadTransfer) (frame : Bytes) : Except Failure BlockCount × ReadTransfer :=
  if transfer.phase = .awaitingHeader then
    match announced frame with
    | .ok count =>
      (.ok count, { assembler := some { expected := count }, phase := awaiting count.val .idle })
    | .error failure => (.error failure, transfer.fail)
  else (.error (outOfSequence .header transfer.phase), transfer.fail)

/-- Puts a block behind those received before. -/
def pushed (assembler : Option Assembler) (frame : Bytes) : Except WireError Assembler :=
  match assembler with
  | some assembler => assembler.push frame
  | none => .error (.invalidData .blockBeforeHeader)

/-- Takes a block. -/
def block (transfer : ReadTransfer) (frame : Bytes) : Except Failure Unit × ReadTransfer :=
  match transfer.phase with
  | .awaitingBlocks left =>
    match pushed transfer.assembler frame with
    | .ok assembler =>
      (.ok (), { assembler := some assembler, phase := awaiting (left - 1) .idle })
    | .error error => (.error (.ofWire error), transfer.fail)
  | phase => (.error (outOfSequence .block phase), transfer.fail)

/-- The payload, once every block has come. -/
def finish (transfer : ReadTransfer) : Except Failure Bytes :=
  match transfer.phase, transfer.assembler with
  | .idle, some assembler =>
    match assembler.finish with
    | .ok payload => .ok payload
    | .error error => .error (.ofWire error)
  | phase, _ => .error (outOfSequence .finish phase)

end ReadTransfer

end ControlLink.Transfer
