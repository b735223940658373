/-
# ControlLink.Session.Operation — the exchanges of a session

An operation is a dialogue with a channel to one device: it sends frames, receives frames, closes
the channel and gives notices. The wire knows no request numbers, so an operation that gives up
while the device still owes it a frame must not leave the channel open: a receive that times out
closes it (`receive`).
-/
import ControlLink.Config.Payload
import ControlLink.Dialogue
import ControlLink.Firmware.Image
import ControlLink.Session.Notice
import ControlLink.Transfer.Read

namespace ControlLink.Session

set_option autoImplicit false

open Wire Metrics Transfer

/-- What an operation asks of its channel. -/
inductive Action where
  | send (frame : Bytes)
  | receive
  | close
  | note (notice : Notice)

/-- What the channel answers. -/
abbrev Answer : Action → Type
  | .send _ => Except LinkError Unit
  | .receive => Except LinkError Bytes
  | .close => Unit
  | .note _ => Unit

abbrev Procedure (α : Type) := Dialogue Answer α

/-- A procedure that may fail. -/
abbrev Operation (α : Type) := ExceptT Failure (Dialogue Answer) α

/-! ## Single steps -/

def note (notice : Notice) : Procedure Unit := Dialogue.perform (Action.note notice)

def log (entry : LogEntry) : Procedure Unit := note (.log entry)

/-- Adds to a counter with the label of the device and more behind it. -/
def count (labels : OperationLabels) (metric : Metric) (more : Labels) (amount : Nat) :
    Procedure Unit :=
  note (.sample ⟨metric, ("device", labels.device) :: more, .increment amount⟩)

def attempt {α : Type} (result : Except Failure α) : Operation α := ExceptT.mk (pure result)

/-- Sends one frame. -/
def send (labels : OperationLabels) (frame : Bytes) : Operation Unit := ExceptT.mk do
  match ← Dialogue.perform (Action.send frame) with
  | .ok () =>
    count labels .framesSent [] 1
    count labels .bytesSent [] frame.length
    return .ok ()
  | .error error => return .error (.connectivity error)

/-- Receives one frame. A timeout closes the channel, since the frame may still come. -/
def receive (labels : OperationLabels) : Operation Bytes := ExceptT.mk do
  match ← Dialogue.perform Action.receive with
  | .ok frame =>
    count labels .framesReceived [] 1
    count labels .bytesReceived [] frame.length
    return .ok frame
  | .error .timedOut =>
    log .receiveTimedOut
    let () ← Dialogue.perform Action.close
    return .error (.connectivity .timedOut)
  | .error error => return .error (.connectivity error)

def sendCommand (labels : OperationLabels) (command : Command) : Operation Unit :=
  send labels command.encode

/-- Logs the fault of an error frame. -/
def logFault : Response → Procedure Unit
  | .error fault => log (.deviceError fault)
  | _ => pure ()

/-- Receives a frame and decodes it. -/
def receiveResponse (labels : OperationLabels) : Operation Response := do
  let frame ← receive labels
  let response ← attempt ((Response.decode frame).mapError .ofWire)
  ExceptT.lift (logFault response)
  return response

def exchange (labels : OperationLabels) (command : Command) : Operation Response := do
  sendCommand labels command
  receiveResponse labels

/-- Accepts only a plain acknowledgement. -/
def acknowledged : Response → Except Failure Unit
  | .ok => .ok ()
  | .error fault => .error (.device fault)
  | response => .error (unexpected .ok response)

def countBlocks (labels : OperationLabels) (direction : String) (blocks : Nat) : Operation Unit :=
  ExceptT.lift (count labels .blocksTransferred [("direction", direction)] blocks)

/-! ## Reading the configuration -/

/-- Receives so many blocks. -/
def receiveBlocks (labels : OperationLabels) : Nat → ReadTransfer → Operation ReadTransfer
  | 0, transfer => return transfer
  | left + 1, transfer => do
    let frame ← receive labels
    let (result, transfer) := transfer.block frame
    attempt result
    receiveBlocks labels left transfer

def readBlocks (labels : OperationLabels) : Operation Bytes := do
  let (command, transfer) := ReadTransfer.start {}
  sendCommand labels (← attempt command)
  let frame ← receive labels
  let (announced, transfer) := transfer.header frame
  let blocks ← attempt announced
  let transfer ← receiveBlocks labels blocks.val transfer
  countBlocks labels "read" blocks.val
  attempt transfer.finish

/-! ## Writing the configuration -/

def writeBlocks (labels : OperationLabels) (payload : Bytes) : Operation Unit := do
  let transfer ← attempt ((WriteTransfer.ofPayload payload).mapError .validation)
  let (command, transfer) := transfer.start
  sendCommand labels (← attempt command)
  let (blocks, transfer) := transfer.rest
  blocks.forM fun block => send labels block.bytes
  countBlocks labels "write" transfer.count.val
  let frame ← receive labels
  attempt (transfer.finish frame).1

/-! ## Updating the firmware -/

/-- Reports progress as a level and as a notice. -/
def report (labels : OperationLabels) (level : Decimal.Binary64) (progress : Progress) :
    Procedure Unit := do
  note (.sample ⟨.updateProgress, [("device", labels.device)], .level level⟩)
  note (.progress progress)

/-- Sends a chunk and takes the answer to it. -/
def sendChunk (labels : OperationLabels) (chunk : Firmware.Chunk) : Operation Response := do
  sendCommand labels (← attempt (chunk.header.mapError .ofWire))
  let packets ← attempt (chunk.packets.mapError .ofWire)
  packets.forM fun packet => send labels packet.bytes
  countBlocks labels "ota" packets.length
  receiveResponse labels

/-- Sends chunks until the device reports completion. -/
def sendChunks (labels : OperationLabels) (size : UInt32) : List Firmware.Chunk → Operation Unit
  | [] => attempt (.error (.protocol (.invalidData .noCompletion)))
  | chunk :: chunks => do
    match ← sendChunk labels chunk with
    | .progress received total =>
      let progress : Progress := ⟨received, total⟩
      ExceptT.lift (report labels progress.percent progress)
      sendChunks labels size chunks
    | .complete => ExceptT.lift (report labels (Decimal.Binary64.ofNat 100) ⟨size, size⟩)
    | .ok => sendChunks labels size chunks
    | .error fault => attempt (.error (.device fault))
    | response => attempt (.error (unexpected .progress response))

/-- Tells the device to abandon the update, unless the channel is what failed. The answer does not
matter. -/
def abort (labels : OperationLabels) : Failure → Procedure Unit
  | .connectivity _ => pure ()
  | failure => do
    log (.updateFailed failure)
    let _ ← (exchange labels .updateAbort).run
    return ()

def sendImage (labels : OperationLabels) (image : Firmware.Image) : Operation Unit := do
  let response ← exchange labels image.startCommand
  attempt (acknowledged response)
  ExceptT.mk do
    let result ← (sendChunks labels (UInt32.ofNat image.size) image.chunks).run
    match result with
    | .ok () => return result
    | .error failure =>
      abort labels failure
      return result

/-! ## Whole operations -/

/-- Runs an operation under its labels and records how it ended. -/
def recorded {α : Type} (device operation : String) (body : OperationLabels → Operation α) :
    Operation α := ExceptT.mk do
  let labels : OperationLabels := ⟨device, operation⟩
  let result ← (body labels).run
  note (.sample ⟨.operations, labels.toLabels, .increment 1⟩)
  note (.sample ⟨.operationDuration, labels.toLabels, .duration⟩)
  match result with
  | .ok _ => return result
  | .error failure =>
    let labels := labels.withMore [("kind", failure.kind.name)]
    note (.sample ⟨.operationErrors, labels, .increment 1⟩)
    return result

/-- An exchange that must be acknowledged. -/
def simple (device : String) (command : Command) : Operation Unit :=
  recorded device command.kind.name fun labels => do
    let response ← exchange labels command
    attempt (acknowledged response)

/-- Reads the running state of the device. -/
def getStatus (device : String) : Operation Device.Status :=
  recorded device "get_state" fun labels => do
    match ← exchange labels .getState with
    | .state status => return status
    | response => attempt (.error (unexpected .state response))

/-- Reads the stored configuration as the bytes of its payload. -/
def readPayload (device : String) : Operation Bytes := recorded device "read_config" readBlocks

/-- Reads the stored configuration. -/
def readConfig (device : String) : Operation Json := do
  let payload ← readPayload device
  attempt (Config.ofPayload payload)

/-- Stages the bytes of a payload as the new configuration. -/
def writePayload (device : String) (payload : Bytes) : Operation Unit :=
  recorded device "write_config" fun labels => writeBlocks labels payload

/-- Stages a configuration. One that does not fit is refused before the channel is taken. -/
def writeConfig (device : String) (document : Json) : Operation Unit :=
  match Config.toPayload document with
  | .ok payload => writePayload device payload
  | .error error => attempt (.error (.validation error))

/-- Makes the staged configuration the stored one. The device restarts. -/
def commitConfig (device : String) : Operation Unit := simple device .commitConfig

def setKeepAwake (device : String) (enabled : Bool) : Operation Unit :=
  simple device (.setKeepAwake enabled)

def reboot (device : String) : Operation Unit := simple device .reboot

/-- The progress of a firmware update, if one is running. -/
def updateStatus (device : String) : Operation (Option Progress) :=
  recorded device "ota_status" fun labels => do
    match ← exchange labels .updateStatus with
    | .progress received total => return some ⟨received, total⟩
    | .ok => return none
    | .error fault => attempt (.error (.device fault))
    | response => attempt (.error (unexpected .progress response))

def updateAbort (device : String) : Operation Unit := simple device .updateAbort

/-- Sends a firmware image. One that cannot be sent is refused before the channel is taken. -/
def flash (device : String) (data : Bytes) : Operation Unit :=
  match Firmware.Image.ofBytes data with
  | .ok image => recorded device "flash_firmware" fun labels => sendImage labels image
  | .error error => attempt (.error (.validation (.invalidArgument error)))

end ControlLink.Session
