/-
# ControlLink.Wire.Error — what can be wrong with a frame or a sequence of frames

`WireError` lists the causes and `WireError.message` words them. A response of an unexpected kind
is named by `ResponseType`, which also covers leading bytes that mean nothing; data that is well
framed and still wrong is an `Anomaly`.
-/
import ControlLink.Device.Fault

namespace ControlLink

set_option autoImplicit false

/-- The longest frame a transport carries. -/
def frameLimit : Nat := 64

/-- The length of a block of a configuration or of a packet of firmware. -/
def blockSize : Nat := 64

/-- The most blocks in one transfer. -/
def blockLimit : Nat := 64

/-- The longest payload of one transfer. -/
def payloadLimit : Nat := blockSize * blockLimit

namespace Wire

/-- The six kinds of frames a device sends. -/
inductive ResponseKind where
  | state
  | config
  | ok
  | error
  | progress
  | complete
deriving DecidableEq

namespace ResponseKind

def all : List ResponseKind := [state, config, ok, error, progress, complete]

/-- The first byte of a frame of this kind. -/
def code : ResponseKind → UInt8
  | state => 's'.toUInt8
  | config => 'r'.toUInt8
  | ok => 'o'.toUInt8
  | error => 'e'.toUInt8
  | progress => 'P'.toUInt8
  | complete => 'C'.toUInt8

def name : ResponseKind → String
  | state => "state"
  | config => "config"
  | ok => "ok"
  | error => "error"
  | progress => "progress"
  | complete => "complete"

end ResponseKind

/-- What the first byte of an inbound frame says. -/
inductive ResponseType where
  | known (kind : ResponseKind)
  | unknown (code : UInt8)
deriving DecidableEq

namespace ResponseType

def ofCode (code : UInt8) : ResponseType :=
  match ResponseKind.all.find? (·.code == code) with
  | some kind => known kind
  | none => unknown code

def name : ResponseType → String
  | known kind => kind.name
  | unknown code => s!"unknown ({Text.Hex.byte code})"

@[simp] theorem ofCode_code (kind : ResponseKind) : ofCode kind.code = known kind := by
  cases kind <;> rfl

end ResponseType

/-- How far a configuration transfer has come. -/
inductive Phase where
  /-- Nothing sent yet, or the transfer is complete. -/
  | idle
  /-- The read command is out and its header has not come. -/
  | awaitingHeader
  /-- So many blocks are still to be moved. -/
  | awaitingBlocks (left : Nat)
  /-- Every block is out and the verdict has not come. -/
  | awaitingVerdict
  | failed
deriving DecidableEq

def Phase.name : Phase → String
  | idle => "Idle"
  | awaitingHeader => "AwaitingHeader"
  | awaitingBlocks left => s!"AwaitingBlocks({left})"
  | awaitingVerdict => "AwaitingAck"
  | failed => "Failed"

/-- The steps of a configuration transfer. -/
inductive Step where
  | start
  | header
  | block
  | verdict
  | finish
deriving DecidableEq

def Step.name : Step → String
  | start => "start"
  | header => "header"
  | block => "block"
  | verdict => "acknowledgement"
  | finish => "finish"

/-- Data that is wrong though its frame is well formed. -/
inductive Anomaly where
  | unknownCommand (code : UInt8)
  | invalidVersion (text : String)
  | emptyImage
  | surplusBlock (number expected : Nat)
  | missingBlocks (received expected : Nat)
  | blockBeforeHeader
  | outOfSequence (step : Step) (phase : Phase)
  | noCompletion
  /-- A cause given in words. -/
  | described (text : String)
deriving DecidableEq

def Anomaly.message : Anomaly → String
  | unknownCommand code => s!"unknown command code: {Text.Hex.byte code}"
  | invalidVersion text => s!"invalid version: {text}"
  | emptyImage => "empty firmware image"
  | surplusBlock number expected => s!"unexpected block {number} of {expected}"
  | missingBlocks received expected => s!"incomplete transfer: {received} of {expected} blocks"
  | blockBeforeHeader => "block before header"
  | outOfSequence step phase => s!"{step.name} while transfer is {phase.name}"
  | noCompletion => "image sent but the device did not report completion"
  | described text => text

/-- Why a frame, a payload or a sequence of frames is refused. -/
inductive WireError where
  | frameTooShort (expected actual : Nat)
  | frameTooLong (max actual : Nat)
  | unknownResponse (code : UInt8)
  | unexpectedResponse (expected : ResponseKind) (actual : ResponseType)
  | blockCountOutOfRange (count : Nat)
  | payloadTooLarge (max actual : Nat)
  | unrepresentableByte (byte : UInt8) (offset : Nat)
  | invalidData (anomaly : Anomaly)
  | device (fault : Device.Fault)
deriving DecidableEq

def WireError.message : WireError → String
  | frameTooShort expected actual =>
    s!"frame too short: expected at least {expected} bytes, got {actual}"
  | frameTooLong max actual => s!"frame too long: maximum {max} bytes, got {actual}"
  | unknownResponse code => s!"unknown response type: {Text.Hex.byte code}"
  | unexpectedResponse expected actual =>
    s!"unexpected response: expected {expected.name}, got {actual.name}"
  | blockCountOutOfRange count => s!"block count {count} out of range (maximum {blockLimit})"
  | payloadTooLarge max actual => s!"payload too large: maximum {max} bytes, got {actual}"
  | unrepresentableByte byte offset =>
    s!"payload byte {Text.Hex.byte byte} at offset {offset} cannot be transferred"
  | invalidData anomaly => s!"invalid frame data: {anomaly.message}"
  | device fault => s!"device error: {fault.message}"

end Wire

end ControlLink
