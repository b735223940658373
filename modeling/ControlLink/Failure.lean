/-
# ControlLink.Failure — how an operation fails

Every operation fails with one `Failure`, of one of four kinds: the channel is lost, the frames make
no sense, the device refuses, or a local check fails before anything is sent. The causes of the
last are `RequestError`s; a device that refuses is never taken for frames that make no sense
(`Failure.ofWire`).
-/
import ControlLink.Bridge.Codec
import ControlLink.Config.Field
import ControlLink.Device.Version
import ControlLink.Json.Parser
import ControlLink.Yaml.Fault

namespace ControlLink

set_option autoImplicit false

open Config Wire

/-! ## Files -/

/-- Why a file could not be read, understood or written. -/
inductive FileFault where
  | notFound
  | isDirectory
  | notDirectory
  | nameTooLong
  | nulInName
  | notText
  | json (error : Json.ParseError)
  | yaml (fault : Yaml.Fault)
  | notMapping
  /-- The document of the file does not describe settings. -/
  | notSettings (error : ShapeError)
  /-- A reason that the system gives in words. -/
  | system (reason : String)

/-- What is said of a document that could not be decoded. -/
def documentMessage (reason : String) : String :=
  s!"protocol error: config document could not be decoded: {reason}"

def FileFault.message : FileFault → String
  | notFound => "No such file or directory (os error 2)"
  | isDirectory => "Is a directory (os error 21)"
  | notDirectory => "Not a directory (os error 20)"
  | nameTooLong => "File name too long (os error 36)"
  | nulInName => "file name contained an unexpected NUL byte"
  | notText => "stream did not contain valid UTF-8"
  | json error => error.message
  | yaml fault => fault.message
  | notMapping => "top level must be a mapping"
  | notSettings error => documentMessage error.message
  | system reason => reason

/-! ## Requests -/

/-- Why the value of a setting is refused. -/
inductive ValueFault where
  | missingPrefixLength (text : String)
  | notAddress (text : String)
  | notPrefixLength (text : String)
  | tooMany (count limit : Nat)
deriving DecidableEq

def ValueFault.message : ValueFault → String
  | missingPrefixLength text => s!"`{text}` is missing a prefix length"
  | notAddress text => s!"`{text}` is not an IPv4 address"
  | notPrefixLength text => s!"`{text}` is not a valid prefix length"
  | tooMany count limit => s!"{count} entries given, at most {limit} allowed"

/-- Why a request is refused before anything is sent. -/
inductive RequestError where
  | configTooLarge (size max : Nat)
  | unrepresentableByte (byte : UInt8) (offset : Nat)
  | invalidArgument (error : WireError)
  | missingField (field : Field)
  | fieldTooLong (field : Field) (max actual : Nat)
  | invalidField (field : Field) (fault : ValueFault)
  /-- The firmware is too old to have a configuration. -/
  | unsupportedFirmware (version required : Device.Version)
  | file (path : String) (fault : FileFault)

namespace RequestError

/-- The error of a local check of a payload. -/
def ofWire : WireError → RequestError
  | .payloadTooLarge max actual => configTooLarge actual max
  | .unrepresentableByte byte offset => unrepresentableByte byte offset
  | error => invalidArgument error

def message : RequestError → String
  | configTooLarge size max => s!"configuration too large: {size} bytes (maximum {max})"
  | unrepresentableByte byte offset =>
    s!"payload contains byte {Text.Hex.byte byte} at offset {offset}, which cannot be transferred"
  | invalidArgument error => s!"invalid argument: {error.message}"
  | missingField field => s!"missing required field `{field.key}`"
  | fieldTooLong field max actual => s!"field `{field.key}` is {actual} bytes long (maximum {max})"
  | invalidField field fault => s!"field `{field.key}` is invalid: {fault.message}"
  | unsupportedFirmware version required =>
    s!"firmware {version.display} does not support configuration " ++
      s!"(requires {required.display} or later)"
  | file path fault => s!"{path}: {fault.message}"

end RequestError

/-! ## Failures -/

/-- Why a document is refused. -/
inductive DocumentError where
  | notJson (error : Json.ParseError)
  | notSettings (error : ShapeError)

def DocumentError.message : DocumentError → String
  | notJson error => error.message
  | notSettings error => error.message

/-- The four kinds of failures. -/
inductive FailureKind where
  | connectivity
  | protocol
  | device
  | validation
deriving DecidableEq

namespace FailureKind

def name : FailureKind → String
  | connectivity => "connectivity"
  | protocol => "protocol"
  | device => "device"
  | validation => "validation"

/-- The status with which a process ends that fails in this way. -/
def exitCode : FailureKind → UInt8
  | connectivity => 2
  | protocol => 3
  | device => 4
  | validation => 5

end FailureKind

inductive Failure where
  | connectivity (error : LinkError)
  | protocol (error : WireError)
  | document (error : DocumentError)
  | device (fault : Device.Fault)
  | validation (error : RequestError)

namespace Failure

/-- A fault of the device keeps its class, anything else on the wire breaks the protocol. -/
def ofWire : WireError → Failure
  | .device fault => device fault
  | error => protocol error

def kind : Failure → FailureKind
  | connectivity _ => .connectivity
  | protocol _ | document _ => .protocol
  | device _ => .device
  | validation _ => .validation

def message : Failure → String
  | connectivity error => s!"connectivity error: {error.message}"
  | protocol error => s!"protocol error: {error.message}"
  | document error => documentMessage error.message
  | device fault => s!"device error: {fault.message}"
  | validation error => s!"validation error: {error.message}"

end Failure

end ControlLink
