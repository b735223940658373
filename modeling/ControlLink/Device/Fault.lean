/-
# ControlLink.Device.Fault — what a device reports when it refuses

An error frame carries one code byte, and after the code for a firmware update a second byte. A
byte outside the tables is kept as it came, so no fault loses its code: `UpdateFault.ofCode` and
`UpdateFault.code` are inverse on every byte.
-/
import ControlLink.Bytes
import ControlLink.Text.Hex

namespace ControlLink.Device

set_option autoImplicit false

/-- Why a firmware update failed. -/
inductive UpdateFault where
  | alreadyInProgress
  | notStarted
  | initFailed
  | writeFailed
  | checksumMismatch
  | flushFailed
  | invalidSize
  | partitionNotFound
  | unknown (code : UInt8)
deriving DecidableEq

namespace UpdateFault

def code : UpdateFault → UInt8
  | alreadyInProgress => 'a'.toUInt8
  | notStarted => 'n'.toUInt8
  | initFailed => 'i'.toUInt8
  | writeFailed => 'w'.toUInt8
  | checksumMismatch => 'c'.toUInt8
  | flushFailed => 'f'.toUInt8
  | invalidSize => 's'.toUInt8
  | partitionNotFound => 'p'.toUInt8
  | unknown code => code

/-- The faults that have a code of their own. -/
def named : List UpdateFault :=
  [alreadyInProgress, notStarted, initFailed, writeFailed, checksumMismatch, flushFailed,
    invalidSize, partitionNotFound]

def ofCode (code : UInt8) : UpdateFault :=
  (named.find? (·.code == code)).getD (unknown code)

def message : UpdateFault → String
  | alreadyInProgress => "already in progress"
  | notStarted => "not started"
  | initFailed => "init failed"
  | writeFailed => "write failed"
  | checksumMismatch => "CRC mismatch"
  | flushFailed => "flush failed"
  | invalidSize => "invalid size"
  | partitionNotFound => "partition not found"
  | unknown code => s!"unknown ({Text.Hex.byte code})"

theorem code_ofCode (code : UInt8) : (ofCode code).code = code := by
  simp only [ofCode]
  cases found : named.find? (·.code == code) with
  | none => rfl
  | some fault => simpa using List.find?_some found

end UpdateFault

/-- What an error frame says. -/
inductive Fault where
  | endpoint
  | timeout
  | invalidConfig
  | unknownCommand
  | update (fault : UpdateFault)
  | unrecognized (code : UInt8)
deriving DecidableEq

namespace Fault

/-- The code byte of every fault of a firmware update. -/
def updateCode : UInt8 := 'O'.toUInt8

def code : Fault → UInt8
  | endpoint => 'e'.toUInt8
  | timeout => 't'.toUInt8
  | invalidConfig => 'i'.toUInt8
  | unknownCommand => 'u'.toUInt8
  | update _ => updateCode
  | unrecognized code => code

/-- The bytes that follow the type byte of an error frame. -/
def encode : Fault → Bytes
  | update fault => [updateCode, fault.code]
  | fault => [fault.code]

/-- The faults told by their code byte alone. -/
def named : List Fault := [endpoint, timeout, invalidConfig, unknownCommand]

/-- The fault of a lone code byte. -/
def ofCode (code : UInt8) : Fault :=
  (named.find? (·.code == code)).getD (unrecognized code)

/-- Reads the bytes after the type byte. An update code without its second byte is unrecognized. -/
def decode? : Bytes → Option Fault
  | [] => none
  | [code] => some (ofCode code)
  | code :: sub :: _ =>
    some (if code = updateCode then update (.ofCode sub) else ofCode code)

/-- An ASCII character that leaves a mark on the page. -/
def isGraphic (code : UInt8) : Bool := 0x21 ≤ code && code ≤ 0x7E

def message : Fault → String
  | endpoint => "Endpoint error"
  | timeout => "Timeout"
  | invalidConfig => "Invalid configuration"
  | unknownCommand => "Unknown command"
  | update fault => s!"Firmware update failed: {fault.message}"
  | unrecognized code =>
    if isGraphic code then s!"Unknown error ({Char.ofNat code.toNat})"
    else s!"Unknown error ({Text.Hex.byte code})"

end Fault

end ControlLink.Device
