/-
# ControlLink.Wire.Command — frames from the host

A command is a code byte and its arguments, at most nine bytes in all. Reading takes a command
from the front of a frame and ignores what follows it: `Command.decode` gives back what
`Command.encode` wrote, with any bytes behind it.
-/
import ControlLink.Wire.Error

namespace ControlLink.Wire

set_option autoImplicit false

/-- A number of blocks that fits one transfer. -/
structure BlockCount where
  val : Nat
  le_limit : val ≤ blockLimit
deriving DecidableEq

namespace BlockCount

def ofNat (count : Nat) : Except WireError BlockCount :=
  if h : count ≤ blockLimit then .ok ⟨count, h⟩ else .error (.blockCountOutOfRange count)

/-- The blocks it takes to hold `length` bytes. -/
def forLength (length : Nat) : Except WireError BlockCount :=
  ofNat (Bytes.pieceCount blockSize length)

/-- The bytes those blocks cover. -/
def byteLength (count : BlockCount) : Nat := count.val * blockSize

def toByte (count : BlockCount) : UInt8 := UInt8.ofNat count.val

theorem toNat_toByte (count : BlockCount) : count.toByte.toNat = count.val := by
  have bound := count.le_limit
  simp only [blockLimit] at bound
  simp only [toByte, UInt8.toNat_ofNat']
  omega

@[simp] theorem ofNat_val (count : BlockCount) : ofNat count.val = .ok count := by
  simp [ofNat, count.le_limit]

end BlockCount

/-- The ten kinds of frames a host sends. -/
inductive CommandKind where
  | getState
  | readConfig
  | writeConfig
  | commitConfig
  | setKeepAwake
  | reboot
  | updateStart
  | updateData
  | updateAbort
  | updateStatus
deriving DecidableEq

namespace CommandKind

def all : List CommandKind :=
  [getState, readConfig, writeConfig, commitConfig, setKeepAwake, reboot, updateStart, updateData,
    updateAbort, updateStatus]

/-- The first byte of a frame of this kind. -/
def code : CommandKind → UInt8
  | getState => 's'.toUInt8
  | readConfig => 'r'.toUInt8
  | writeConfig => 'w'.toUInt8
  | commitConfig => 'c'.toUInt8
  | setKeepAwake => 'k'.toUInt8
  | reboot => 'b'.toUInt8
  | updateStart => 'O'.toUInt8
  | updateData => 'D'.toUInt8
  | updateAbort => 'A'.toUInt8
  | updateStatus => 'P'.toUInt8

/-- The short name in logs and metric labels. -/
def name : CommandKind → String
  | getState => "get_state"
  | readConfig => "read_config"
  | writeConfig => "write_config"
  | commitConfig => "commit_config"
  | setKeepAwake => "set_keep_awake"
  | reboot => "reboot"
  | updateStart => "ota_start"
  | updateData => "ota_data"
  | updateAbort => "ota_abort"
  | updateStatus => "ota_status"

/-- The length of a frame of this kind. -/
def frameLength : CommandKind → Nat
  | writeConfig | setKeepAwake => 2
  | updateStart => 9
  | updateData => 4
  | _ => 1

def ofCode? (code : UInt8) : Option CommandKind := all.find? (·.code == code)

@[simp] theorem ofCode?_code (kind : CommandKind) : ofCode? kind.code = some kind := by
  cases kind <;> rfl

end CommandKind

inductive Command where
  | getState
  | readConfig
  /-- The device reads so many blocks next. -/
  | writeConfig (blocks : BlockCount)
  | commitConfig
  | setKeepAwake (enabled : Bool)
  | reboot
  | updateStart (size checksum : UInt32)
  /-- So many packets follow and carry `length` bytes of the image. -/
  | updateData (packets : BlockCount) (length : UInt16)
  | updateAbort
  | updateStatus
deriving DecidableEq

namespace Command

def kind : Command → CommandKind
  | getState => .getState
  | readConfig => .readConfig
  | writeConfig _ => .writeConfig
  | commitConfig => .commitConfig
  | setKeepAwake _ => .setKeepAwake
  | reboot => .reboot
  | updateStart _ _ => .updateStart
  | updateData _ _ => .updateData
  | updateAbort => .updateAbort
  | updateStatus => .updateStatus

/-- The bytes after the code. -/
def arguments : Command → Bytes
  | writeConfig blocks => [blocks.toByte]
  | setKeepAwake enabled => [if enabled then 1 else 0]
  | updateStart size checksum =>
    Bytes.littleEndian 4 size.toNat ++ Bytes.littleEndian 4 checksum.toNat
  | updateData packets length => packets.toByte :: Bytes.littleEndian 2 length.toNat
  | _ => []

def encode (command : Command) : Bytes := command.kind.code :: command.arguments

/-- Reads the arguments of a command whose frame is long enough. -/
def ofArguments (kind : CommandKind) (arguments : Bytes) : Except WireError Command :=
  match kind, arguments with
  | .getState, _ => .ok getState
  | .readConfig, _ => .ok readConfig
  | .commitConfig, _ => .ok commitConfig
  | .reboot, _ => .ok reboot
  | .updateAbort, _ => .ok updateAbort
  | .updateStatus, _ => .ok updateStatus
  | .writeConfig, count :: _ => (BlockCount.ofNat count.toNat).map writeConfig
  | .setKeepAwake, enabled :: _ => .ok (setKeepAwake (enabled != 0))
  | .updateStart, s0 :: s1 :: s2 :: s3 :: c0 :: c1 :: c2 :: c3 :: _ =>
    .ok (updateStart (UInt32.ofNat (Bytes.toNat [s0, s1, s2, s3]))
      (UInt32.ofNat (Bytes.toNat [c0, c1, c2, c3])))
  | .updateData, count :: l0 :: l1 :: _ =>
    (BlockCount.ofNat count.toNat).map fun packets =>
      updateData packets (UInt16.ofNat (Bytes.toNat [l0, l1]))
  | kind, arguments => .error (.frameTooShort kind.frameLength (arguments.length + 1))

/-- Reads a command from the front of a frame, as the device does. -/
def decode : Bytes → Except WireError Command
  | [] => .error (.frameTooShort 1 0)
  | code :: arguments =>
    match CommandKind.ofCode? code with
    | some kind => ofArguments kind arguments
    | none => .error (.invalidData (.unknownCommand code))

theorem length_encode (command : Command) : command.encode.length = command.kind.frameLength := by
  cases command <;> simp [encode, arguments, kind, CommandKind.frameLength]

end Command

end ControlLink.Wire
