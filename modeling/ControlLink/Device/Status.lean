/-
# ControlLink.Device.Status — the running state of a device

The state record is thirteen bytes: version, feature bits, address with its prefix length, three
flags and the model. A flag is set by any byte but zero; four zero octets mean that no address is
assigned, whatever the prefix length says.
-/
import ControlLink.Bytes
import ControlLink.Device.Version

namespace ControlLink.Device

set_option autoImplicit false

/-! ## Features -/

/-- A hardware capability with a bit of its own. -/
inductive Feature where
  | led
  | smartLed
  | graphics
  | clipboard
deriving DecidableEq

namespace Feature

def mask : Feature → UInt8
  | led => 0x01
  | smartLed => 0x02
  | graphics => 0x04
  | clipboard => 0x80

def name : Feature → String
  | led => "LED"
  | smartLed => "SmartLED"
  | graphics => "Graphics"
  | clipboard => "Clipboard"

/-- All features in the order of their bits. -/
def all : List Feature := [led, smartLed, graphics, clipboard]

end Feature

/-- A set of features as a bit mask; bits that mean no feature are clear. -/
structure Features where
  bits : UInt8
deriving DecidableEq

namespace Features

/-- The bits that mean a feature. -/
def known : UInt8 := Feature.all.foldl (fun bits feature => bits ||| feature.mask) 0

/-- The features in a reported mask; reserved bits are dropped. -/
def ofBits (bits : UInt8) : Features := ⟨bits &&& known⟩

def contains (features other : Features) : Bool := features.bits &&& other.bits == other.bits

def union (features other : Features) : Features := ⟨features.bits ||| other.bits⟩

def isEmpty (features : Features) : Bool := features.bits == 0

def toList (features : Features) : List Feature :=
  Feature.all.filter fun feature => features.contains ⟨feature.mask⟩

def names (features : Features) : List String := features.toList.map Feature.name

def display (features : Features) : String :=
  if features.isEmpty then "none" else ", ".intercalate features.names

end Features

/-! ## Model -/

/-- A hardware model by its number. -/
structure Model where
  id : UInt8
deriving DecidableEq

namespace Model

/-- The models that have a name. -/
def table : List (UInt8 × String) :=
  [(0, "Generic"), (1, "M5Atom S3 Lite"), (2, "M5Atom S3"), (3, "M5Atom S3R"),
    (4, "DevKitC-1.0"), (5, "DevKitC-1.1"), (6, "XIAO ESP32S3"), (7, "ESP32-S3-ETH"),
    (255, "Generic ESP32-S3")]

def isKnown (model : Model) : Bool := table.any (·.1 == model.id)

def name (model : Model) : String :=
  match table.lookup model.id with
  | some name => name
  | none => s!"Unknown ({model.id.toNat})"

end Model

/-! ## Address -/

/-- An IPv4 address with the length of its network prefix. -/
structure Address where
  a : UInt8
  b : UInt8
  c : UInt8
  d : UInt8
  prefixLength : UInt8
deriving DecidableEq

namespace Address

def octets (address : Address) : Bytes := [address.a, address.b, address.c, address.d]

/-- Four zero octets mean that no address is assigned. -/
def ofOctets? (a b c d prefixLength : UInt8) : Option Address :=
  if a = 0 ∧ b = 0 ∧ c = 0 ∧ d = 0 then none else some ⟨a, b, c, d, prefixLength⟩

def display (address : Address) : String :=
  let quad := ".".intercalate (address.octets.map fun octet => toString octet.toNat)
  s!"{quad}/{address.prefixLength.toNat}"

end Address

/-! ## Status -/

structure Status where
  version : Version
  /-- The feature mask as reported, reserved bits included. -/
  featureBits : UInt8
  address : Option Address
  serverConnected : Bool
  active : Bool
  keepAwake : Bool
  model : Model
deriving DecidableEq

namespace Status

/-- The length of the state record. -/
def size : Nat := 13

def features (status : Status) : Features := .ofBits status.featureBits

def flag (set : Bool) : UInt8 := if set then 1 else 0

def encode (status : Status) : Bytes :=
  [status.version.major, status.version.minor, status.version.patch, status.featureBits] ++
    (match status.address with
      | some address => address.octets ++ [address.prefixLength]
      | none => [0, 0, 0, 0, 0]) ++
    [flag status.serverConnected, flag status.active, flag status.keepAwake, status.model.id]

/-- Reads the record from the front of a byte string; what follows it is ignored. -/
def decode? : Bytes → Option Status
  | major :: minor :: patch :: featureBits :: a :: b :: c :: d :: prefixLength ::
      server :: active :: awake :: model :: _ =>
    some {
      version := ⟨major, minor, patch⟩
      featureBits
      address := Address.ofOctets? a b c d prefixLength
      serverConnected := server != 0
      active := active != 0
      keepAwake := awake != 0
      model := ⟨model⟩ }
  | _ => none

def addressText (status : Status) : String :=
  match status.address with
  | some address => address.display
  | none => "Not assigned"

@[simp] theorem length_encode (status : Status) : status.encode.length = size := by
  obtain ⟨_, _, address, _, _, _, _⟩ := status
  cases address <;> rfl

end Status

end ControlLink.Device
