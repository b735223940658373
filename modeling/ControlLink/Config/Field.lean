/-
# ControlLink.Config.Field — the settings a configuration may hold

Each setting has a key in the document and a shape that its value must have. Four of them are
required. A value that does not have the shape of its setting is described by a `ShapeError`.
-/
import ControlLink.Json.Printer
import ControlLink.Text.Quoted

namespace ControlLink.Config

set_option autoImplicit false

/-- A setting of the device. -/
inductive Field where
  | ssid
  | password
  | server
  | screenName
  | screenWidth
  | screenHeight
  | flipWheel
  | pollingRate
  | jiggleInterval
  | brightness
  | ipAddr
  | dnsServer
  | gateway
  | vid
  | pid
  | manufacturer
  | product
  | serialNumber
  | bleDeviceName
  | webusbUrl
deriving DecidableEq

/-- What the value of a setting looks like. An optional value may also be null. -/
inductive Shape where
  | requiredText
  | text
  /-- An integer of 16 bits. -/
  | word
  /-- An integer of 8 bits. -/
  | byte
  | flag
  /-- An array of strings, which may not be null. -/
  | texts
deriving DecidableEq

namespace Field

def all : List Field :=
  [ssid, password, server, screenName, screenWidth, screenHeight, flipWheel, pollingRate,
    jiggleInterval, brightness, ipAddr, dnsServer, gateway, vid, pid, manufacturer, product,
    serialNumber, bleDeviceName, webusbUrl]

/-- The key of the setting in a document. -/
def key : Field → String
  | ssid => "ssid"
  | password => "password"
  | server => "server"
  | screenName => "screen_name"
  | screenWidth => "screen_width"
  | screenHeight => "screen_height"
  | flipWheel => "flip_wheel"
  | pollingRate => "polling_rate"
  | jiggleInterval => "jiggle_interval"
  | brightness => "brightness"
  | ipAddr => "ip_addr"
  | dnsServer => "dns_server"
  | gateway => "gateway"
  | vid => "vid"
  | pid => "pid"
  | manufacturer => "manufacturer"
  | product => "product"
  | serialNumber => "serial_number"
  | bleDeviceName => "ble_device_name"
  | webusbUrl => "webusb_url"

def shape : Field → Shape
  | ssid | password | server | screenName => .requiredText
  | screenWidth | screenHeight | pollingRate | jiggleInterval | vid | pid => .word
  | brightness => .byte
  | flipWheel => .flag
  | dnsServer => .texts
  | ipAddr | gateway | manufacturer | product | serialNumber | bleDeviceName | webusbUrl => .text

/-- The setting of a key. -/
def ofKey? (key : String) : Option Field := all.find? (·.key == key)

theorem mem_all (field : Field) : field ∈ all := by cases field <;> decide

theorem key_of_ofKey? {key : String} {field : Field} (h : ofKey? key = some field) :
    field.key = key := by
  simpa using List.find?_some h

end Field

/-! ## Values that do not fit -/

/-- What was found in place of a value. -/
inductive Seen where
  | null
  | bool (value : Bool)
  | number (value : Json.Number)
  | string (text : String)
  | sequence
  | map

def Seen.of : Json → Seen
  | .null => null
  | .bool value => bool value
  | .number value => number value
  | .string text => string text
  | .array _ => sequence
  | .object _ => map

def Seen.describe : Seen → String
  | null => "null"
  | bool value => s!"boolean `{value}`"
  | number (.integer n fits) => s!"integer `{String.ofList (Json.Number.integer n fits).text}`"
  | number (.real x finite) => s!"floating point `{String.ofList (Json.Number.real x finite).text}`"
  | string text => s!"string {Text.quote text}"
  | sequence => "sequence"
  | map => "map"

/-- What was wanted. -/
inductive Wanted where
  | text
  | word
  | byte
  | flag
  | sequence
  | settings
deriving DecidableEq

def Wanted.describe : Wanted → String
  | text => "a string"
  | word => "u16"
  | byte => "u8"
  | flag => "a boolean"
  | sequence => "a sequence"
  | settings => "struct AppConfig"

/-- Why a document does not describe settings. -/
inductive ShapeError where
  | wrongType (seen : Seen) (wanted : Wanted)
  | outOfRange (value : Int) (wanted : Wanted)
  | missing (field : Field)

def ShapeError.message : ShapeError → String
  | wrongType seen wanted => s!"invalid type: {seen.describe}, expected {wanted.describe}"
  | outOfRange value wanted => s!"invalid value: integer `{value}`, expected {wanted.describe}"
  | missing field => s!"missing field `{field.key}`"

/-! ## Reading a value of a shape -/

def readText : Json → Except ShapeError String
  | .string text => .ok text
  | value => .error (.wrongType (.of value) .text)

/-- An integer from zero to `limit`. -/
def readNat (limit : Nat) (wanted : Wanted) : Json → Except ShapeError Nat
  | .number (.integer n _) =>
    if 0 ≤ n ∧ n ≤ limit then .ok n.toNat else .error (.outOfRange n wanted)
  | value => .error (.wrongType (.of value) wanted)

def readWord (value : Json) : Except ShapeError UInt16 :=
  (readNat 65535 .word value).map UInt16.ofNat

def readByte (value : Json) : Except ShapeError UInt8 :=
  (readNat 255 .byte value).map UInt8.ofNat

def readFlag : Json → Except ShapeError Bool
  | .bool value => .ok value
  | value => .error (.wrongType (.of value) .flag)

def readTexts : Json → Except ShapeError (List String)
  | .array items => items.mapM readText
  | value => .error (.wrongType (.of value) .sequence)

/-- Null stands for no value. -/
def optional {α : Type} (read : Json → Except ShapeError α) : Json → Except ShapeError (Option α)
  | .null => .ok none
  | value => (read value).map some

/-- Whether a value has a shape. -/
def Shape.check : Shape → Json → Except ShapeError Unit
  | requiredText, value => (readText value).map fun _ => ()
  | text, value => (optional readText value).map fun _ => ()
  | word, value => (optional readWord value).map fun _ => ()
  | byte, value => (optional readByte value).map fun _ => ()
  | flag, value => (optional readFlag value).map fun _ => ()
  | texts, value => (readTexts value).map fun _ => ()

end ControlLink.Config
