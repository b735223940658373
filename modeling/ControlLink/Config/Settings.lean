/-
# ControlLink.Config.Settings — typed settings and the documents that describe them

`Settings.ofDocument` reads settings from a document and keeps every member it has no setting for
in `extra`; `Settings.toDocument` writes them back and leaves out what is not set. The first value
in key order that does not fit its setting is the error, and only then the first missing one.
-/
import ControlLink.Config.Field

namespace ControlLink.Config

set_option autoImplicit false

/-- A text that is never shown. -/
structure Secret where
  expose : String
deriving DecidableEq, Inhabited

def Secret.shown (_ : Secret) : String := "<Redacted>"

structure Settings where
  ssid : String
  password : Secret
  server : String
  screenName : String
  screenWidth : Option UInt16
  screenHeight : Option UInt16
  flipWheel : Option Bool
  pollingRate : Option UInt16
  jiggleInterval : Option UInt16
  brightness : Option UInt8
  ipAddr : Option String
  dnsServer : List String
  gateway : Option String
  vid : Option UInt16
  pid : Option UInt16
  manufacturer : Option String
  product : Option String
  serialNumber : Option String
  bleDeviceName : Option String
  webusbUrl : Option String
  /-- The members that are no setting, in the order of their keys. -/
  extra : List (String × Json)

namespace Settings

/-! ## From a document -/

/-- The value of a setting among the members of a document, if it is there and can be read. -/
def value? {α : Type} (read : Json → Except ShapeError α) (members : List (String × Json))
    (field : Field) : Option α :=
  (Json.find? field.key members).bind fun value => (read value).toOption

def required (members : List (String × Json)) (field : Field) : Except ShapeError String :=
  match value? readText members field with
  | some text => .ok text
  | none => .error (.missing field)

/-- Checks a member that is a setting; any other may hold anything. -/
def checkMember (key : String) (value : Json) : Except ShapeError Unit :=
  match Field.ofKey? key with
  | some field => field.shape.check value
  | none => .ok ()

/-- The settings in the members of a document. -/
def ofMembers (members : List (String × Json)) : Except ShapeError Settings := do
  members.forM fun (key, value) => checkMember key value
  let ssid ← required members .ssid
  let password ← required members .password
  let server ← required members .server
  let screenName ← required members .screenName
  return {
    ssid
    password := ⟨password⟩
    server
    screenName
    screenWidth := value? readWord members .screenWidth
    screenHeight := value? readWord members .screenHeight
    flipWheel := value? readFlag members .flipWheel
    pollingRate := value? readWord members .pollingRate
    jiggleInterval := value? readWord members .jiggleInterval
    brightness := value? readByte members .brightness
    ipAddr := value? readText members .ipAddr
    dnsServer := (value? readTexts members .dnsServer).getD []
    gateway := value? readText members .gateway
    vid := value? readWord members .vid
    pid := value? readWord members .pid
    manufacturer := value? readText members .manufacturer
    product := value? readText members .product
    serialNumber := value? readText members .serialNumber
    bleDeviceName := value? readText members .bleDeviceName
    webusbUrl := value? readText members .webusbUrl
    extra := members.filter fun (key, _) => (Field.ofKey? key).isNone }

def ofDocument : Json → Except ShapeError Settings
  | .object members => ofMembers members
  | document => .error (.wrongType (.of document) .settings)

/-! ## To a document -/

def ofWord (n : UInt16) : Json := .number (.ofUInt16 n)

def ofByte (n : UInt8) : Json := .number (.ofUInt8 n)

/-- The value that a document holds for a setting, if it holds any. -/
def toValue? (settings : Settings) : Field → Option Json
  | .ssid => some (.string settings.ssid)
  | .password => some (.string settings.password.expose)
  | .server => some (.string settings.server)
  | .screenName => some (.string settings.screenName)
  | .screenWidth => settings.screenWidth.map ofWord
  | .screenHeight => settings.screenHeight.map ofWord
  | .flipWheel => settings.flipWheel.map Json.bool
  | .pollingRate => settings.pollingRate.map ofWord
  | .jiggleInterval => settings.jiggleInterval.map ofWord
  | .brightness => settings.brightness.map ofByte
  | .ipAddr => settings.ipAddr.map Json.string
  | .dnsServer =>
    if settings.dnsServer.isEmpty then none
    else some (.array (settings.dnsServer.map Json.string))
  | .gateway => settings.gateway.map Json.string
  | .vid => settings.vid.map ofWord
  | .pid => settings.pid.map ofWord
  | .manufacturer => settings.manufacturer.map Json.string
  | .product => settings.product.map Json.string
  | .serialNumber => settings.serialNumber.map Json.string
  | .bleDeviceName => settings.bleDeviceName.map Json.string
  | .webusbUrl => settings.webusbUrl.map Json.string

/-- The settings that are set, in declared order. -/
def members (settings : Settings) : List (String × Json) :=
  Field.all.filterMap fun field => (settings.toValue? field).map fun value => (field.key, value)

/-- A member in `extra` replaces the setting of its key. -/
def toDocument (settings : Settings) : Json :=
  .object (Json.membersOf (settings.members ++ settings.extra))

end Settings

end ControlLink.Config
