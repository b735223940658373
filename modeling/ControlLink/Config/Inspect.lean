/-
# ControlLink.Config.Inspect — settings as a diagnostic text

The text names every setting in declared order, set or not, and shows documents with the kind of
each value. The password is never shown.
-/
import ControlLink.Config.Settings

namespace ControlLink.Config

set_option autoImplicit false

/-- Texts between commas. -/
def commaSeparated (texts : List (List Char)) : List Char := [',', ' '].intercalate texts

def inspectText (text : String) : List Char := (Text.quote text).toList

mutual

/-- A document with the kind of each value. -/
def inspectJson : Json → List Char
  | .null => "Null".toList
  | .bool value => "Bool(".toList ++ Json.boolText value ++ [')']
  | .number value => "Number(".toList ++ value.text ++ [')']
  | .string text => "String(".toList ++ inspectText text ++ [')']
  | .array items => "Array [".toList ++ commaSeparated (inspectItems items) ++ [']']
  | .object members =>
    "Object \x7b".toList ++ commaSeparated (inspectMembers members) ++ ['\x7d']

def inspectItems : List Json → List (List Char)
  | [] => []
  | item :: rest => inspectJson item :: inspectItems rest

def inspectMembers : List (String × Json) → List (List Char)
  | [] => []
  | (key, value) :: rest =>
    (inspectText key ++ ':' :: ' ' :: inspectJson value) :: inspectMembers rest

end

def inspectOption {α : Type} (inspect : α → List Char) : Option α → List Char
  | some value => "Some(".toList ++ inspect value ++ [')']
  | none => "None".toList

def inspectNat (n : Nat) : List Char := Decimal.digits n

def inspectBool (value : Bool) : List Char := Json.boolText value

namespace Settings

/-- The value of a setting. -/
def inspectField (settings : Settings) : Field → List Char
  | .ssid => inspectText settings.ssid
  | .password => settings.password.shown.toList
  | .server => inspectText settings.server
  | .screenName => inspectText settings.screenName
  | .screenWidth => inspectOption (inspectNat ·.toNat) settings.screenWidth
  | .screenHeight => inspectOption (inspectNat ·.toNat) settings.screenHeight
  | .flipWheel => inspectOption inspectBool settings.flipWheel
  | .pollingRate => inspectOption (inspectNat ·.toNat) settings.pollingRate
  | .jiggleInterval => inspectOption (inspectNat ·.toNat) settings.jiggleInterval
  | .brightness => inspectOption (inspectNat ·.toNat) settings.brightness
  | .ipAddr => inspectOption inspectText settings.ipAddr
  | .dnsServer => '[' :: commaSeparated (settings.dnsServer.map inspectText) ++ [']']
  | .gateway => inspectOption inspectText settings.gateway
  | .vid => inspectOption (inspectNat ·.toNat) settings.vid
  | .pid => inspectOption (inspectNat ·.toNat) settings.pid
  | .manufacturer => inspectOption inspectText settings.manufacturer
  | .product => inspectOption inspectText settings.product
  | .serialNumber => inspectOption inspectText settings.serialNumber
  | .bleDeviceName => inspectOption inspectText settings.bleDeviceName
  | .webusbUrl => inspectOption inspectText settings.webusbUrl

def inspect (settings : Settings) : String :=
  let fields := Field.all.map fun field =>
    field.key.toList ++ ':' :: ' ' :: settings.inspectField field
  let extra := "extra: \x7b".toList ++ commaSeparated (inspectMembers settings.extra) ++ ['\x7d']
  String.ofList ("AppConfig \x7b ".toList ++ commaSeparated (fields ++ [extra]) ++ [' ', '\x7d'])

end Settings

end ControlLink.Config
