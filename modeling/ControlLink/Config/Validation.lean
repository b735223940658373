/-
# ControlLink.Config.Validation — the limits of the firmware

The firmware stores every text in a field of fixed size and parses addresses itself, so settings
are checked before they are sent. Lengths count the bytes of a text.
-/
import ControlLink.Config.Settings
import ControlLink.Failure

namespace ControlLink.Config

set_option autoImplicit false

/-! ## Limits -/

def ssidLimit : Nat := 32

def bleNameLimit : Nat := 32

/-- The limit of every other text. -/
def textLimit : Nat := 64

def dnsServerLimit : Nat := 3

/-! ## Addresses -/

/-- One to three digits without a leading zero, at most 255. -/
def octet? (text : List Char) : Option UInt8 :=
  match text with
  | '0' :: _ :: _ => none
  | _ =>
    if text.length ≤ 3 then
      (Decimal.numeral? text).bind fun n => if n ≤ 255 then some (UInt8.ofNat n) else none
    else none

/-- Whether a text is four octets between dots. -/
def isAddress (text : List Char) : Bool :=
  match Text.fields '.' text with
  | [a, b, c, d] => [a, b, c, d].all fun part => (octet? part).isSome
  | _ => false

/-- Whether a text is a number of leading bits of an address. -/
def isPrefixLength (text : List Char) : Bool := (Decimal.bounded? 32 text).isSome

/-! ## Checks -/

def checkLength (field : Field) (limit : Nat) (text : String) : Except RequestError Unit :=
  if limit < text.utf8ByteSize then .error (.fieldTooLong field limit text.utf8ByteSize)
  else .ok ()

def checkRequired (field : Field) (limit : Nat) (text : String) : Except RequestError Unit :=
  if text.isEmpty then .error (.missingField field) else checkLength field limit text

def checkAddress (field : Field) (text : String) : Except RequestError Unit :=
  if isAddress text.toList then .ok () else .error (.invalidField field (.notAddress text))

/-- An address, a slash and a prefix length. -/
def checkNetwork (field : Field) (text : String) : Except RequestError Unit :=
  match Text.cut? '/' text.toList with
  | none => .error (.invalidField field (.missingPrefixLength text))
  | some (address, length) =>
    if !isAddress address then
      .error (.invalidField field (.notAddress (String.ofList address)))
    else if isPrefixLength length then .ok ()
    else .error (.invalidField field (.notPrefixLength (String.ofList length)))

def checkServers (servers : List String) : Except RequestError Unit :=
  if dnsServerLimit < servers.length then
    .error (.invalidField .dnsServer (.tooMany servers.length dnsServerLimit))
  else servers.forM (checkAddress .dnsServer)

/-- Checks a value if there is one. -/
def ifSet (check : String → Except RequestError Unit) : Option String → Except RequestError Unit
  | some text => check text
  | none => .ok ()

/-- The first limit of the firmware that settings exceed is the error. -/
def Settings.validate (settings : Settings) : Except RequestError Unit := do
  checkRequired .ssid ssidLimit settings.ssid
  checkRequired .password textLimit settings.password.expose
  checkRequired .server textLimit settings.server
  checkRequired .screenName textLimit settings.screenName
  ifSet (checkNetwork .ipAddr) settings.ipAddr
  checkServers settings.dnsServer
  ifSet (checkAddress .gateway) settings.gateway
  ifSet (checkLength .manufacturer textLimit) settings.manufacturer
  ifSet (checkLength .product textLimit) settings.product
  ifSet (checkLength .serialNumber textLimit) settings.serialNumber
  ifSet (checkLength .bleDeviceName bleNameLimit) settings.bleDeviceName
  ifSet (checkLength .webusbUrl textLimit) settings.webusbUrl

end ControlLink.Config
