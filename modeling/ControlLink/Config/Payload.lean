/-
# ControlLink.Config.Payload — documents as payloads

A configuration travels as the compact text of its document. The text must fit one transfer. A
document that has been received need not describe settings.
-/
import ControlLink.Config.Settings
import ControlLink.Failure
import ControlLink.Wire.Block

namespace ControlLink.Config

set_option autoImplicit false

/-- The payload of a document, if it can be sent in one transfer. -/
def toPayload (document : Json) : Except RequestError Bytes :=
  let payload := Text.Utf8.encode document.compact
  match Wire.checkPayload payload with
  | .ok _ => .ok payload
  | .error error => .error (.ofWire error)

/-- The document that a payload holds. -/
def ofPayload (payload : Bytes) : Except Failure Json :=
  match Json.parse payload with
  | .ok document => .ok document
  | .error error => .error (.document (.notJson error))

/-- The settings that a document describes. -/
def settingsOf (document : Json) : Except Failure Settings :=
  match Settings.ofDocument document with
  | .ok settings => .ok settings
  | .error error => .error (.document (.notSettings error))

end ControlLink.Config
