/-
# ControlLink.Device.Report — the running state as a reader sees it

A block of lines for people, and a document for programs, whose members stand in a fixed order.
-/
import ControlLink.Device.Status
import ControlLink.Json.Value

namespace ControlLink.Device

set_option autoImplicit false

def yesNo (value : Bool) : String := if value then "yes" else "no"

namespace Status

/-- The state in lines of a label and a value. -/
def describe (status : Status) : String :=
  let server := if status.serverConnected then "connected" else "disconnected"
  String.join [
    s!"Version:     {status.version.display}\n",
    s!"Model:       {status.model.name}\n",
    s!"Features:    {status.features.display}\n",
    s!"IP address:  {status.addressText}\n",
    s!"Server:      {server}\n",
    s!"Active:      {yesNo status.active}\n",
    s!"Keep awake:  {yesNo status.keepAwake}\n"]

/-- The state as members in the order in which they are printed. -/
def report (status : Status) : Json :=
  .object [
    ("version", .string status.version.display),
    ("model", .string status.model.name),
    ("model_id", .number (.ofUInt8 status.model.id)),
    ("features", .array (status.features.names.map Json.string)),
    ("feature_bits", .number (.ofUInt8 status.featureBits)),
    ("ip_address", match status.address with
      | some address => .string address.display
      | none => .null),
    ("server_connected", .bool status.serverConnected),
    ("active", .bool status.active),
    ("keep_awake", .bool status.keepAwake)]

end Status

end ControlLink.Device
