/-
# ControlLink.Bridge.Address — where a bridge listens

An address is a host and, behind the last colon, the number of a service. A host may stand in
brackets, so that its own colons are no separator.
-/
import ControlLink.Bridge.Codec
import ControlLink.Decimal.Numeral

namespace ControlLink.Bridge

set_option autoImplicit false

structure Address where
  host : String
  service : UInt16
deriving DecidableEq

inductive AddressFault where
  | noService
  | notNumber
deriving DecidableEq

def AddressFault.message : AddressFault → String
  | noService => "invalid socket address"
  | notNumber => "invalid port value"

namespace Address

/-- A host without the brackets around it. -/
def unbracketed (host : List Char) : List Char :=
  match host, host.getLast? with
  | '[' :: inner, some ']' => inner.dropLast
  | _, _ => host

def ofText (text : String) : Except AddressFault Address :=
  let reversed := text.toList.reverse
  match reversed.dropWhile (· != ':') with
  | [] => .error .noService
  | _ :: host =>
    match Decimal.bounded? 65535 (reversed.takeWhile (· != ':')).reverse with
    | some service =>
      .ok ⟨String.ofList (unbracketed host.reverse), UInt16.ofNat service⟩
    | none => .error .notNumber

end Address

/-- An address that cannot be connected to. -/
def AddressFault.toLinkError (fault : AddressFault) : LinkError := .connectionFailed fault.message

end ControlLink.Bridge
