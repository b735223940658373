/-
# ControlLink.Wire.Response — frames from the device

`Response.decode` classifies a frame by its first byte and reads the fields of its kind from what
follows; bytes after those fields are ignored. `Response.encode` writes the frame a device sends.
-/
import ControlLink.Device.Status
import ControlLink.Wire.Error

namespace ControlLink.Wire

set_option autoImplicit false

inductive Response where
  | state (status : Device.Status)
  /-- So many blocks follow as bare frames. -/
  | config (blocks : UInt8)
  | ok
  | error (fault : Device.Fault)
  | progress (received total : UInt32)
  | complete
deriving DecidableEq

/-- The type of an inbound frame. -/
def ResponseType.ofFrame : Bytes → Except WireError ResponseType
  | [] => .error (.frameTooShort 1 0)
  | code :: _ => .ok (ofCode code)

namespace Response

def kind : Response → ResponseKind
  | state _ => .state
  | config _ => .config
  | ok => .ok
  | error _ => .error
  | progress _ _ => .progress
  | complete => .complete

/-- The bytes after the type byte. -/
def body : Response → Bytes
  | state status => status.encode
  | config blocks => [blocks]
  | error fault => fault.encode
  | progress received total =>
    Bytes.littleEndian 4 received.toNat ++ Bytes.littleEndian 4 total.toNat
  | ok | complete => []

def encode (response : Response) : Bytes := response.kind.code :: response.body

/-- Reads the bytes after the type byte of a frame of known kind. -/
def ofBody (kind : ResponseKind) (body : Bytes) : Except WireError Response :=
  match kind with
  | .state =>
    match Device.Status.decode? body with
    | some status => .ok (state status)
    | none => .error (.frameTooShort (Device.Status.size + 1) (body.length + 1))
  | .config =>
    match body with
    | blocks :: _ => .ok (config blocks)
    | [] => .error (.frameTooShort 2 1)
  | .ok => .ok ok
  | .error =>
    match Device.Fault.decode? body with
    | some fault => .ok (error fault)
    | none => .error (.frameTooShort 2 1)
  | .progress =>
    match body with
    | r0 :: r1 :: r2 :: r3 :: t0 :: t1 :: t2 :: t3 :: _ =>
      .ok (progress (UInt32.ofNat (Bytes.toNat [r0, r1, r2, r3]))
        (UInt32.ofNat (Bytes.toNat [t0, t1, t2, t3])))
    | _ => .error (.frameTooShort 9 (body.length + 1))
  | .complete => .ok complete

/-- Reads an inbound frame. -/
def decode (frame : Bytes) : Except WireError Response :=
  if frameLimit < frame.length then .error (.frameTooLong frameLimit frame.length)
  else
    match frame with
    | [] => .error (.frameTooShort 1 0)
    | code :: body =>
      match ResponseType.ofCode code with
      | .known kind => ofBody kind body
      | .unknown code => .error (.unknownResponse code)

/-- An error frame as an error, any other frame as it is. -/
def result : Response → Except WireError Response
  | error fault => .error (.device fault)
  | response => .ok response

theorem kind_of_ofBody {kind : ResponseKind} {body : Bytes} {response : Response}
    (h : ofBody kind body = .ok response) : response.kind = kind := by
  unfold ofBody at h
  split at h <;> (try split at h) <;> cases h <;> rfl

end Response

end ControlLink.Wire
