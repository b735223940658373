/-
# ControlLink.Bridge.Codec — frames on a byte stream

A bridge forwards each frame over a stream behind a marker for its direction and a two-byte length.
A codec discards what comes before its inbound marker. A length above the frame limit is an error,
after which only that marker is dropped, so the codec finds the next frame by itself.
-/
import ControlLink.Wire.Error

namespace ControlLink

set_option autoImplicit false

/-- Why the channel to a device failed. -/
inductive LinkError where
  | closed
  | timedOut
  | io (reason : String)
  | frameTooLong (max actual : Nat)
  | connectionFailed (reason : String)
deriving DecidableEq

def LinkError.message : LinkError → String
  | closed => "connection closed"
  | timedOut => "timed out waiting for the device"
  | io reason => s!"I/O error: {reason}"
  | frameTooLong max actual => s!"received frame of {actual} bytes exceeds limit of {max}"
  | connectionFailed reason => s!"connection failed: {reason}"

namespace Bridge

/-- The two ends of a bridge. -/
inductive Side where
  | host
  | device
deriving DecidableEq

namespace Side

/-- The marker in front of the frames this end sends. -/
def outbound : Side → UInt8
  | host => '<'.toUInt8
  | device => '>'.toUInt8

def other : Side → Side
  | host => device
  | device => host

/-- The marker in front of the frames this end receives. -/
def inbound (side : Side) : UInt8 := side.other.outbound

end Side

/-- What the front of a buffer holds, with the bytes left after taking it. -/
inductive Decoded where
  /-- No complete frame yet. -/
  | waiting (rest : Bytes)
  | frame (data rest : Bytes)
  /-- A header announced more bytes than a frame may have. -/
  | oversized (length : Nat) (rest : Bytes)
deriving DecidableEq

/-- Reads what follows an inbound marker; `buffer` starts with that marker. -/
def decodeMarked (buffer : Bytes) : Decoded :=
  match buffer with
  | _ :: low :: high :: body =>
    let length := Bytes.toNat [low, high]
    if frameLimit < length then .oversized length (low :: high :: body)
    else if body.length < length then .waiting buffer
    else .frame (body.take length) (body.drop length)
  | _ => .waiting buffer

/-- Takes the next frame behind `marker` from a buffer. -/
def decode (marker : UInt8) (buffer : Bytes) : Decoded :=
  decodeMarked (buffer.dropWhile (· != marker))

/-- A frame behind a marker. -/
def encode (marker : UInt8) (frame : Bytes) : Except LinkError Bytes :=
  if frameLimit < frame.length then .error (.frameTooLong frameLimit frame.length)
  else .ok (marker :: Bytes.littleEndian 2 frame.length ++ frame)

/-- One end of a bridge with the bytes it has not decoded. -/
structure Codec where
  side : Side
  buffer : Bytes := []
deriving DecidableEq

namespace Codec

def push (codec : Codec) (data : Bytes) : Codec :=
  { codec with buffer := codec.buffer ++ data }

/-- The next frame, or none if no frame is complete, and the codec without it. -/
def next (codec : Codec) : Except LinkError (Option Bytes) × Codec :=
  match decode codec.side.inbound codec.buffer with
  | .waiting rest => (.ok none, { codec with buffer := rest })
  | .frame data rest => (.ok (some data), { codec with buffer := rest })
  | .oversized length rest =>
    (.error (.frameTooLong frameLimit length), { codec with buffer := rest })

def wrap (codec : Codec) (frame : Bytes) : Except LinkError Bytes :=
  encode codec.side.outbound frame

end Codec

end Bridge

end ControlLink
