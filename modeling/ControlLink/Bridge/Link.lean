/-
# ControlLink.Bridge.Link — a bridge connection

The host end of a connection to a bridge: the reads that are still to come from the stream, in
whatever pieces they come, and what was written to it. The end of the stream closes the link; an
incomplete frame at the end is never delivered.
-/
import ControlLink.Bridge.Codec

namespace ControlLink.Bridge

set_option autoImplicit false

structure Link where
  codec : Codec := { side := .host }
  /-- The reads to come. -/
  incoming : List Bytes
  /-- What was written, the last first. -/
  writes : List Bytes := []

namespace Link

/-- Reads until the codec yields a frame or an error. -/
def pull (codec : Codec) : List Bytes → Except LinkError Bytes × Codec × List Bytes
  | [] =>
    match codec.next with
    | (.ok (some frame), codec) => (.ok frame, codec, [])
    | (.error error, codec) => (.error error, codec, [])
    | (.ok none, codec) => (.error .closed, codec, [])
  | read :: reads =>
    match codec.next with
    | (.ok (some frame), codec) => (.ok frame, codec, read :: reads)
    | (.error error, codec) => (.error error, codec, read :: reads)
    | (.ok none, codec) => pull (codec.push read) reads

/-- The next frame of at most `limit` bytes; a longer one is taken and refused. -/
def receive (link : Link) (limit : Nat) : Except LinkError Bytes × Link :=
  match pull link.codec link.incoming with
  | (.error error, codec, incoming) => (.error error, { link with codec, incoming })
  | (.ok frame, codec, incoming) =>
    let link := { link with codec, incoming }
    if limit < frame.length then (.error (.frameTooLong limit frame.length), link)
    else (.ok frame, link)

/-- Writes a frame. -/
def send (link : Link) (frame : Bytes) : Except LinkError Unit × Link :=
  match link.codec.wrap frame with
  | .ok bytes => (.ok (), { link with writes := bytes :: link.writes })
  | .error error => (.error error, link)

/-- The bytes written so far. -/
def outgoing (link : Link) : Bytes := link.writes.reverse.flatten

end Link

end ControlLink.Bridge
