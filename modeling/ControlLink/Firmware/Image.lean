/-
# ControlLink.Firmware.Image — firmware images and how they travel

An image is sent in chunks of up to 4096 bytes. A chunk is announced by a command with its length
and then sent in packets of 64 bytes, the last filled up with zeros; the length tells the device
how many of those bytes belong to the image.
-/
import ControlLink.Firmware.Checksum
import ControlLink.Wire.Block

namespace ControlLink.Firmware

set_option autoImplicit false

open ControlLink.Wire

/-- The size of the partition an image is written to. -/
def imageLimit : Nat := 0x100000

/-- The most bytes of an image in one chunk. -/
def chunkSize : Nat := payloadLimit

/-- A part of an image and where it starts. -/
structure Chunk where
  offset : Nat
  bytes : Bytes
deriving DecidableEq

namespace Chunk

/-- The command that announces the chunk. -/
def header (chunk : Chunk) : Except WireError Command :=
  match BlockCount.forLength chunk.bytes.length with
  | .error error => .error error
  | .ok packets =>
    if chunk.bytes.length < 1 <<< 16 then
      .ok (.updateData packets (UInt16.ofNat chunk.bytes.length))
    else .error (.payloadTooLarge chunkSize chunk.bytes.length)

/-- The packets that carry the chunk. -/
def packets (chunk : Chunk) : Except WireError (List Block) := splitBlocks chunk.bytes

end Chunk

/-- An image that is not empty and fits its partition. -/
structure Image where
  data : Bytes
  nonempty : data ≠ []
  length_le : data.length ≤ imageLimit
deriving DecidableEq

namespace Image

def ofBytes (data : Bytes) : Except WireError Image :=
  if nonempty : data ≠ [] then
    if fits : data.length ≤ imageLimit then .ok ⟨data, nonempty, fits⟩
    else .error (.payloadTooLarge imageLimit data.length)
  else .error (.invalidData .emptyImage)

def size (image : Image) : Nat := image.data.length

def checksum (image : Image) : UInt32 := crc32 image.data

/-- The command that opens the update. -/
def startCommand (image : Image) : Command :=
  .updateStart (UInt32.ofNat image.size) image.checksum

/-- The chunks of the image in order. -/
def chunks (image : Image) : List Chunk :=
  (Bytes.pieces chunkSize image.data).mapIdx fun index bytes => ⟨index * chunkSize, bytes⟩

end Image

end ControlLink.Firmware
