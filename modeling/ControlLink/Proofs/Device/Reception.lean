/-
# ControlLink.Proofs.Device.Reception — a device that receives a firmware image

A device waits for the start of an update, which gives the size and the checksum of the image. From
then on it waits for the announcement of a chunk, gathers as many packets as were announced, and
keeps of their bytes as many as belong to the chunk. Whatever else comes in is refused. The device
puts the image together by the rules written down here, not with the means of its host.

Packets are gathered one by one (`takeAll?_packets`). A chunk adds its bytes to the image and leaves
the device ready for the next (`takeAll?_chunk`), and so does one chunk after another
(`takeAll?_chunks`).
-/
import ControlLink.Proofs.Firmware.Chunk
import ControlLink.Proofs.Wire.Command

namespace ControlLink.Device

set_option autoImplicit false

open Wire Firmware

/-- What a device has of an image. -/
structure Received where
  size : UInt32
  checksum : UInt32
  data : Bytes := []
deriving DecidableEq

def Received.extend (received : Received) (bytes : Bytes) : Received :=
  { received with data := received.data ++ bytes }

/-- How far a device is with an update. -/
inductive Reception where
  | idle
  | ready (received : Received)
  /-- A packet is to come and then so many more, which together with what is held carry so many bytes
  of the image. -/
  | gathering (received : Received) (more length : Nat) (held : Bytes)
deriving DecidableEq

namespace Reception

/-- Waits for so many packets, or keeps what belongs to the image. -/
def gather (received : Received) : Nat → Nat → Bytes → Reception
  | 0, length, held => .ready (received.extend (held.take length))
  | more + 1, length, held => .gathering received more length held

/-- What a device does with a frame. -/
def take? : Reception → Bytes → Option Reception
  | .idle, frame =>
    match Command.decode frame with
    | .ok (.updateStart size checksum) => some (.ready { size, checksum })
    | _ => none
  | .ready received, frame =>
    match Command.decode frame with
    | .ok (.updateData packets length) => some (gather received packets.val length.toNat [])
    | _ => none
  | .gathering received more length held, frame =>
    if frame.length = 64 then some (gather received more length (held ++ frame)) else none

/-- What it does with one frame after another. -/
def takeAll? (reception : Reception) : List Bytes → Option Reception
  | [] => some reception
  | frame :: frames => (reception.take? frame).bind fun reception => reception.takeAll? frames

section Chunks

variable {received : Received} {reception next : Reception}

theorem takeAll?_append {frames more : List Bytes} (taken : reception.takeAll? frames = some next) :
    reception.takeAll? (frames ++ more) = next.takeAll? more := by
  induction frames generalizing reception with
  | nil =>
      cases taken
      rfl
  | cons frame frames ih =>
      obtain ⟨between, first, rest⟩ := Option.bind_eq_some_iff.1 taken
      rw [List.cons_append, takeAll?, first, Option.bind_some, ih rest]

/-- **The packets of a chunk are gathered** until the last of them is there. -/
theorem takeAll?_packets (received : Received) (packets : List Block) (length : Nat) (held : Bytes) :
    (gather received packets.length length held).takeAll? (packets.map Block.bytes) =
      some (.ready (received.extend ((held ++ packets.flatMap Block.bytes).take length))) := by
  induction packets generalizing held with
  | nil => simp [takeAll?, gather]
  | cons packet packets ih =>
      have whole : packet.bytes.length = 64 := packet.size_eq
      have first : (gather received (packets.length + 1) length held).take? packet.bytes =
          some (gather received packets.length length (held ++ packet.bytes)) := by
        simp [gather, take?, whole]
      rw [List.length_cons, List.map_cons, takeAll?, first, Option.bind_some, ih, List.flatMap_cons,
        List.append_assoc]

/-- **A chunk adds its bytes to the image**, and none of the zeros behind them. -/
theorem takeAll?_chunk {chunk : Chunk} {packets : BlockCount} {blocks : List Block}
    (carried : chunk.Carried packets blocks) (received : Received) :
    (ready received).takeAll?
        ((Command.updateData packets (UInt16.ofNat chunk.bytes.length)).encode ::
          blocks.map Block.bytes) =
      some (.ready (received.extend chunk.bytes)) := by
  have opened : (ready received).take?
      (Command.updateData packets (UInt16.ofNat chunk.bytes.length)).encode =
        some (gather received blocks.length chunk.bytes.length []) := by
    simp only [take?, Command.decode_encode, carried.length_eq, carried.counted]
  have kept : (blocks.flatMap Block.bytes).take chunk.bytes.length = chunk.bytes := by
    rw [carried.filled, Bytes.padTo, List.take_left]
  rw [takeAll?, opened, Option.bind_some, takeAll?_packets, List.nil_append, kept]

/-- **One chunk after another adds its bytes to the image.** -/
theorem takeAll?_chunks {frames : Chunk → List Bytes} {chunks : List Chunk}
    (sent : ∀ chunk ∈ chunks, ∃ packets blocks, chunk.Carried packets blocks ∧
      frames chunk = (Command.updateData packets (UInt16.ofNat chunk.bytes.length)).encode ::
        blocks.map Block.bytes) (received : Received) :
    (ready received).takeAll? (chunks.flatMap frames) =
      some (.ready (received.extend (chunks.flatMap Chunk.bytes))) := by
  induction chunks generalizing received with
  | nil => simp [takeAll?, Received.extend]
  | cons chunk chunks ih =>
      obtain ⟨⟨packets, blocks, carried, own⟩, others⟩ := List.forall_mem_cons.1 sent
      have first := takeAll?_chunk carried received
      rw [← own] at first
      rw [List.flatMap_cons, takeAll?_append first, ih others]
      simp [Received.extend, List.append_assoc]

end Chunks

end Reception

end ControlLink.Device
