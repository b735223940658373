/-
# ControlLink.Proofs.Firmware.Chunk — a chunk and the packets it announces

Every chunk of an image has a header (`header_of_mem_chunks`), and a chunk that has a header has
packets, as many as the header announces (`packets_of_header`). The chunks are together the image
(`flatMap_bytes_chunks`): each starts where those before it end (`offset_eq_sum`), and only the last
may be shorter than the others (`length_of_later`).
-/
import ControlLink.Firmware.Image
import ControlLink.Proofs.Wire.Block
import Mathlib.Algebra.Ring.Nat

namespace ControlLink.Firmware

set_option autoImplicit false

open Wire

theorem Image.ofBytes_eq_ok_iff {data : Bytes} {image : Image} :
    Image.ofBytes data = .ok image ↔ image.data = data := by
  unfold Image.ofBytes
  constructor
  · intro made
    split at made
    · split at made
      · cases made
        rfl
      · cases made
    · cases made
  · rintro rfl
    rw [dif_pos image.nonempty, dif_pos image.length_le]

namespace Chunk

theorem packets_of_header {chunk : Chunk} {command : Command}
    (headed : chunk.header = .ok command) :
    ∃ (packets : BlockCount) (blocks : List Block),
      command = .updateData packets (UInt16.ofNat chunk.bytes.length) ∧
        chunk.packets = .ok blocks ∧ blocks.length = packets.val := by
  unfold header at headed
  cases counted : BlockCount.forLength chunk.bytes.length with
  | error error => simp [counted] at headed
  | ok packets =>
      simp only [counted] at headed
      split at headed
      · cases headed
        have split : chunk.packets =
            .ok ((Bytes.pieces blockSize chunk.bytes).map Block.ofBytes) :=
          splitBlocks_eq_ok_iff.2 ⟨⟨packets, counted⟩, rfl⟩
        exact ⟨packets, _, rfl, split, length_of_splitBlocks split counted⟩
      · cases headed

/-- How a chunk travels: a command announces its packets and its length, and the packets carry its
bytes and then zeros only. -/
structure Carried (chunk : Chunk) (packets : BlockCount) (blocks : List Block) : Prop where
  header_eq : chunk.header = .ok (.updateData packets (UInt16.ofNat chunk.bytes.length))
  /-- The length fits into the command. -/
  length_eq : (UInt16.ofNat chunk.bytes.length).toNat = chunk.bytes.length
  packets_eq : chunk.packets = .ok blocks
  counted : blocks.length = packets.val
  needed : packets.val = Bytes.pieceCount blockSize chunk.bytes.length
  filled : blocks.flatMap Block.bytes = Bytes.padTo (packets.val * blockSize) chunk.bytes

theorem carried_of_header {chunk : Chunk} {command : Command} (headed : chunk.header = .ok command) :
    ∃ packets blocks, chunk.Carried packets blocks := by
  have short : chunk.bytes.length < 1 <<< 16 := by
    unfold header at headed
    split at headed
    · cases headed
    · split at headed
      · assumption
      · cases headed
  obtain ⟨packets, blocks, rfl, split, counted⟩ := packets_of_header headed
  have needed : packets.val = Bytes.pieceCount blockSize chunk.bytes.length := by
    obtain ⟨⟨count, known⟩, -⟩ := splitBlocks_eq_ok_iff.1 split
    rw [← counted, length_of_splitBlocks split known, forLength_eq_ok_iff.1 known]
  refine ⟨packets, blocks, headed, UInt16.toNat_ofNat_of_lt' short, split, counted, needed, ?_⟩
  rw [needed, flatMap_bytes_of_splitBlocks split]

theorem header_of_mem_chunks {image : Image} {chunk : Chunk} (member : chunk ∈ image.chunks) :
    ∃ command, chunk.header = .ok command := by
  have short : chunk.bytes.length ≤ payloadLimit := by
    obtain ⟨index, inside, rfl⟩ := List.mem_mapIdx.1 member
    exact Bytes.length_le_of_mem_pieces (List.getElem_mem inside)
  obtain ⟨packets, counted⟩ := forLength_of_length_le short
  have small : chunk.bytes.length < 1 <<< 16 := Nat.lt_of_le_of_lt short (by decide)
  refine ⟨.updateData packets (UInt16.ofNat chunk.bytes.length), ?_⟩
  simp only [header, counted, if_pos small]

/-- The chunks of an image are together the image. -/
theorem flatMap_bytes_chunks (image : Image) : image.chunks.flatMap Chunk.bytes = image.data := by
  have bytes : image.chunks.map Chunk.bytes = Bytes.pieces chunkSize image.data := by
    apply List.ext_getElem
    · simp [Image.chunks]
    · intro index _ _
      simp [Image.chunks]
  rw [List.flatMap_def, bytes]
  exact Bytes.flatten_pieces (by decide) _

/-! ## Where the chunks of an image are -/

variable {image : Image} {index : Nat}

theorem length_chunks (image : Image) :
    image.chunks.length = Bytes.pieceCount chunkSize image.data.length := by
  simp [Image.chunks]

theorem getElem_chunks (inside : index < image.chunks.length) :
    image.chunks[index] =
      ⟨index * chunkSize, (image.data.drop (index * chunkSize)).take chunkSize⟩ := by
  simp only [Image.chunks, List.getElem_mapIdx, Bytes.pieces, Bytes.getElem_takePieces]

/-- A chunk starts before the end of its image. -/
theorem start_lt (inside : index < image.chunks.length) :
    index * chunkSize < image.data.length := by
  rw [length_chunks] at inside
  exact (Bytes.lt_pieceCount_iff (by decide)).1 inside

/-- Every chunk but the last is as long as a chunk may be. -/
theorem length_of_later (inside : index < image.chunks.length)
    (later : index + 1 < image.chunks.length) : image.chunks[index].bytes.length = chunkSize := by
  have next := start_lt later
  rw [getElem_chunks, List.length_take, List.length_drop]
  rw [Nat.succ_mul] at next
  omega

theorem length_pos (inside : index < image.chunks.length) :
    0 < image.chunks[index].bytes.length := by
  have start := start_lt inside
  have positive : 0 < chunkSize := by decide
  rw [getElem_chunks, List.length_take, List.length_drop]
  omega

theorem length_le (inside : index < image.chunks.length) :
    image.chunks[index].bytes.length ≤ chunkSize := by
  rw [getElem_chunks, List.length_take]
  exact Nat.min_le_left ..

/-- A chunk starts where those before it end. -/
theorem offset_eq_sum (inside : index < image.chunks.length) :
    image.chunks[index].offset = ((image.chunks.take index).map (·.bytes.length)).sum := by
  have full : (image.chunks.take index).map (·.bytes.length) = List.replicate index chunkSize := by
    rw [List.eq_replicate_iff]
    constructor
    · simp only [List.length_map, List.length_take]
      omega
    · intro length member
      obtain ⟨chunk, among, rfl⟩ := List.mem_map.1 member
      obtain ⟨earlier, before, rfl⟩ := List.mem_take_iff_getElem.1 among
      exact length_of_later _ (by omega)
  rw [full, getElem_chunks, List.sum_replicate_nat]

end Chunk

end ControlLink.Firmware
