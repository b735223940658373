/-
# ControlLink.Proofs.Wire.Assembly — a payload comes out of its blocks

A device may leave away zeros at the end of a block (`Block.Arrives`); the assembler fills the block
up again, so each frame adds the block that it stands for (`push_of_arrives`), and all frames add all
blocks (`foldlM_push`). What comes out of the blocks of a payload is the payload up to the first byte
that ends it (`assemble_of_splitBlocks`), and so the payload itself exactly if the writer's check
accepts it.

A payload that needs more blocks than one transfer has is refused with their exact number, which a
machine word holds for every length that a machine word holds (`toNat_wordCount`).
-/
import ControlLink.Proofs.Wire.Block
import Mathlib.Algebra.Order.Floor.Div

namespace ControlLink.Wire

set_option autoImplicit false

/-! ## The number of blocks -/

namespace BlockCount

theorem pieceCount_eq_ceilDiv (length : Nat) :
    Bytes.pieceCount blockSize length = length ⌈/⌉ blockSize := by
  rw [Nat.ceilDiv_eq_add_pred_div, Bytes.pieceCount]
  rfl

/-- The blocks it takes to hold `length` bytes, counted in machine words. -/
def wordCount (length : USize) : USize :=
  if 0 < length % 64 then length / 64 + 1 else length / 64

/-- **The count does not wrap around**, whatever the length. -/
theorem toNat_wordCount (length : USize) :
    (wordCount length).toNat = length.toNat ⌈/⌉ blockSize := by
  have bound := length.toNat_lt_two_pow_numBits
  have size : (64 : USize).toNat = 64 := USize.toNat_ofNat_of_lt_32 (by decide)
  have one : (1 : USize).toNat = 1 := USize.toNat_ofNat_of_lt_32 (by decide)
  have remains : 0 < length % 64 ↔ 0 < length.toNat % 64 := by
    rw [USize.lt_iff_toNat_lt, USize.toNat_mod, size, USize.toNat_zero]
  rw [← pieceCount_eq_ceilDiv, Bytes.pieceCount, blockSize, wordCount]
  by_cases left : 0 < length % 64
  · have uneven := remains.1 left
    -- The count of a length that is not zero is at most that length, which fits a word.
    have fits : length.toNat / 64 + 1 ≤ length.toNat := by omega
    rw [if_pos left, USize.toNat_add, USize.toNat_div, size, one,
      Nat.mod_eq_of_lt (Nat.lt_of_le_of_lt fits bound)]
    omega
  · have even := mt remains.2 left
    rw [if_neg left, USize.toNat_div, size]
    omega

theorem forLength_of_lt {length : Nat} (large : payloadLimit < length) :
    forLength length = .error (.blockCountOutOfRange (length ⌈/⌉ blockSize)) := by
  have many : blockLimit < Bytes.pieceCount blockSize length :=
    (Bytes.lt_pieceCount_iff (by decide)).2 large
  rw [← pieceCount_eq_ceilDiv, forLength, ofNat, dif_neg (Nat.not_le.2 many)]

end BlockCount

/-! ## Blocks as they arrive -/

/-- A frame that stands for a block: the block, or less some of the zeros at its end. -/
def Block.Arrives (block : Block) (frame : Bytes) : Prop :=
  ∃ zeros, block.bytes = frame ++ List.replicate zeros 0

theorem Block.Arrives.length_le {block : Block} {frame : Bytes} (arrives : block.Arrives frame) :
    frame.length ≤ blockSize := by
  obtain ⟨zeros, whole⟩ := arrives
  rw [← block.size_eq, whole, List.length_append]
  exact Nat.le_add_right _ _

/-- Filled up again, a frame is the block that it stands for. -/
theorem Block.Arrives.ofBytes_eq {block : Block} {frame : Bytes} (arrives : block.Arrives frame) :
    Block.ofBytes frame = block := by
  have short := arrives.length_le
  obtain ⟨zeros, whole⟩ := arrives
  have size := block.size_eq
  rw [whole, List.length_append, List.length_replicate] at size
  have missing : blockSize - frame.length = zeros := by omega
  have same : (Block.ofBytes frame).bytes = block.bytes := by
    rw [bytes_ofBytes_of_le short, Bytes.padTo, missing, whole]
  cases block
  cases same
  rfl

namespace Assembler

/-- An assembler that awaits so many blocks. -/
def fresh (count : BlockCount) : Assembler where
  expected := count
  length_le := length_nil_le count

/-- The payload that an assembler for so many blocks makes of frames. -/
def assemble (count : BlockCount) (frames : List Bytes) : Except WireError Bytes := do
  let full ← frames.foldlM push (fresh count)
  full.finish

/-- A frame adds the block that it stands for. -/
theorem push_of_arrives {assembler : Assembler} {block : Block} {frame : Bytes}
    (room : assembler.received < assembler.expected.val) (arrives : block.Arrives frame) :
    ∃ next, assembler.push frame = .ok next ∧ next.expected = assembler.expected ∧
      next.blocks = assembler.blocks ++ [block] := by
  rw [push, dif_pos room, if_neg (Nat.not_lt.2 arrives.length_le)]
  refine ⟨_, rfl, rfl, ?_⟩
  show assembler.blocks ++ [Block.ofBytes frame] = _
  rw [arrives.ofBytes_eq]

/-- **Frames add the blocks that they stand for**, one after another. -/
theorem foldlM_push {blocks : List Block} {frames : List Bytes}
    (arrive : List.Forall₂ Block.Arrives blocks frames) {assembler : Assembler}
    (room : assembler.received + blocks.length ≤ assembler.expected.val) :
    ∃ full, frames.foldlM push assembler = .ok full ∧ full.expected = assembler.expected ∧
      full.blocks = assembler.blocks ++ blocks := by
  induction arrive generalizing assembler with
  | nil => exact ⟨assembler, rfl, rfl, (List.append_nil _).symm⟩
  | @cons block frame blocks frames arrives _ ih =>
      rw [List.length_cons] at room
      have free : assembler.received < assembler.expected.val := by omega
      obtain ⟨next, pushed, expected, held⟩ := push_of_arrives free arrives
      have further : next.received + blocks.length ≤ next.expected.val := by
        rw [received, held, expected, List.length_append, List.length_singleton]
        rw [received] at room
        omega
      obtain ⟨full, rest, whole, all⟩ := ih further
      refine ⟨full, ?_, whole.trans expected, ?_⟩
      · rw [List.foldlM_cons, pushed]
        exact rest
      · rw [all, held, List.append_assoc, List.singleton_append]

theorem finish_of_complete {full : Assembler} (complete : full.blocks.length = full.expected.val) :
    full.finish = .ok (payloadOf (full.blocks.flatMap Block.bytes)) := by
  have all : full.isComplete = true := by simp [isComplete, received, complete]
  rw [finish, if_pos all]
  rfl

/-- **The blocks of a payload come to its beginning**, up to the first byte that ends it. -/
theorem assemble_of_splitBlocks {payload : Bytes} {blocks : List Block} {count : BlockCount}
    {frames : List Bytes} (counted : BlockCount.forLength payload.length = .ok count)
    (split : splitBlocks payload = .ok blocks)
    (arrive : List.Forall₂ Block.Arrives blocks frames) :
    assemble count frames = .ok (payloadOf payload) := by
  have length := length_of_splitBlocks split counted
  have room : (fresh count).received + blocks.length ≤ (fresh count).expected.val := by
    rw [length]
    exact Nat.le_of_eq (Nat.zero_add count.val)
  obtain ⟨full, taken, expected, held⟩ := foldlM_push arrive room
  have all : full.blocks = blocks := held
  have complete : full.blocks.length = full.expected.val := by
    rw [all, expected, length]
    rfl
  rw [assemble, taken]
  show full.finish = _
  rw [finish_of_complete complete, all, flatMap_bytes_of_splitBlocks split, payloadOf_padTo_eq]

/-! ## Splitting, checking and assembling -/

/-- **The blocks of a payload, and their limits.** A payload that fits one transfer is split into as
many blocks as hold it, and that number is announced. However the device shortens the zeros at the
end of the blocks, an assembler of that number makes of them the payload up to the first byte that is
zero or above 0xF4, and so the payload itself exactly if the writer's check accepts it. A longer
payload is refused by counting, by splitting and by the check; the number of blocks that is reported
is the exact one, for every length that a machine word holds. -/
theorem reassembly (payload : Bytes) :
    (payload.length ≤ payloadLimit → ∃ count blocks,
      BlockCount.forLength payload.length = .ok count ∧
      count.toByte.toNat = payload.length ⌈/⌉ blockSize ∧
      splitBlocks payload = .ok blocks ∧ blocks.length = payload.length ⌈/⌉ blockSize ∧
      ∀ frames, List.Forall₂ Block.Arrives blocks frames → ∃ result,
        assemble count frames = .ok result ∧
        result = (payload.takeWhile fun byte => byte != 0 && byte ≤ 0xF4) ∧
        (result = payload ↔ ∃ accepted, checkPayload payload = .ok accepted)) ∧
    (payloadLimit < payload.length →
      splitBlocks payload = .error (.blockCountOutOfRange (payload.length ⌈/⌉ blockSize)) ∧
      checkPayload payload = .error (.payloadTooLarge payloadLimit payload.length)) ∧
    ∀ length : USize, payloadLimit < length.toNat →
      BlockCount.forLength length.toNat =
        .error (.blockCountOutOfRange (BlockCount.wordCount length).toNat) ∧
      (BlockCount.wordCount length).toNat = length.toNat ⌈/⌉ blockSize := by
  refine ⟨fun fits => ?_, fun large => ?_, fun length large => ?_⟩
  · obtain ⟨count, counted⟩ := forLength_of_length_le fits
    have split := splitBlocks_eq_ok_iff.2 ⟨⟨count, counted⟩, rfl⟩
    have number : count.val = payload.length ⌈/⌉ blockSize := by
      rw [← BlockCount.pieceCount_eq_ceilDiv]
      exact forLength_eq_ok_iff.1 counted
    refine ⟨count, _, counted, count.toNat_toByte.trans number, split,
      (length_of_splitBlocks split counted).trans number, fun frames arrive => ?_⟩
    refine ⟨_, assemble_of_splitBlocks counted split arrive, payloadOf_eq_takeWhile payload, ?_⟩
    rw [payloadOf_eq_self_iff]
    constructor
    · intro clean
      exact ⟨count, checkPayload_eq_ok_iff.2 ⟨fits, clean, counted⟩⟩
    · rintro ⟨accepted, checked⟩
      exact (checkPayload_eq_ok_iff.1 checked).2.1
  · rw [splitBlocks, BlockCount.forLength_of_lt large, checkPayload, if_pos large]
    exact ⟨rfl, rfl⟩
  · rw [BlockCount.toNat_wordCount]
    exact ⟨BlockCount.forLength_of_lt large, rfl⟩

/-- The second of two blocks arrives without its zeros. Its byte 0xF5 ends the payload. -/
theorem reassembly_cut :
    let payload := List.replicate 70 0x61 ++ [0xF5, 0x62, 0x00]
    let frames := [List.replicate 64 0x61, List.replicate 6 0x61 ++ [0xF5, 0x62]]
    (∃ count, BlockCount.forLength payload.length = .ok count ∧
      assemble count frames = .ok (List.replicate 70 0x61) ∧
      ¬ ∃ accepted, checkPayload payload = .ok accepted) ∧
    splitBlocks (List.replicate 4097 0) = .error (.blockCountOutOfRange 65) ∧
    BlockCount.forLength (4097 : USize).toNat = .error (.blockCountOutOfRange 65) := by
  intro payload frames
  have word : (4097 : USize).toNat = 4097 := USize.toNat_ofNat_of_lt_32 (by decide)
  refine ⟨?_, ?_, ?_⟩
  · obtain ⟨count, blocks, counted, -, split, -, back⟩ := (reassembly payload).1 (by decide)
    have pieces : blocks = [Block.ofBytes (payload.take 64), Block.ofBytes (payload.drop 64)] :=
      (splitBlocks_eq_ok_iff.1 split).2.trans (by decide)
    have arrive : List.Forall₂ Block.Arrives blocks frames := by
      rw [pieces]
      exact .cons ⟨0, by decide⟩ (.cons ⟨56, by decide⟩ .nil)
    obtain ⟨result, assembled, cut, whole⟩ := back frames arrive
    have short : result = List.replicate 70 0x61 := cut.trans (by decide)
    refine ⟨count, counted, short ▸ assembled, fun accepted => ?_⟩
    exact absurd (short.symm.trans (whole.2 accepted)) (by decide)
  · have large : payloadLimit < (List.replicate 4097 (0 : UInt8)).length := by
      rw [List.length_replicate]
      decide
    rw [((reassembly _).2.1 large).1, List.length_replicate]
    rfl
  · have large : payloadLimit < (4097 : USize).toNat := by
      rw [word]
      decide
    obtain ⟨refused, number⟩ := (reassembly []).2.2 4097 large
    rw [refused, number, word]
    rfl

end Assembler

end ControlLink.Wire
