/-
# ControlLink.Proofs.Wire.Block — a payload is in its blocks

The pieces of a byte string, each filled up with zeros, are together the string filled up with
zeros (`flatten_padded_takePieces`). So the blocks of a payload carry the payload and then zeros
only (`flatMap_bytes_of_splitBlocks`), and the scan for the end of a payload finds in them what it
finds in the payload (`payloadOf_padTo_eq`). That is the whole payload exactly if no byte of it would
end it (`payloadOf_eq_self_iff`), which its writer checks (`checkPayload_eq_ok_iff`).
-/
import ControlLink.Wire.Block
import Mathlib.Data.List.TakeWhile

namespace ControlLink

set_option autoImplicit false

namespace Bytes

@[simp] theorem length_takePieces (size count : Nat) (bytes : Bytes) :
    (takePieces size count bytes).length = count := by
  induction count generalizing bytes with
  | zero => rfl
  | succ count ih => simp [takePieces, ih]

@[simp] theorem length_pieces (size : Nat) (bytes : Bytes) :
    (pieces size bytes).length = pieceCount size bytes.length :=
  length_takePieces size _ bytes

theorem padTo_append_padTo (size more : Nat) (bytes : Bytes) (fits : bytes.length ≤ size) :
    padTo size bytes ++ List.replicate more 0 = padTo (size + more) bytes := by
  simp only [padTo, List.append_assoc, List.replicate_append_replicate]
  rw [show size - bytes.length + more = size + more - bytes.length by omega]

/-- **Pieces filled up are the whole filled up.** -/
theorem flatten_padded_takePieces (size count : Nat) (bytes : Bytes)
    (fits : bytes.length ≤ count * size) :
    ((takePieces size count bytes).map (padTo size)).flatten = padTo (count * size) bytes := by
  induction count generalizing bytes with
  | zero =>
      have empty : bytes = [] := List.eq_nil_of_length_eq_zero (by omega)
      simp [takePieces, padTo, empty]
  | succ count ih =>
      have rest : (bytes.drop size).length ≤ count * size := by
        rw [List.length_drop, Nat.succ_mul] at *
        omega
      rw [takePieces, List.map_cons, List.flatten_cons, ih _ rest, Nat.succ_mul]
      by_cases full : size ≤ bytes.length
      · have head : padTo size (bytes.take size) = bytes.take size := by
          simp [padTo, List.length_take, Nat.min_eq_left full]
        rw [head, padTo, padTo, ← List.append_assoc, List.take_append_drop, List.length_drop]
        congr 2
        omega
      · have short : bytes.length ≤ size := Nat.le_of_not_le full
        rw [List.take_of_length_le short, List.drop_of_length_le short, Nat.add_comm]
        rw [← padTo_append_padTo size (count * size) bytes short]
        simp [padTo]

/-- Pieces are together the whole. -/
theorem flatten_takePieces (size count : Nat) (bytes : Bytes)
    (fits : bytes.length ≤ count * size) : (takePieces size count bytes).flatten = bytes := by
  induction count generalizing bytes with
  | zero =>
      have empty : bytes = [] := List.eq_nil_of_length_eq_zero (by omega)
      rw [empty]
      rfl
  | succ count ih =>
      have rest : (bytes.drop size).length ≤ count * size := by
        rw [List.length_drop, Nat.succ_mul] at *
        omega
      rw [takePieces, List.flatten_cons, ih _ rest, List.take_append_drop]

theorem length_le_pieceCount_mul (size length : Nat) (positive : 0 < size) :
    length ≤ pieceCount size length * size := by
  have whole := Nat.div_add_mod (length + (size - 1)) size
  have left := Nat.mod_lt (length + (size - 1)) positive
  rw [pieceCount, Nat.mul_comm]
  omega

theorem flatten_pieces {size : Nat} (positive : 0 < size) (bytes : Bytes) :
    (pieces size bytes).flatten = bytes :=
  flatten_takePieces _ _ _ (length_le_pieceCount_mul _ _ positive)

theorem pieceCount_le {size count length : Nat} (positive : 0 < size)
    (fits : length ≤ count * size) : pieceCount size length ≤ count := by
  have below : length + (size - 1) < (count + 1) * size := by
    rw [Nat.succ_mul]
    omega
  exact Nat.lt_succ_iff.1 ((Nat.div_lt_iff_lt_mul positive).2 below)

theorem length_le_of_mem_pieces {size : Nat} {bytes piece : Bytes}
    (member : piece ∈ pieces size bytes) : piece.length ≤ size := by
  have general (count : Nat) : ∀ bytes : Bytes, piece ∈ takePieces size count bytes →
      piece.length ≤ size := by
    induction count with
    | zero => exact nofun
    | succ count ih =>
        intro bytes inside
        rcases List.mem_cons.1 inside with rfl | later
        · rw [List.length_take]
          exact Nat.min_le_left ..
        · exact ih _ later
  exact general _ bytes member

theorem getElem_takePieces {size count : Nat} {bytes : Bytes} {index : Nat}
    (inside : index < (takePieces size count bytes).length) :
    (takePieces size count bytes)[index] = (bytes.drop (index * size)).take size := by
  induction count generalizing bytes index with
  | zero => cases inside
  | succ count ih =>
      cases index with
      | zero => simp [takePieces]
      | succ index =>
          simp only [takePieces, List.getElem_cons_succ]
          rw [ih, List.drop_drop, Nat.succ_mul, Nat.add_comm size]

/-- There is a piece as long as there are bytes that it can start with. -/
theorem lt_pieceCount_iff {size index length : Nat} (positive : 0 < size) :
    index < pieceCount size length ↔ index * size < length := by
  rw [pieceCount, Nat.lt_div_iff_mul_lt positive, Nat.mul_comm index size]
  omega

end Bytes

namespace Wire

/-! ## Counting blocks -/

theorem ofNat_eq_ok_iff {number : Nat} {count : BlockCount} :
    BlockCount.ofNat number = .ok count ↔ count.val = number := by
  obtain ⟨val, bound⟩ := count
  unfold BlockCount.ofNat
  constructor
  · intro made
    split at made
    · cases made; rfl
    · cases made
  · rintro rfl
    simp [bound]

theorem forLength_eq_ok_iff {length : Nat} {count : BlockCount} :
    BlockCount.forLength length = .ok count ↔ count.val = Bytes.pieceCount blockSize length :=
  ofNat_eq_ok_iff

/-- The blocks of what fits one transfer can be counted. -/
theorem forLength_of_length_le {length : Nat} (fits : length ≤ payloadLimit) :
    ∃ count, BlockCount.forLength length = .ok count :=
  ⟨⟨_, Bytes.pieceCount_le (by decide) fits⟩, forLength_eq_ok_iff.2 rfl⟩

/-- A payload can be split exactly if its blocks can be counted. -/
theorem splitBlocks_eq_ok_iff {payload : Bytes} {blocks : List Block} :
    splitBlocks payload = .ok blocks ↔
      (∃ count, BlockCount.forLength payload.length = .ok count) ∧
        blocks = (Bytes.pieces blockSize payload).map Block.ofBytes := by
  unfold splitBlocks
  cases BlockCount.forLength payload.length with
  | error error => simp [Except.map]
  | ok count => simp [Except.map, eq_comm]

theorem length_of_splitBlocks {payload : Bytes} {blocks : List Block} {count : BlockCount}
    (split : splitBlocks payload = .ok blocks)
    (counted : BlockCount.forLength payload.length = .ok count) : blocks.length = count.val := by
  obtain ⟨-, rfl⟩ := splitBlocks_eq_ok_iff.1 split
  rw [List.length_map, Bytes.length_pieces, forLength_eq_ok_iff.1 counted]

/-- Any count has room for no block, so an assembler starts with none. -/
theorem length_nil_le (count : BlockCount) : ([] : List Block).length ≤ count.val :=
  Nat.zero_le count.val

/-! ## The bytes of blocks -/

/-- A frame that is not too long for a block is filled up. -/
theorem bytes_ofBytes_of_le {frame : Bytes} (short : frame.length ≤ blockSize) :
    (Block.ofBytes frame).bytes = Bytes.padTo blockSize frame := by
  show Bytes.padTo blockSize (frame.take blockSize) = Bytes.padTo blockSize frame
  rw [List.take_of_length_le short]

/-- A frame as long as a block is the bytes of its block. -/
theorem bytes_ofBytes {frame : Bytes} (whole : frame.length = blockSize) :
    (Block.ofBytes frame).bytes = frame := by
  rw [bytes_ofBytes_of_le (Nat.le_of_eq whole), Bytes.padTo, whole, Nat.sub_self,
    List.replicate_zero, List.append_nil]

/-- The blocks of a payload carry the payload and then zeros only. -/
theorem flatMap_bytes_of_splitBlocks {payload : Bytes} {blocks : List Block}
    (split : splitBlocks payload = .ok blocks) :
    blocks.flatMap Block.bytes =
      Bytes.padTo (Bytes.pieceCount blockSize payload.length * blockSize) payload := by
  obtain ⟨-, rfl⟩ := splitBlocks_eq_ok_iff.1 split
  have filled : (Bytes.pieces blockSize payload).map (Block.bytes ∘ Block.ofBytes) =
      (Bytes.pieces blockSize payload).map (Bytes.padTo blockSize) := by
    apply List.map_congr_left
    intro piece member
    exact bytes_ofBytes_of_le (Bytes.length_le_of_mem_pieces member)
  rw [List.flatMap_def, List.map_map, filled]
  exact Bytes.flatten_padded_takePieces _ _ _ (Bytes.length_le_pieceCount_mul _ _ (by decide))

/-! ## The end of a payload -/

theorem isSentinel_eq_false_iff (byte : UInt8) :
    isSentinel byte = false ↔ byte ≠ 0 ∧ byte ≤ 0xF4 := by
  have above : byte < 0xF5 ↔ byte ≤ 0xF4 := by
    simp only [UInt8.lt_iff_toNat_lt, UInt8.le_iff_toNat_le]
    exact Nat.lt_succ_iff
  simp [isSentinel, above]

/-- A payload ends in front of the first byte that is zero or above 0xF4. -/
theorem payloadOf_eq_takeWhile (bytes : Bytes) :
    payloadOf bytes = bytes.takeWhile fun byte => byte != 0 && byte ≤ 0xF4 := by
  have same (byte : UInt8) : (!isSentinel byte) = (byte != 0 && decide (byte ≤ 0xF4)) := by
    have iff := isSentinel_eq_false_iff byte
    cases sentinel : isSentinel byte <;> simp_all
  simp only [payloadOf, same]

/-- What frames that fit blocks carry: each filled up, and then all up to the end of the payload. -/
theorem payloadOf_frames {frames : List Bytes} (small : ∀ frame ∈ frames, frame.length ≤ blockSize) :
    payloadOf (frames.flatMap fun frame => (Block.ofBytes frame).bytes) =
      (frames.flatMap (Bytes.padTo 64)).takeWhile fun byte => byte != 0 && byte ≤ 0xF4 := by
  have filled : frames.map (fun frame => (Block.ofBytes frame).bytes) =
      frames.map (Bytes.padTo 64) :=
    List.map_congr_left fun frame member => bytes_ofBytes_of_le (small frame member)
  rw [payloadOf_eq_takeWhile, List.flatMap_def, filled]
  rfl

/-- Bytes are their own payload exactly if none of them ends it. -/
theorem payloadOf_eq_self_iff {payload : Bytes} :
    payloadOf payload = payload ↔ ∀ byte ∈ payload, isSentinel byte = false := by
  simp [payloadOf, List.takeWhile_eq_self_iff]

/-- **What fills up the blocks of a payload does not get into it.** -/
theorem payloadOf_padTo_eq (size : Nat) (payload : Bytes) :
    payloadOf (Bytes.padTo size payload) = payloadOf payload := by
  have zeros : (List.replicate (size - payload.length) (0 : UInt8)).takeWhile
      (!isSentinel ·) = [] := by
    rw [List.takeWhile_replicate]
    rfl
  rw [payloadOf, Bytes.padTo, List.takeWhile_append]
  split
  · rename_i whole
    rw [zeros, List.append_nil, payloadOf]
    exact ((List.takeWhile_prefix _).eq_of_length whole).symm
  · rfl

theorem payloadOf_padTo (size : Nat) {payload : Bytes}
    (clean : ∀ byte ∈ payload, isSentinel byte = false) :
    payloadOf (Bytes.padTo size payload) = payload := by
  rw [payloadOf_padTo_eq, payloadOf_eq_self_iff.2 clean]

/-- The writer's check accepts what fits one transfer and is its own payload. -/
theorem checkPayload_eq_ok_iff {payload : Bytes} {count : BlockCount} :
    checkPayload payload = .ok count ↔
      payload.length ≤ payloadLimit ∧ (∀ byte ∈ payload, isSentinel byte = false) ∧
        BlockCount.forLength payload.length = .ok count := by
  have clean : firstSentinel? payload = none ↔ ∀ byte ∈ payload, isSentinel byte = false := by
    unfold firstSentinel?
    split
    · rename_i byte rest found
      simp only [reduceCtorEq, false_iff]
      intro none
      have gone : payload.dropWhile (!isSentinel ·) = [] := by
        simpa [List.dropWhile_eq_nil_iff] using none
      rw [gone] at found
      cases found
    · rename_i found
      simpa [List.dropWhile_eq_nil_iff] using found
  unfold checkPayload
  by_cases long : payloadLimit < payload.length
  · simp [long, Nat.not_le.2 long]
  · rw [if_neg long, ← clean]
    cases firstSentinel? payload with
    | none => simp [Nat.le_of_not_lt long]
    | some found => simp

end Wire

end ControlLink
