/-
# ControlLink.Proofs.Transfer.Read — a read takes as many blocks as its header announces

`Holding` describes a transfer between its header and its last block by the frames it has taken.
From an accepted header on (`header_of_announced`) each further frame that fits a block is taken
(`block_of_holding`), a longer one is not (`block_of_oversize`), and once the announced number is
there the transfer yields the payload inside them (`finish_of_holding`).
-/
import ControlLink.Proofs.Wire.Block
import ControlLink.Transfer.Read

namespace ControlLink.Transfer.ReadTransfer

set_option autoImplicit false

open Wire

theorem start_fresh : ReadTransfer.start {} = (.ok .readConfig, { phase := .awaitingHeader }) := rfl

/-- A frame is a header exactly if it announces blocks that fit one transfer. -/
theorem announced_eq_ok_iff {frame : Bytes} {count : BlockCount} :
    announced frame = .ok count ↔
      ∃ blocks, Response.decode frame = .ok (.config blocks) ∧ count.val = blocks.toNat := by
  unfold announced
  cases Response.decode frame with
  | error error => simp
  | ok response =>
      cases response with
      | config blocks =>
          simp only [Except.ok.injEq, Response.config.injEq, exists_eq_left']
          rw [← ofNat_eq_ok_iff]
          cases BlockCount.ofNat blocks.toNat <;> simp
      | _ => simp

/-- A transfer that awaits the rest of the announced blocks after these frames. -/
structure Holding (transfer : ReadTransfer) (count : BlockCount) (frames : List Bytes) : Prop where
  phase_eq : transfer.phase = awaiting (count.val - frames.length) .idle
  assembled : ∃ assembler : Assembler, transfer.assembler = some assembler ∧
    assembler.expected = count ∧ assembler.blocks = frames.map Block.ofBytes

/-- The transfer behind an accepted header. -/
def opened (count : BlockCount) : ReadTransfer where
  assembler := some { expected := count, length_le := length_nil_le count }
  phase := awaiting count.val .idle

theorem opened_holding (count : BlockCount) : (opened count).Holding count [] :=
  ⟨rfl, _, rfl, rfl, rfl⟩

theorem header_of_announced {transfer : ReadTransfer} {frame : Bytes} {count : BlockCount}
    (phase : transfer.phase = .awaitingHeader) (accepted : announced frame = .ok count) :
    transfer.header frame = (.ok count, opened count) := by
  simp [header, phase, accepted, opened]

theorem header_of_refused {transfer : ReadTransfer} {frame : Bytes} {failure : Failure}
    (phase : transfer.phase = .awaitingHeader) (refused : announced frame = .error failure) :
    transfer.header frame = (.error failure, transfer.fail) := by
  simp [header, phase, refused]

section Blocks

variable {transfer : ReadTransfer} {count : BlockCount} {frames : List Bytes} {frame : Bytes}

/-- A transfer that holds blocks awaits those that are missing. -/
theorem Holding.awaiting_iff (holding : transfer.Holding count frames) (left : Nat) :
    transfer.phase = .awaitingBlocks left ↔ 1 ≤ left ∧ frames.length + left = count.val := by
  rw [holding.phase_eq, awaiting]
  split
  · simp only [reduceCtorEq, false_iff]
    omega
  · simp only [Phase.awaitingBlocks.injEq]
    omega

/-- A block that is missing is put behind the others, unless the frame is too long for it. -/
theorem Holding.pushed_eq (holding : transfer.Holding count frames)
    (room : frames.length < count.val) (frame : Bytes) :
    (blockSize < frame.length →
      pushed transfer.assembler frame = .error (.frameTooLong blockSize frame.length)) ∧
    (frame.length ≤ blockSize → ∃ assembler, pushed transfer.assembler frame = .ok assembler ∧
      assembler.expected = count ∧ assembler.blocks = (frames ++ [frame]).map Block.ofBytes) := by
  obtain ⟨-, assembler, held, expected, blocks⟩ := holding
  have space : assembler.received < assembler.expected.val := by
    simp [Assembler.received, blocks, expected, room]
  rw [held, pushed, Assembler.push, dif_pos space]
  refine ⟨fun long => if_pos long, fun fits => ?_⟩
  rw [if_neg (Nat.not_lt.2 fits)]
  exact ⟨_, rfl, expected, by simp [blocks]⟩

theorem block_of_holding (holding : transfer.Holding count frames)
    (room : frames.length < count.val) (fits : frame.length ≤ blockSize) :
    (transfer.block frame).1 = .ok () ∧
      (transfer.block frame).2.Holding count (frames ++ [frame]) := by
  have waits : transfer.phase = .awaitingBlocks (count.val - frames.length) :=
    (holding.awaiting_iff _).2 (by omega)
  obtain ⟨assembler, taken, expected, blocks⟩ := (holding.pushed_eq room frame).2 fits
  have next : awaiting (count.val - frames.length - 1) .idle =
      awaiting (count.val - (frames ++ [frame]).length) .idle := by
    rw [List.length_append, List.length_singleton, Nat.sub_sub]
  simp only [block, waits, taken]
  exact ⟨trivial, next, assembler, rfl, expected, blocks⟩

/-- A transfer does not take a frame that is longer than a block. -/
theorem block_of_oversize (holding : transfer.Holding count frames)
    (room : frames.length < count.val) (long : blockSize < frame.length) :
    (transfer.block frame).1 = .error (.protocol (.frameTooLong blockSize frame.length)) := by
  have waits : transfer.phase = .awaitingBlocks (count.val - frames.length) :=
    (holding.awaiting_iff _).2 (by omega)
  simp only [block, waits, (holding.pushed_eq room frame).1 long]
  rfl

end Blocks

theorem finish_of_holding {transfer : ReadTransfer} {count : BlockCount} {frames : List Bytes}
    (holding : transfer.Holding count frames) (complete : frames.length = count.val) :
    transfer.finish =
      .ok (payloadOf (frames.flatMap fun frame => (Block.ofBytes frame).bytes)) := by
  obtain ⟨phase, assembler, held, expected, blocks⟩ := holding
  have idle : transfer.phase = .idle := by rw [phase, complete, Nat.sub_self]; rfl
  have full : assembler.isComplete := by
    simp [Assembler.isComplete, Assembler.received, blocks, expected, complete]
  simp [finish, idle, held, Assembler.finish, full, Assembler.bytes, blocks, List.flatMap_map]

end ControlLink.Transfer.ReadTransfer
