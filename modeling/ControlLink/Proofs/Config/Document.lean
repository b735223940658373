/-
# ControlLink.Proofs.Config.Document — a document comes out of a transfer as it went in

A write hands out the blocks of its payload, and a read that takes them behind the header which
announces them yields the payload again (`received_blocks`). So a document that can be sent is
received whole, as far as its nesting can be read (`document_round_trip`): only the reading side
limits it.
-/
import ControlLink.Config.Payload
import ControlLink.Proofs.Json.RoundTrip
import ControlLink.Proofs.Transfer.Read
import ControlLink.Proofs.Transfer.Write

namespace ControlLink

set_option autoImplicit false

namespace Transfer

open Wire

/-! ## A read that is fed with frames -/

namespace ReadTransfer

/-- Takes these frames one after another as blocks. -/
def takeBlocks (transfer : ReadTransfer) : List Bytes → Except Failure ReadTransfer
  | [] => .ok transfer
  | frame :: rest =>
    match transfer.block frame with
    | (.ok (), transfer) => transfer.takeBlocks rest
    | (.error failure, _) => .error failure

/-- What a new read yields that takes this header and these blocks. -/
def received (header : Bytes) (blocks : List Bytes) : Except Failure Bytes :=
  match (start {}).2.header header with
  | (.error failure, _) => .error failure
  | (.ok _, transfer) =>
    match transfer.takeBlocks blocks with
    | .error failure => .error failure
    | .ok transfer => transfer.finish

theorem takeBlocks_of_holding {transfer : ReadTransfer} {count : BlockCount} {taken : List Bytes}
    (holding : transfer.Holding count taken) (frames : List Bytes)
    (room : taken.length + frames.length ≤ count.val)
    (fits : ∀ frame ∈ frames, frame.length ≤ blockSize) :
    ∃ final, transfer.takeBlocks frames = .ok final ∧ final.Holding count (taken ++ frames) := by
  induction frames generalizing transfer taken with
  | nil => exact ⟨transfer, rfl, by rwa [List.append_nil]⟩
  | cons frame frames ih =>
      obtain ⟨first, others⟩ := List.forall_mem_cons.1 fits
      rw [List.length_cons] at room
      obtain ⟨took, held⟩ := block_of_holding holding (by omega) first
      obtain ⟨final, rest, whole⟩ :=
        ih held (by rw [List.length_append, List.length_singleton]; omega) others
      refine ⟨final, ?_, by rwa [List.append_cons]⟩
      rw [takeBlocks]
      cases stepped : transfer.block frame with
      | mk result next =>
          rw [stepped] at took rest
          rw [show result = .ok () from took]
          exact rest

end ReadTransfer

/-- **The blocks of a payload, behind the header that announces them, are that payload.** -/
theorem received_blocks {payload : Bytes} {transfer : WriteTransfer}
    (made : WriteTransfer.ofPayload payload = .ok transfer) :
    ReadTransfer.received ['r'.toUInt8, transfer.count.toByte] (transfer.blocks.map Block.bytes) =
      .ok payload := by
  obtain ⟨checked, split, fresh⟩ := WriteTransfer.ofPayload_eq_ok_iff.1 made
  obtain ⟨-, clean, -⟩ := checkPayload_eq_ok_iff.1 checked
  have announced : ReadTransfer.announced ['r'.toUInt8, transfer.count.toByte] =
      .ok transfer.count :=
    ReadTransfer.announced_eq_ok_iff.2 ⟨_, rfl, transfer.count.toNat_toByte.symm⟩
  have whole : ∀ frame ∈ transfer.blocks.map Block.bytes, frame.length = blockSize := by
    intro frame member
    obtain ⟨block, -, rfl⟩ := List.mem_map.1 member
    exact block.size_eq
  have counted : (transfer.blocks.map Block.bytes).length = transfer.count.val := by
    rw [List.length_map, fresh.length_eq]
  obtain ⟨final, took, holding⟩ := ReadTransfer.takeBlocks_of_holding
    (ReadTransfer.opened_holding transfer.count) (transfer.blocks.map Block.bytes)
    (by rw [counted, List.length_nil, Nat.zero_add])
    fun frame member => Nat.le_of_eq (whole frame member)
  have carried : (transfer.blocks.map Block.bytes).flatMap
      (fun frame => (Block.ofBytes frame).bytes) = transfer.blocks.flatMap Block.bytes := by
    rw [List.flatMap_map]
    congr 1
    funext block
    exact bytes_ofBytes block.size_eq
  rw [ReadTransfer.received, ReadTransfer.start_fresh,
    ReadTransfer.header_of_announced rfl announced]
  simp only [took]
  rw [ReadTransfer.finish_of_holding holding counted, List.nil_append, carried,
    flatMap_bytes_of_splitBlocks split, payloadOf_padTo _ clean]

end Transfer

namespace Config

open Transfer Wire

/-- **A document without binary64 numbers that can be sent is received whole.** Its payload is cut
into blocks, the blocks that a started write hands out, taken behind the header that announces
them, are the payload again, and that is read as the document if it nests at most 127 arrays and
objects in each other; a document that nests deeper can be sent and not be read. -/
theorem document_round_trip {document : Json} {payload : Bytes} (ordered : document.Ordered)
    (exact : document.Exact) (sendable : toPayload document = .ok payload) :
    ∃ transfer, WriteTransfer.ofPayload payload = .ok transfer ∧
      transfer.start.2.rest.1.length = transfer.count.val ∧
      ReadTransfer.received ['r'.toUInt8, transfer.count.toByte]
        (transfer.start.2.rest.1.map Block.bytes) = .ok payload ∧
      (document.depth ≤ 127 → ofPayload payload = .ok document) ∧
      (127 < document.depth → ofPayload payload = .error (.document (.notJson .tooDeep))) := by
  obtain ⟨rfl, count, checked⟩ := toPayload_eq_ok_iff.1 sendable
  obtain ⟨transfer, made⟩ := WriteTransfer.made_of_checkPayload checked
  have fresh := (WriteTransfer.ofPayload_eq_ok_iff.1 made).2.2
  have parsed := Json.parse_compact ordered exact
  refine ⟨transfer, made, ?_, ?_, fun (shallow : document.depth ≤ Json.depthLimit) => ?_,
    fun (deep : Json.depthLimit < document.depth) => ?_⟩
  · rw [WriteTransfer.rest_of_start fresh]
    exact fresh.length_eq
  · rw [WriteTransfer.rest_of_start fresh]
    exact received_blocks made
  · rw [ofPayload, parsed, if_pos shallow]
  · rw [ofPayload, parsed, if_neg (Nat.not_le.2 deep)]

theorem least_fits : Json.Fits (-0x8000000000000000) := by decide

theorem greatest_fits : Json.Fits 0xFFFFFFFFFFFFFFFF := by decide

/-- Escapes, characters of every length, both ends of the integers and empty values come back, out
of two blocks. -/
theorem document_round_trip_sample :
    let document : Json := .object [
      ("", .string "\"\\/\n\u0001\u007fé€😀"),
      ("a\tb", .array [.number (.integer _ least_fits), .number (.integer _ greatest_fits)]),
      ("z", .array [.array [], .object [("\u0000", .null), ("é", .array [.bool true])]])]
    let payload := Text.Utf8.encode document.compact
    document.Ordered ∧ document.Exact ∧ toPayload document = .ok payload ∧
      ∃ transfer, WriteTransfer.ofPayload payload = .ok transfer ∧ transfer.count.val = 2 ∧
        ReadTransfer.received ['r'.toUInt8, transfer.count.toByte]
          (transfer.start.2.rest.1.map Block.bytes) = .ok payload ∧
        ofPayload payload = .ok document := by
  intro document payload
  have ordered : document.Ordered :=
    ⟨by decide, trivial, ⟨trivial, trivial, trivial⟩,
      ⟨trivial, ⟨by decide, trivial, ⟨trivial, trivial⟩, trivial⟩, trivial⟩, trivial⟩
  have exact : document.Exact :=
    ⟨trivial, ⟨trivial, trivial, trivial⟩,
      ⟨trivial, ⟨trivial, ⟨trivial, trivial⟩, trivial⟩, trivial⟩, trivial⟩
  have counted : Wire.checkPayload payload = .ok ⟨2, by decide⟩ := by decide +kernel
  have sendable : toPayload document = .ok payload := toPayload_eq_ok_iff.2 ⟨rfl, _, counted⟩
  obtain ⟨transfer, made, -, received, read, -⟩ := document_round_trip ordered exact sendable
  have checked := (WriteTransfer.ofPayload_eq_ok_iff.1 made).1
  rw [counted] at checked
  refine ⟨ordered, exact, sendable, transfer, made, ?_, received, read (by decide)⟩
  exact congrArg BlockCount.val (Except.ok.inj checked).symm

end Config

end ControlLink
