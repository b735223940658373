/-
# ControlLink.Proofs.Transfer.Write — a write hands out its payload block by block

A transfer made of a payload that passes the check holds as many blocks as it announces
(`ofPayload_eq_ok_iff`); once started it hands out all of them in order and then awaits the verdict
(`rest_of_start`), which is of one of three kinds (`verdict_cases`).
-/
import ControlLink.Config.Payload
import ControlLink.Proofs.Wire.Block
import ControlLink.Proofs.Wire.Response
import ControlLink.Transfer.Write

namespace ControlLink

set_option autoImplicit false

namespace Transfer.WriteTransfer

open Wire

/-- A transfer that holds the blocks it announces and has not started. -/
structure Fresh (transfer : WriteTransfer) : Prop where
  length_eq : transfer.blocks.length = transfer.count.val
  idle : transfer.phase = .idle
  none_out : transfer.handedOut = 0

theorem ofPayload_eq_ok_iff {payload : Bytes} {transfer : WriteTransfer} :
    ofPayload payload = .ok transfer ↔
      checkPayload payload = .ok transfer.count ∧ splitBlocks payload = .ok transfer.blocks ∧
        transfer.Fresh := by
  unfold ofPayload
  constructor
  · intro made
    cases checked : checkPayload payload with
    | error error => simp [checked] at made
    | ok count =>
        cases split : splitBlocks payload with
        | error error => simp [checked, split] at made
        | ok blocks =>
            simp only [checked, split, Except.ok.injEq] at made
            subst made
            have counted := (checkPayload_eq_ok_iff.1 checked).2.2
            exact ⟨rfl, rfl, length_of_splitBlocks split counted, rfl, rfl⟩
  · rintro ⟨checked, split, fresh⟩
    obtain ⟨blocks, count, handedOut, phase⟩ := transfer
    obtain ⟨-, rfl, rfl⟩ := fresh
    simp only [checked, split]

/-- A payload that passes the check makes a transfer. -/
theorem made_of_checkPayload {payload : Bytes} {count : BlockCount}
    (checked : checkPayload payload = .ok count) :
    ∃ transfer, ofPayload payload = .ok transfer := by
  obtain ⟨fits, -, -⟩ := checkPayload_eq_ok_iff.1 checked
  have split := splitBlocks_eq_ok_iff.2 ⟨forLength_of_length_le fits, rfl⟩
  exact ⟨{ blocks := _, count }, by rw [ofPayload, checked, split]⟩

/-- The command that opens a fresh transfer, and the transfer once it is open. -/
theorem start_of_fresh {transfer : WriteTransfer} (fresh : transfer.Fresh) :
    transfer.start = (.ok (.writeConfig transfer.count),
      { transfer with phase := awaiting transfer.count.val .awaitingVerdict }) := by
  simp [start, fresh.idle, fresh.none_out]

/-- A transfer with so many blocks left hands them out. -/
theorem drain_awaiting (left fuel : Nat) (transfer : WriteTransfer)
    (phase : transfer.phase = awaiting left .awaitingVerdict)
    (length_eq : transfer.blocks.length = transfer.handedOut + left) (enough : left < fuel) :
    transfer.drain fuel = (transfer.blocks.drop transfer.handedOut,
      { transfer with handedOut := transfer.blocks.length, phase := .awaitingVerdict }) := by
  induction left generalizing transfer fuel with
  | zero =>
      obtain ⟨fuel, rfl⟩ := Nat.exists_eq_add_of_lt enough
      have all : transfer.handedOut = transfer.blocks.length := by omega
      have verdict : transfer.phase = .awaitingVerdict := phase
      have last : transfer.nextBlock = (none, transfer) := by simp [nextBlock, verdict]
      simp only [drain, last, all, List.drop_length]
      rw [← all, ← verdict]
  | succ left ih =>
      obtain ⟨fuel, rfl⟩ : ∃ more, fuel = more + 1 := ⟨fuel - 1, by omega⟩
      have inside : transfer.handedOut < transfer.blocks.length := by omega
      have waiting : transfer.phase = .awaitingBlocks (left + 1) := phase
      have next : transfer.nextBlock = (some transfer.blocks[transfer.handedOut],
          { transfer with
            handedOut := transfer.handedOut + 1
            phase := awaiting left .awaitingVerdict }) := by
        simp [nextBlock, waiting, inside]
      simp only [drain, next]
      rw [ih fuel _ rfl (by simp only; omega) (by omega)]
      simp only [List.drop_eq_getElem_cons inside]

/-- **Once started, a fresh transfer hands out all its blocks** and then awaits the verdict. -/
theorem rest_of_start {transfer : WriteTransfer} (fresh : transfer.Fresh) :
    transfer.start.2.rest = (transfer.blocks,
      { transfer with handedOut := transfer.blocks.length, phase := .awaitingVerdict }) := by
  rw [start_of_fresh fresh, rest]
  rw [drain_awaiting transfer.count.val _ _ rfl]
  · simp [fresh.none_out]
  · simp [fresh.none_out, fresh.length_eq]
  · simp [fresh.length_eq]

theorem finish_of_awaitingVerdict {transfer : WriteTransfer}
    (phase : transfer.phase = .awaitingVerdict) (frame : Bytes) :
    (transfer.finish frame).1 = verdict frame := by
  simp only [finish, phase, if_pos]
  cases verdict frame <;> rfl

/-- **The verdict on a write**: an acknowledgement, the fault of the device, or a breach of the
protocol. -/
theorem verdict_cases (frame : Bytes) :
    (Response.decode frame = .ok .ok ∧ verdict frame = .ok ()) ∨
      (∃ fault, Response.decode frame = .ok (.error fault) ∧
        verdict frame = .error (.device fault)) ∨
      (Response.decode frame ≠ .ok .ok ∧
        (∀ fault, Response.decode frame ≠ .ok (.error fault)) ∧
        ∃ error, verdict frame = .error (.protocol error)) := by
  unfold verdict
  cases decoded : Response.decode frame with
  | error error =>
      refine .inr (.inr ⟨nofun, nofun, ?_⟩)
      cases error with
      | device fault => exact absurd decoded (Response.decode_ne_device frame fault)
      | _ => exact ⟨_, rfl⟩
  | ok response =>
      cases response with
      | ok => exact .inl ⟨rfl, rfl⟩
      | error fault => exact .inr (.inl ⟨fault, rfl, rfl⟩)
      | _ => exact .inr (.inr ⟨nofun, nofun, _, rfl⟩)

end Transfer.WriteTransfer

namespace Config

open Wire

theorem toPayload_eq_ok_iff {document : Json} {payload : Bytes} :
    toPayload document = .ok payload ↔
      payload = Text.Utf8.encode document.compact ∧
        ∃ count, checkPayload payload = .ok count := by
  dsimp only [toPayload]
  cases checked : checkPayload (Text.Utf8.encode document.compact) with
  | error error =>
      simp only [reduceCtorEq, false_iff, not_and, not_exists]
      rintro rfl count accepted
      rw [checked] at accepted
      cases accepted
  | ok count =>
      simp only [Except.ok.injEq]
      constructor
      · rintro rfl
        exact ⟨rfl, count, checked⟩
      · rintro ⟨rfl, -⟩
        rfl

end Config

end ControlLink
