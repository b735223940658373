/-
# ControlLink.Proofs.Transfer.Intake — a read under calls in any order

The progress of a read is held twice: its phase counts the blocks that are to come, and its assembler
those that have come. Under no calls, in any order and with any frames, do the two disagree. What
decides is which calls changed the transfer (`changes`): from them it is known how far the read has
come (`Stage`), unless it has failed, which is for good.

So a read yields a payload exactly if the calls that changed it were those of an undisturbed read:
the start, an accepted header and as many blocks as the header announces (`taken_in`).
-/
import ControlLink.Proofs.Transfer.Dispatch
import ControlLink.Proofs.Transfer.Read
import ControlLink.Proofs.Wire.Response

namespace ControlLink.Transfer

set_option autoImplicit false

open Wire

deriving instance DecidableEq for Assembler
deriving instance DecidableEq for ReadTransfer

namespace ReadTransfer

/-- A call of one step of a transfer. -/
inductive Call where
  | start
  | header (frame : Bytes)
  | block (frame : Bytes)
  | fail
deriving DecidableEq

/-- What a call gives back. -/
inductive Answer where
  | start (outcome : Except Failure Command)
  | header (outcome : Except Failure BlockCount)
  | block (outcome : Except Failure Unit)
  | fail

namespace Answer

/-- The transfer has been opened. -/
def opens : Answer → Bool
  | start (.ok _) => true
  | _ => false

/-- The failure that is reported. -/
def failure? : Answer → Option Failure
  | start (.error failure) | header (.error failure) | block (.error failure) => some failure
  | _ => none

end Answer

def step (transfer : ReadTransfer) : Call → Answer × ReadTransfer
  | .start => (.start transfer.start.1, transfer.start.2)
  | .header frame => (.header (transfer.header frame).1, (transfer.header frame).2)
  | .block frame => (.block (transfer.block frame).1, (transfer.block frame).2)
  | .fail => (.fail, transfer.fail)

/-- The answers to calls in order, and the transfer behind the last. -/
def run (transfer : ReadTransfer) (calls : List Call) : List Answer × ReadTransfer :=
  runCalls step transfer calls

/-- Those of the calls that do not leave the transfer as it was. -/
def changes (transfer : ReadTransfer) : List Call → List Call
  | [] => []
  | call :: calls =>
    if (transfer.step call).2 = transfer then transfer.changes calls
    else call :: (transfer.step call).2.changes calls

/-- Only the calls that change a transfer matter for what becomes of it. -/
theorem run_changes (transfer : ReadTransfer) (calls : List Call) :
    (transfer.run (transfer.changes calls)).2 = (transfer.run calls).2 := by
  induction calls generalizing transfer with
  | nil => rfl
  | cons call calls ih =>
      by_cases same : (transfer.step call).2 = transfer
      · rw [changes, if_pos same, ih]
        show _ = (run (transfer.step call).2 calls).2
        rw [same]
      · rw [changes, if_neg same]
        exact ih (transfer.step call).2

/-! ## What a call does -/

/-- The moves of a transfer under a call, with the answer to it. -/
inductive Moves (transfer : ReadTransfer) : Call → Answer → ReadTransfer → Prop where
  | opens (fresh : transfer = {}) :
      Moves transfer .start (.start (.ok .readConfig)) { phase := .awaitingHeader }
  | heads {frame : Bytes} {count : BlockCount} (waits : transfer.phase = .awaitingHeader)
      (accepted : announced frame = .ok count) :
      Moves transfer (.header frame) (.header (.ok count)) (opened count)
  | takes {frame : Bytes} {left : Nat} {assembler : Assembler}
      (waits : transfer.phase = .awaitingBlocks left)
      (taken : pushed transfer.assembler frame = .ok assembler) :
      Moves transfer (.block frame) (.block (.ok ()))
        { assembler := some assembler, phase := awaiting (left - 1) .idle }
  | fails {call : Call} {answer : Answer} (refused : answer.opens = false) :
      Moves transfer call answer transfer.fail
  | stays {call : Call} {answer : Answer} (refused : answer.opens = false) :
      Moves transfer call answer transfer

/-- A block is taken where one is awaited, or it fails the transfer. -/
theorem block_cases (transfer : ReadTransfer) (frame : Bytes) :
    (∃ left assembler, transfer.phase = .awaitingBlocks left ∧
        pushed transfer.assembler frame = .ok assembler ∧ transfer.block frame =
          (.ok (), { assembler := some assembler, phase := awaiting (left - 1) .idle })) ∨
      (transfer.block frame).2 = transfer.fail ∧
        ((∃ left, transfer.phase = .awaitingBlocks left) ∨
          (transfer.block frame).1 = .error (outOfSequence .block transfer.phase)) := by
  unfold block
  split
  · rename_i left waits
    cases taken : pushed transfer.assembler frame with
    | ok assembler => exact .inl ⟨left, assembler, waits, rfl, rfl⟩
    | error error => exact .inr ⟨rfl, .inl ⟨left, waits⟩⟩
  · exact .inr ⟨rfl, .inr rfl⟩

theorem moves_step (transfer : ReadTransfer) (call : Call) :
    transfer.Moves call (transfer.step call).1 (transfer.step call).2 := by
  cases call with
  | start =>
      obtain ⟨assembler, phase⟩ := transfer
      by_cases fresh : phase = .idle ∧ assembler = none
      · obtain ⟨rfl, rfl⟩ := fresh
        exact .opens rfl
      · have refused : ¬ (phase = .idle ∧ assembler.isNone) := by simpa using fresh
        simp only [step, start, if_neg refused]
        exact .stays rfl
  | header frame =>
      by_cases waits : transfer.phase = .awaitingHeader
      · cases accepted : announced frame with
        | ok count =>
            have heads := Moves.heads waits accepted
            simpa [step, header_of_announced waits accepted] using heads
        | error failure =>
            simp only [step, header_of_refused waits accepted]
            exact .fails rfl
      · simp only [step, header, if_neg waits]
        exact .fails rfl
  | block frame =>
      obtain ⟨left, assembler, waits, taken, took⟩ | ⟨failed, -⟩ := transfer.block_cases frame
      · simp only [step, took]
        exact .takes waits taken
      · simp only [step, failed]
        exact .fails rfl
  | fail => exact .fails rfl

/-! ## How far a read has come -/

/-- A transfer that these calls have changed, and no others. -/
inductive Stage (transfer : ReadTransfer) : List Call → Prop where
  | fresh (new : transfer = {}) : Stage transfer []
  | asked (waits : transfer = { phase := .awaitingHeader }) : Stage transfer [.start]
  | holding {header : Bytes} {count : BlockCount} {frames : List Bytes}
      (accepted : announced header = .ok count) (within : frames.length ≤ count.val)
      (short : ∀ frame ∈ frames, frame.length ≤ blockSize)
      (held : transfer.Holding count frames) :
      Stage transfer (.start :: .header header :: frames.map .block)
  | failed {taken : List Call} (gone : transfer.phase = .failed) : Stage transfer taken

/-- A read that awaits blocks holds the ones before them. -/
theorem Stage.holding_of_awaiting {transfer : ReadTransfer} {taken : List Call}
    (stage : transfer.Stage taken) {left : Nat} (waits : transfer.phase = .awaitingBlocks left) :
    ∃ header count, ∃ frames : List Bytes,
      taken = .start :: .header header :: frames.map .block ∧ announced header = .ok count ∧
        (∀ frame ∈ frames, frame.length ≤ blockSize) ∧ transfer.Holding count frames ∧
        frames.length < count.val := by
  cases stage with
  | fresh new => simp [new] at waits
  | asked asks => simp [asks] at waits
  | failed gone => simp [gone] at waits
  | @holding header count frames accepted within short held =>
      obtain ⟨some_left, total⟩ := (held.awaiting_iff left).1 waits
      exact ⟨header, count, frames, rfl, accepted, short, held, by omega⟩

/-- A frame that is taken is short enough, and is held behind the others. -/
theorem Holding.takes {transfer : ReadTransfer} {count : BlockCount} {frames : List Bytes}
    (held : transfer.Holding count frames) {left : Nat} (waits : transfer.phase = .awaitingBlocks left)
    {frame : Bytes} {assembler : Assembler}
    (taken : pushed transfer.assembler frame = .ok assembler) :
    frame.length ≤ blockSize ∧
      Holding { assembler := some assembler, phase := awaiting (left - 1) .idle } count
        (frames ++ [frame]) := by
  have room : frames.length < count.val := by
    obtain ⟨some_left, total⟩ := (held.awaiting_iff left).1 waits
    omega
  have small : frame.length ≤ blockSize := by
    by_contra large
    rw [(held.pushed_eq room frame).1 (Nat.lt_of_not_le large)] at taken
    cases taken
  refine ⟨small, ?_⟩
  have next := (block_of_holding held room small).2
  simpa only [block, waits, taken] using next

/-- **What a move that changes a read makes of it.** -/
theorem Stage.move {transfer next : ReadTransfer} {taken : List Call} {call : Call}
    {answer : Answer} (stage : transfer.Stage taken) (moves : transfer.Moves call answer next)
    (changed : next ≠ transfer) : next.Stage (taken ++ [call]) := by
  cases moves with
  | opens fresh =>
      subst fresh
      cases stage with
      | fresh _ => exact .asked rfl
      | asked waits => cases waits
      | holding _ _ _ held => obtain ⟨_, held, -, -⟩ := held.assembled; cases held
      | failed gone => cases gone
  | heads waits accepted =>
      cases stage with
      | fresh new => simp [new] at waits
      | asked _ => exact .holding accepted (Nat.zero_le _) (List.forall_mem_nil _) (opened_holding _)
      | holding _ _ _ held =>
          rw [held.phase_eq, awaiting] at waits
          split at waits <;> cases waits
      | failed gone => simp [gone] at waits
  | @takes frame left assembler waits accepted =>
      obtain ⟨header, count, frames, rfl, announces, short, held, room⟩ :=
        stage.holding_of_awaiting waits
      obtain ⟨small, holds⟩ := held.takes waits accepted
      have whole : Call.start :: .header header :: frames.map .block ++ [.block frame] =
          .start :: .header header :: (frames ++ [frame]).map .block := by simp
      rw [whole]
      refine .holding announces ?_ ?_ holds
      · rw [List.length_append, List.length_singleton]
        omega
      · intro other member
        rcases List.mem_append.1 member with before | last
        · exact short other before
        · rw [List.mem_singleton.1 last]
          exact small
  | fails _ => exact .failed rfl
  | stays _ => exact absurd rfl changed

theorem Stage.run {transfer : ReadTransfer} {taken : List Call} (stage : transfer.Stage taken)
    (calls : List Call) : (transfer.run calls).2.Stage (taken ++ transfer.changes calls) := by
  induction calls generalizing transfer taken with
  | nil => simpa [changes, ReadTransfer.run, runCalls] using stage
  | cons call calls ih =>
      show ((transfer.step call).2.run calls).2.Stage _
      by_cases same : (transfer.step call).2 = transfer
      · rw [changes, if_pos same, same]
        exact ih stage
      · rw [changes, if_neg same]
        have later := ih (stage.move (transfer.moves_step call) same)
        simpa using later

/-! ## No call finds the progress of a read in two minds -/

/-- The failures that say that the phase of a read and its assembler disagree. -/
inductive Discord : Failure → Prop where
  | blockBeforeHeader : Discord (.protocol (.invalidData .blockBeforeHeader))
  | surplusBlock (number expected : Nat) :
      Discord (.protocol (.invalidData (.surplusBlock number expected)))
  | missingBlocks (received expected : Nat) :
      Discord (.protocol (.invalidData (.missingBlocks received expected)))

theorem not_discord_outOfSequence (step : Step) (phase : Phase) :
    ¬ Discord (outOfSequence step phase) := by
  rintro ⟨⟩

theorem not_discord_announced {frame : Bytes} {failure : Failure}
    (refused : announced frame = .error failure) : ¬ Discord failure := by
  intro discord
  unfold announced BlockCount.ofNat at refused
  cases decoded : Response.decode frame with
  | error error =>
      rw [decoded] at refused
      cases Response.decode_eq_error_iff.1 decoded <;> cases refused <;> cases discord
  | ok response =>
      rw [decoded] at refused
      cases response with
      | config blocks =>
          by_cases within : blocks.toNat ≤ blockLimit
          · simp [within] at refused
          · simp only [dif_neg within] at refused
            cases refused
            cases discord
      | _ => cases refused; cases discord

/-- **A read reports no failure in which its phase and its assembler disagree.** -/
theorem Stage.concord {transfer : ReadTransfer} {taken : List Call} (stage : transfer.Stage taken)
    (call : Call) {failure : Failure}
    (reported : (transfer.step call).1.failure? = some failure) : ¬ Discord failure := by
  cases call with
  | start =>
      simp only [ReadTransfer.step, start] at reported
      split at reported <;> cases reported
      exact not_discord_outOfSequence _ _
  | header frame =>
      simp only [ReadTransfer.step, header] at reported
      split at reported
      · cases accepted : announced frame with
        | ok count => simp [accepted, Answer.failure?] at reported
        | error failure =>
            simp only [accepted, Answer.failure?, Option.some.injEq] at reported
            subst reported
            exact not_discord_announced accepted
      · cases reported
        exact not_discord_outOfSequence _ _
  | block frame =>
      simp only [ReadTransfer.step] at reported
      obtain ⟨_, _, -, -, took⟩ | ⟨-, ⟨left, waits⟩ | misplaced⟩ := transfer.block_cases frame
      · simp [took, Answer.failure?] at reported
      · obtain ⟨_, count, frames, -, -, -, held, room⟩ := stage.holding_of_awaiting waits
        by_cases fits : frame.length ≤ blockSize
        · simp [(block_of_holding held room fits).1, Answer.failure?] at reported
        · rw [block_of_oversize held room (Nat.lt_of_not_le fits)] at reported
          cases reported
          rintro ⟨⟩
      · rw [misplaced] at reported
        cases reported
        exact not_discord_outOfSequence _ _
  | fail => cases reported

/-- **The phase of a read and its assembler agree** on the number of blocks that are missing. -/
theorem Stage.awaiting_iff {transfer : ReadTransfer} {taken : List Call}
    (stage : transfer.Stage taken) (left : Nat) :
    transfer.phase = .awaitingBlocks left ↔ transfer.phase ≠ .failed ∧ 1 ≤ left ∧
      ∃ assembler, transfer.assembler = some assembler ∧
        assembler.received + left = assembler.expected.val := by
  cases stage with
  | fresh new => simp [new]
  | asked asks => simp [asks]
  | failed gone => simp [gone]
  | @holding header count frames _ _ _ held =>
      have sound : transfer.phase ≠ .failed := by
        rw [held.phase_eq, awaiting]
        split <;> simp
      rw [held.awaiting_iff]
      obtain ⟨-, assembler, assembled, expected, blocks⟩ := held
      simp [sound, assembled, Assembler.received, expected, blocks]

/-- What a read yields is known by the calls that have changed it. -/
theorem Stage.finish_cases {transfer : ReadTransfer} {taken : List Call}
    (stage : transfer.Stage taken) :
    (∃ header count, ∃ frames : List Bytes,
        taken = .start :: .header header :: frames.map .block ∧
        announced header = .ok count ∧ frames.length = count.val ∧
        (∀ frame ∈ frames, frame.length ≤ blockSize) ∧
        transfer.finish =
          .ok (payloadOf (frames.flatMap fun frame => (Block.ofBytes frame).bytes))) ∨
      transfer.finish = .error (outOfSequence .finish transfer.phase) := by
  cases stage with
  | fresh new => exact .inr (by rw [new]; rfl)
  | asked asks => exact .inr (by rw [asks]; rfl)
  | failed gone => exact .inr (by simp [finish, gone])
  | @holding header count frames accepted within short held =>
      by_cases complete : frames.length = count.val
      · exact .inl ⟨header, count, frames, rfl, accepted, complete, short,
          finish_of_holding held complete⟩
      · have waits : transfer.phase = .awaitingBlocks (count.val - frames.length) :=
          (held.awaiting_iff _).2 (by omega)
        exact .inr (by simp [finish, waits])

/-- Blocks that are missing and fit are all taken. -/
theorem run_blocks {transfer : ReadTransfer} {count : BlockCount} {taken : List Bytes}
    (held : transfer.Holding count taken) (frames : List Bytes)
    (room : taken.length + frames.length ≤ count.val)
    (fits : ∀ frame ∈ frames, frame.length ≤ blockSize) :
    (transfer.run (frames.map .block)).2.Holding count (taken ++ frames) := by
  induction frames generalizing transfer taken with
  | nil => simpa [ReadTransfer.run, runCalls] using held
  | cons frame frames ih =>
      obtain ⟨first, others⟩ := List.forall_mem_cons.1 fits
      rw [List.length_cons] at room
      have next := (block_of_holding held (by omega) first).2
      have rest := ih next (by rw [List.length_append, List.length_singleton]; omega) others
      rwa [List.append_assoc, List.singleton_append] at rest

/-- An undisturbed read yields the payload inside its blocks. -/
theorem finish_of_undisturbed {header : Bytes} {count : BlockCount} {frames : List Bytes}
    (accepted : announced header = .ok count) (complete : frames.length = count.val)
    (fits : ∀ frame ∈ frames, frame.length ≤ blockSize) :
    (ReadTransfer.run {} (.start :: .header header :: frames.map .block)).2.finish =
      .ok (payloadOf (frames.flatMap fun frame => (Block.ofBytes frame).bytes)) := by
  have opens : (ReadTransfer.step {} .start).2 = { phase := .awaitingHeader } := rfl
  have heads : (ReadTransfer.step { phase := .awaitingHeader } (.header header)).2 = opened count := by
    rw [ReadTransfer.step, header_of_announced rfl accepted]
  have held := run_blocks (opened_holding count) frames (by simp [complete]) fits
  show ((ReadTransfer.step (ReadTransfer.step {} .start).2 (.header header)).2.run
    (frames.map .block)).2.finish = _
  rw [opens, heads]
  exact finish_of_holding held complete

/-- A read is opened at most once. -/
theorem opens_le_one (calls : List Call) :
    (ReadTransfer.run {} calls).1.countP Answer.opens ≤ 1 := by
  refine (runCalls_keeps ReadTransfer.step moves_step
    (fun answers now => answers.countP Answer.opens ≤ 1 ∧
      (now = {} → answers.countP Answer.opens = 0))
    ?_ {} ⟨Nat.zero_le 1, fun _ => rfl⟩ calls).1
  rintro answers now call answer next moves ⟨atMost, unopened⟩
  cases moves with
  | opens fresh => simp [unopened fresh, Answer.opens]
  | heads waits accepted => simpa [Answer.opens, opened] using atMost
  | takes waits taken => simpa [Answer.opens] using atMost
  | fails refused => simpa [refused, ReadTransfer.fail] using atMost
  | stays refused => simpa [refused] using And.intro atMost unopened

/-- A failed read stays failed. -/
theorem failed_run {transfer : ReadTransfer} (failed : transfer.phase = .failed)
    (calls : List Call) : (transfer.run calls).2.phase = .failed := by
  refine runCalls_keeps ReadTransfer.step moves_step (fun _ now => now.phase = .failed)
    ?_ transfer failed calls
  intro answers now call answer next moves gone
  cases moves with
  | opens fresh => simp [fresh] at gone
  | heads waits _ => simp [gone] at waits
  | takes waits _ => simp [gone] at waits
  | fails _ => rfl
  | stays _ => exact gone

/-! ## What a read yields -/

/-- **A read yields what an undisturbed read yields, and nothing else**, whatever is called on it. It
is opened at most once. Its phase awaits blocks exactly if it has not failed and its assembler misses
that many, so neither counter runs below zero and no failure tells that they disagree. A failed read
stays failed. It yields a payload exactly if the calls that changed it are the start, one header that
announces at most 64 blocks, and that many blocks of at most 64 bytes; the payload is what the blocks
carry, each filled up with zeros, in front of the first byte that is zero or above 0xF4. -/
theorem taken_in (calls : List Call) :
    let answers := (ReadTransfer.run {} calls).1
    let now := (ReadTransfer.run {} calls).2
    answers.countP Answer.opens ≤ 1 ∧
      (∀ left, now.phase = .awaitingBlocks left ↔ now.phase ≠ .failed ∧ 1 ≤ left ∧
        ∃ assembler, now.assembler = some assembler ∧
          assembler.received + left = assembler.expected.val) ∧
      (∀ call failure, (now.step call).1.failure? = some failure → ¬ Discord failure) ∧
      (∀ failure, now.finish = .error failure → ¬ Discord failure) ∧
      (now.phase = .failed → ∀ more, (now.run more).2.phase = .failed) ∧
      ∀ payload, now.finish = .ok payload ↔ ∃ header blocks, ∃ frames : List Bytes,
        changes {} calls = .start :: .header header :: frames.map .block ∧
          Response.decode header = .ok (.config blocks) ∧ blocks.toNat ≤ 64 ∧
          frames.length = blocks.toNat ∧ (∀ frame ∈ frames, frame.length ≤ 64) ∧
          payload = (frames.flatMap (Bytes.padTo 64)).takeWhile fun byte =>
            byte != 0 && byte ≤ 0xF4 := by
  intro answers now
  have stage : now.Stage (changes {} calls) := Stage.run (.fresh rfl) calls
  refine ⟨opens_le_one calls, stage.awaiting_iff, fun call _ => stage.concord call, ?_,
    failed_run, fun payload => ⟨?_, ?_⟩⟩
  · intro failure lost
    obtain ⟨_, _, _, -, -, -, -, yields⟩ | misplaced := stage.finish_cases
    · simp [yields] at lost
    · rw [misplaced] at lost
      cases lost
      exact not_discord_outOfSequence _ _
  · intro yielded
    obtain ⟨header, count, frames, changed, accepted, complete, small, yields⟩ | misplaced :=
      stage.finish_cases
    · obtain ⟨blocks, decoded, number⟩ := announced_eq_ok_iff.1 accepted
      rw [yields, payloadOf_frames small] at yielded
      exact ⟨header, blocks, frames, changed, decoded, number ▸ count.le_limit,
        complete.trans number, small, (Except.ok.inj yielded).symm⟩
    · simp [misplaced] at yielded
  · rintro ⟨header, blocks, frames, changed, decoded, within, complete, small, rfl⟩
    have accepted : announced header = .ok ⟨blocks.toNat, within⟩ :=
      announced_eq_ok_iff.2 ⟨blocks, decoded, rfl⟩
    have same : (ReadTransfer.run {} (changes {} calls)).2 = now := run_changes {} calls
    rw [← same, changed, finish_of_undisturbed accepted complete small, payloadOf_frames small]

/-- A read that is started again and again still yields what its two blocks carry. -/
theorem taken_in_restarted :
    let calls : List Call := [.start, .start, .header [0x72, 0x02], .start,
      .block (List.replicate 64 0x61), .start, .block [0x62, 0xF5, 0x63], .start]
    (ReadTransfer.run {} calls).2.finish = .ok (List.replicate 64 0x61 ++ [0x62]) := by
  intro calls
  refine ((taken_in calls).2.2.2.2.2 _).2
    ⟨[0x72, 0x02], 2, [List.replicate 64 0x61, [0x62, 0xF5, 0x63]], ?_, rfl, ?_, rfl, ?_, ?_⟩
  · decide +kernel
  · decide
  · decide
  · decide

end ReadTransfer

end ControlLink.Transfer
