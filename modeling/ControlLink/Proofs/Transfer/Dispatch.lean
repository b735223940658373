/-
# ControlLink.Proofs.Transfer.Dispatch — a write under calls in any order

The owner of a transfer may call its steps in any order and with any frames. A call opens the
transfer, hands out a block or confirms the write; else it leaves the transfer as it is or fails it
(`Moves`). So after any calls (`Sound`) the blocks handed out are the first ones of the payload, and
a transfer that awaits a number of blocks has exactly that number left. A confirmed write has handed
out all its blocks, and a failed transfer stays failed (`dispatched`).

A transfer tells that it has been used by the blocks that it has handed out. A transfer without
blocks has none to tell it by: once confirmed it may be opened again. All others are used once
(`used_once_iff`).
-/
import ControlLink.Proofs.Transfer.Write

namespace ControlLink.Transfer

set_option autoImplicit false

open Wire

/-! ## Calls one after another -/

section Calls

variable {State Call Answer : Type} (step : State → Call → Answer × State)

/-- The answers to calls in order, and the state behind the last. -/
def runCalls (state : State) : List Call → List Answer × State
  | [] => ([], state)
  | call :: calls =>
    ((step state call).1 :: (runCalls (step state call).2 calls).1,
      (runCalls (step state call).2 calls).2)

/-- **What every move keeps holds after any calls**, where each call makes a move. -/
theorem runCalls_keeps {Moves : State → Call → Answer → State → Prop}
    (moves : ∀ state call, Moves state call (step state call).1 (step state call).2)
    (Holds : List Answer → State → Prop)
    (keeps : ∀ answers state call answer next, Moves state call answer next →
      Holds answers state → Holds (answers ++ [answer]) next)
    (state : State) (holds : Holds [] state) (calls : List Call) :
    Holds (runCalls step state calls).1 (runCalls step state calls).2 := by
  have further (answers : List Answer) (before : Holds answers state) :
      Holds (answers ++ (runCalls step state calls).1) (runCalls step state calls).2 := by
    clear holds
    induction calls generalizing answers state with
    | nil => simpa [runCalls] using before
    | cons call calls ih =>
        have after := keeps answers state call _ _ (moves state call) before
        have later := ih _ _ after
        simpa [runCalls] using later
  exact further [] holds

end Calls

namespace WriteTransfer

/-- A call of one step of a transfer. -/
inductive Call where
  | start
  | nextBlock
  | finish (frame : Bytes)
  | fail

/-- What a call gives back. -/
inductive Answer where
  | start (outcome : Except Failure Command)
  | nextBlock (block : Option Block)
  | finish (outcome : Except Failure Unit)
  | fail

namespace Answer

/-- The block that is handed out. -/
def block? : Answer → Option Block
  | nextBlock block => block
  | _ => none

/-- The transfer has been opened. -/
def opens : Answer → Bool
  | start (.ok _) => true
  | _ => false

/-- The write has been confirmed. -/
def confirms : Answer → Bool
  | finish (.ok _) => true
  | _ => false

/-- Nothing is handed out, opened or confirmed. -/
def isVoid (answer : Answer) : Bool :=
  answer.block?.isNone && !answer.opens && !answer.confirms

theorem isVoid_iff (answer : Answer) :
    answer.isVoid = true ↔
      answer.block? = none ∧ answer.opens = false ∧ answer.confirms = false := by
  simp [isVoid, and_assoc]

end Answer

def step (transfer : WriteTransfer) : Call → Answer × WriteTransfer
  | .start => (.start transfer.start.1, transfer.start.2)
  | .nextBlock => (.nextBlock transfer.nextBlock.1, transfer.nextBlock.2)
  | .finish frame => (.finish (transfer.finish frame).1, (transfer.finish frame).2)
  | .fail => (.fail, transfer.fail)

/-- The answers to calls in order, and the transfer behind the last. -/
def run (transfer : WriteTransfer) (calls : List Call) : List Answer × WriteTransfer :=
  runCalls step transfer calls

/-! ## What a call does -/

/-- The moves of a transfer under a call, with the answer to it. -/
inductive Moves (transfer : WriteTransfer) : Call → Answer → WriteTransfer → Prop where
  | opens (idle : transfer.phase = .idle) (unused : transfer.handedOut = 0) :
      Moves transfer .start (.start (.ok (.writeConfig transfer.count)))
        { transfer with phase := awaiting transfer.count.val .awaitingVerdict }
  | hands {left : Nat} {block : Block} (waits : transfer.phase = .awaitingBlocks left)
      (found : transfer.blocks[transfer.handedOut]? = some block) :
      Moves transfer .nextBlock (.nextBlock (some block))
        { transfer with
          handedOut := transfer.handedOut + 1
          phase := awaiting (left - 1) .awaitingVerdict }
  | confirms {frame : Bytes} (waits : transfer.phase = .awaitingVerdict)
      (told : Response.decode frame = .ok .ok) :
      Moves transfer (.finish frame) (.finish (.ok ())) { transfer with phase := .idle }
  | fails {call : Call} {answer : Answer} (nothing : answer.isVoid = true) :
      Moves transfer call answer transfer.fail
  | stays {call : Call} {answer : Answer} (nothing : answer.isVoid = true) :
      Moves transfer call answer transfer

theorem verdict_eq_ok_iff {frame : Bytes} :
    verdict frame = .ok () ↔ Response.decode frame = .ok .ok := by
  obtain ⟨told, verdict⟩ | ⟨fault, told, verdict⟩ | ⟨told, -, error, verdict⟩ := verdict_cases frame <;>
    simp [told, verdict]

theorem moves_step (transfer : WriteTransfer) (call : Call) :
    transfer.Moves call (transfer.step call).1 (transfer.step call).2 := by
  cases call with
  | start =>
      by_cases fresh : transfer.phase = .idle ∧ transfer.handedOut = 0
      · have opened := Moves.opens fresh.1 fresh.2
        simpa [step, start, fresh] using opened
      · simp only [step, start, if_neg fresh]
        exact .stays rfl
  | nextBlock =>
      simp only [step, nextBlock]
      split
      · rename_i left block waits found
        exact .hands waits found
      · exact .stays rfl
  | finish frame =>
      by_cases waits : transfer.phase = .awaitingVerdict
      · simp only [step, finish, if_pos waits]
        cases told : verdict frame with
        | ok _ => exact .confirms waits (verdict_eq_ok_iff.1 told)
        | error failure => exact .fails rfl
      · simp only [step, finish, if_neg waits]
        exact .fails rfl
  | fail => exact .fails rfl

/-! ## How far a transfer has come -/

/-- The phase of a transfer that has been opened and confirmed so many times. Only a transfer without
blocks is opened more than once. -/
inductive Stage (transfer : WriteTransfer) : Nat → Nat → Prop where
  | fresh (idle : transfer.phase = .idle) (unused : transfer.handedOut = 0) : Stage transfer 0 0
  | handing (left : Nat) (waits : transfer.phase = .awaitingBlocks left) (some_left : 1 ≤ left)
      (total : transfer.handedOut + left = transfer.count.val) : Stage transfer 1 0
  | judged {confirmed : Nat} (waits : transfer.phase = .awaitingVerdict)
      (all : transfer.handedOut = transfer.count.val)
      (once : transfer.count.val = 0 ∨ confirmed = 0) : Stage transfer (confirmed + 1) confirmed
  | complete {confirmed : Nat} (idle : transfer.phase = .idle)
      (all : transfer.handedOut = transfer.count.val)
      (once : transfer.count.val = 0 ∨ confirmed = 1) : Stage transfer confirmed confirmed
  | failed {opened confirmed : Nat} (gone : transfer.phase = .failed)
      (within : transfer.handedOut ≤ transfer.count.val)
      (paired : confirmed ≤ opened ∧ opened ≤ confirmed + 1)
      (once : transfer.count.val = 0 ∨ opened ≤ 1) : Stage transfer opened confirmed

namespace Stage

variable {transfer : WriteTransfer} {opened confirmed : Nat}

/-- A transfer is confirmed at most as often as it is opened, and before it is opened again. -/
theorem paired (stage : transfer.Stage opened confirmed) :
    confirmed ≤ opened ∧ opened ≤ confirmed + 1 := by
  cases stage with
  | failed _ _ paired _ => exact paired
  | _ => omega

theorem once (stage : transfer.Stage opened confirmed) :
    transfer.count.val = 0 ∨ opened ≤ 1 := by
  cases stage with
  | failed _ _ _ once => exact once
  | _ => omega

theorem handedOut_le (stage : transfer.Stage opened confirmed) :
    transfer.handedOut ≤ transfer.count.val := by
  cases stage with
  | failed _ within _ _ => exact within
  | _ => omega

/-- So many blocks may be awaited only where so many are left, and only the first time. -/
theorem left_of_awaiting (stage : transfer.Stage opened confirmed) {left : Nat}
    (waits : transfer.phase = .awaitingBlocks left) :
    opened = 1 ∧ confirmed = 0 ∧ 1 ≤ left ∧ transfer.handedOut + left = transfer.count.val := by
  cases stage <;> simp_all

theorem all_of_judged (stage : transfer.Stage opened confirmed)
    (waits : transfer.phase = .awaitingVerdict) :
    transfer.handedOut = transfer.count.val ∧ opened = confirmed + 1 ∧
      (transfer.count.val = 0 ∨ confirmed = 0) := by
  cases stage <;> simp_all

theorem fail (stage : transfer.Stage opened confirmed) : transfer.fail.Stage opened confirmed :=
  .failed rfl stage.handedOut_le stage.paired stage.once

/-- Opening a transfer that has handed out nothing. -/
theorem opens (stage : transfer.Stage opened confirmed) (idle : transfer.phase = .idle)
    (unused : transfer.handedOut = 0) :
    Stage { transfer with phase := awaiting transfer.count.val .awaitingVerdict }
      (opened + 1) confirmed := by
  have before : opened = confirmed ∧ (transfer.count.val = 0 ∨ opened = 0) := by
    cases stage <;> simp_all
  obtain ⟨rfl, once⟩ := before
  by_cases none_left : transfer.count.val = 0
  · exact .judged (by simp [awaiting, none_left]) (by simp [unused, none_left]) (.inl none_left)
  · obtain rfl : opened = 0 := by omega
    refine .handing transfer.count.val (by simp [awaiting, none_left]) ?_ ?_
    · omega
    · simp [unused]

/-- Handing out the next of the blocks that are left. -/
theorem hands (stage : transfer.Stage opened confirmed) {left : Nat}
    (waits : transfer.phase = .awaitingBlocks left) :
    Stage { transfer with
      handedOut := transfer.handedOut + 1
      phase := awaiting (left - 1) .awaitingVerdict } opened confirmed := by
  obtain ⟨rfl, rfl, some_left, total⟩ := stage.left_of_awaiting waits
  by_cases last : left - 1 = 0
  · refine .judged (by simp [awaiting, last]) ?_ (.inr rfl)
    simp only
    omega
  · refine .handing (left - 1) (by simp [awaiting, last]) ?_ ?_
    · omega
    · simp only
      omega

/-- Confirming a write. -/
theorem confirms (stage : transfer.Stage opened confirmed)
    (waits : transfer.phase = .awaitingVerdict) :
    Stage { transfer with phase := .idle } opened (confirmed + 1) := by
  obtain ⟨all, rfl, once⟩ := stage.all_of_judged waits
  exact .complete rfl all (by simpa using once)

end Stage

/-- What holds of a transfer after calls with these answers. -/
structure Sound (blocks : List Block) (answers : List Answer) (transfer : WriteTransfer) : Prop where
  blocks_eq : transfer.blocks = blocks
  length_eq : transfer.blocks.length = transfer.count.val
  handed : answers.filterMap Answer.block? = blocks.take transfer.handedOut
  stage : transfer.Stage (answers.countP Answer.opens) (answers.countP Answer.confirms)

theorem Sound.of_fresh {transfer : WriteTransfer} (fresh : transfer.Fresh) :
    transfer.Sound transfer.blocks [] where
  blocks_eq := rfl
  length_eq := fresh.length_eq
  handed := by simp [fresh.none_out]
  stage := .fresh fresh.idle fresh.none_out

/-- An answer without a block, an opening or a confirmation tells nothing of how far a transfer has
come. -/
theorem Sound.of_void {blocks : List Block} {answers : List Answer} {transfer next : WriteTransfer}
    {answer : Answer} (sound : transfer.Sound blocks answers) (nothing : answer.isVoid = true)
    (kept : next.blocks = transfer.blocks ∧ next.count = transfer.count ∧
      next.handedOut = transfer.handedOut)
    (stage : next.Stage (answers.countP Answer.opens) (answers.countP Answer.confirms)) :
    next.Sound blocks (answers ++ [answer]) := by
  obtain ⟨blocks_eq, count_eq, handedOut_eq⟩ := kept
  obtain ⟨no_block, no_opening, no_confirmation⟩ := answer.isVoid_iff.1 nothing
  refine ⟨blocks_eq.trans sound.blocks_eq, ?_, ?_, ?_⟩
  · rw [blocks_eq, count_eq, sound.length_eq]
  · simp [no_block, handedOut_eq, sound.handed]
  · simpa [no_opening, no_confirmation] using stage

/-- **What one move keeps.** -/
theorem Sound.move {blocks : List Block} {answers : List Answer} {transfer next : WriteTransfer}
    {call : Call} {answer : Answer} (sound : transfer.Sound blocks answers)
    (moves : transfer.Moves call answer next) : next.Sound blocks (answers ++ [answer]) := by
  cases moves with
  | opens idle unused =>
      refine ⟨sound.blocks_eq, sound.length_eq, ?_, ?_⟩
      · simpa [List.filterMap_cons, Answer.block?] using sound.handed
      · simpa [Answer.opens, Answer.confirms] using sound.stage.opens idle unused
  | hands waits found =>
      rw [sound.blocks_eq] at found
      refine ⟨sound.blocks_eq, sound.length_eq, ?_, ?_⟩
      · simp [Answer.block?, sound.handed, List.take_add_one, found]
      · simpa [Answer.opens, Answer.confirms] using sound.stage.hands waits
  | confirms waits told =>
      refine ⟨sound.blocks_eq, sound.length_eq, ?_, ?_⟩
      · simpa [List.filterMap_cons, Answer.block?] using sound.handed
      · simpa [Answer.opens, Answer.confirms] using sound.stage.confirms waits
  | fails nothing => exact sound.of_void nothing ⟨rfl, rfl, rfl⟩ sound.stage.fail
  | stays nothing => exact sound.of_void nothing ⟨rfl, rfl, rfl⟩ sound.stage

/-- **What holds after any calls** on a transfer made of a payload. -/
theorem sound_run {payload : Bytes} {transfer : WriteTransfer}
    (made : ofPayload payload = .ok transfer) (calls : List Call) :
    (transfer.run calls).2.Sound transfer.blocks (transfer.run calls).1 := by
  obtain ⟨-, -, fresh⟩ := ofPayload_eq_ok_iff.1 made
  exact runCalls_keeps WriteTransfer.step moves_step
    (fun answers now => now.Sound transfer.blocks answers)
    (fun _ _ _ _ _ moves sound => sound.move moves) transfer (Sound.of_fresh fresh) calls

theorem count_run {payload : Bytes} {transfer : WriteTransfer}
    (made : ofPayload payload = .ok transfer) (calls : List Call) :
    (transfer.run calls).2.count.val = transfer.count.val := by
  obtain ⟨-, -, fresh⟩ := ofPayload_eq_ok_iff.1 made
  have sound := sound_run made calls
  rw [← sound.length_eq, sound.blocks_eq, fresh.length_eq]

/-- **A failed transfer stays failed** and gives out nothing. -/
theorem failed_run {transfer : WriteTransfer} (failed : transfer.phase = .failed)
    (calls : List Call) :
    (transfer.run calls).2.phase = .failed ∧
      ∀ answer ∈ (transfer.run calls).1, answer.isVoid = true := by
  refine runCalls_keeps WriteTransfer.step moves_step
    (fun answers now => now.phase = .failed ∧ ∀ answer ∈ answers, answer.isVoid = true)
    ?_ transfer ⟨failed, List.forall_mem_nil _⟩ calls
  rintro answers now call answer next moves ⟨gone, silent⟩
  -- Every move but two needs a phase that is not the failed one.
  cases moves with
  | opens idle _ => simp [gone] at idle
  | hands waits _ => simp [gone] at waits
  | confirms waits _ => simp [gone] at waits
  | fails nothing => simpa [WriteTransfer.fail, or_imp, forall_and, nothing] using silent
  | stays nothing => simpa [or_imp, forall_and, nothing, gone] using silent

/-- A verdict confirms the write only where one is awaited, and fails the transfer otherwise. -/
theorem finish_cases (transfer : WriteTransfer) (frame : Bytes) :
    (transfer.phase = .awaitingVerdict ∧ Response.decode frame = .ok .ok ∧
        (transfer.finish frame).1 = .ok ()) ∨
      (¬ (transfer.phase = .awaitingVerdict ∧ Response.decode frame = .ok .ok) ∧
        (transfer.finish frame).1 ≠ .ok () ∧ (transfer.finish frame).2.phase = .failed) := by
  by_cases waits : transfer.phase = .awaitingVerdict
  · rw [finish, if_pos waits]
    cases told : verdict frame with
    | ok _ => exact .inl ⟨waits, verdict_eq_ok_iff.1 told, rfl⟩
    | error failure =>
        have unconfirmed : Response.decode frame ≠ .ok .ok := by
          apply mt verdict_eq_ok_iff.2
          simp [told]
        exact .inr ⟨fun accepted => unconfirmed accepted.2, by simp, rfl⟩
  · rw [finish, if_neg waits]
    exact .inr ⟨fun accepted => waits accepted.1, by simp, rfl⟩

/-! ## Every block once -/

/-- **A write hands out its blocks in order and each of them once**, whatever is called on it. What
it has handed out are the first blocks of its payload; while it awaits blocks there are exactly that
many left, and the next one is there. A write is confirmed only after it was opened and has handed
out all its blocks, by an acknowledgement; any other verdict fails it. A failed transfer stays failed
and gives out nothing. -/
theorem dispatched {payload : Bytes} {transfer : WriteTransfer}
    (made : ofPayload payload = .ok transfer) (calls : List Call) :
    let answers := (transfer.run calls).1
    let now := (transfer.run calls).2
    ∃ blocks, splitBlocks payload = .ok blocks ∧ blocks.length = transfer.count.val ∧
      answers.filterMap Answer.block? <+: blocks ∧
      (answers.filterMap Answer.block?).length = now.handedOut ∧
      (∀ left, now.phase = .awaitingBlocks left →
        1 ≤ left ∧ now.handedOut + left = transfer.count.val ∧
          ∃ block, now.nextBlock.1 = some block) ∧
      (∀ frame, (now.finish frame).1 = .ok () →
        answers.countP Answer.confirms < answers.countP Answer.opens ∧
          answers.filterMap Answer.block? = blocks ∧ Response.decode frame = .ok .ok) ∧
      (∀ frame, now.phase ≠ .awaitingVerdict ∨ Response.decode frame ≠ .ok .ok →
        (now.finish frame).2.phase = .failed) ∧
      (now.phase = .failed → ∀ more, (now.run more).2.phase = .failed ∧
        ∀ answer ∈ (now.run more).1, answer.isVoid = true) := by
  intro answers now
  obtain ⟨-, split, fresh⟩ := ofPayload_eq_ok_iff.1 made
  have sound : now.Sound transfer.blocks answers := sound_run made calls
  have number : now.count.val = transfer.count.val := count_run made calls
  have bound : now.handedOut ≤ transfer.blocks.length := by
    have limit := sound.stage.handedOut_le
    rwa [number, ← fresh.length_eq] at limit
  refine ⟨transfer.blocks, split, fresh.length_eq, ?_, ?_, ?_, ?_, ?_, failed_run⟩
  · rw [sound.handed]
    exact List.take_prefix _ _
  · rw [sound.handed, List.length_take]
    omega
  · intro left waits
    obtain ⟨-, -, some_left, total⟩ := sound.stage.left_of_awaiting waits
    have inside : now.handedOut < now.blocks.length := by
      rw [sound.length_eq]
      omega
    exact ⟨some_left, total.trans number, now.blocks[now.handedOut], by simp [nextBlock, waits, inside]⟩
  · intro frame confirmed
    obtain ⟨waits, told, -⟩ | ⟨-, refused, -⟩ := now.finish_cases frame
    · obtain ⟨all, paired, -⟩ := sound.stage.all_of_judged waits
      refine ⟨by omega, ?_, told⟩
      rw [sound.handed, all, number, ← fresh.length_eq, List.take_length]
    · exact absurd confirmed refused
  · intro frame wrong
    obtain ⟨waits, told, -⟩ | ⟨-, -, failed⟩ := now.finish_cases frame
    · simp [waits, told] at wrong
    · exact failed

/-- The transfer of 65 letters. -/
def letters : WriteTransfer where
  blocks := [Block.ofBytes (List.replicate 64 0x61), Block.ofBytes [0x61]]
  count := ⟨2, by decide⟩

/-- Calls out of turn: one asks for a block too early, and the verdict comes too early. -/
def outOfTurn : List Call := [.nextBlock, .start, .nextBlock, .start, .finish [0x6F]]

theorem dispatched_out_of_turn :
    ofPayload (List.replicate 65 0x61) = .ok letters ∧
      (letters.run outOfTurn).1.filterMap Answer.block? =
        [Block.ofBytes (List.replicate 64 0x61)] ∧
      (letters.run outOfTurn).2.phase = .failed ∧
      ∀ more, ((letters.run outOfTurn).2.run more).2.phase = .failed := by
  have made : ofPayload (List.replicate 65 0x61) = .ok letters := rfl
  obtain ⟨blocks, split, -, begins, number, -, -, -, stays⟩ := dispatched made outOfTurn
  have failed : (letters.run outOfTurn).2.phase = .failed := rfl
  have first : (letters.run outOfTurn).2.handedOut = 1 := rfl
  refine ⟨made, ?_, failed, fun more => (stays failed more).1⟩
  rw [first] at number
  have whole : splitBlocks (List.replicate 65 0x61) = .ok letters.blocks := rfl
  obtain rfl : letters.blocks = blocks := Except.ok.inj (whole.symm.trans split)
  rw [List.prefix_iff_eq_take.1 begins, number]
  rfl

/-! ## Transfers are used once -/

theorem count_eq_zero_iff {payload : Bytes} {transfer : WriteTransfer}
    (made : ofPayload payload = .ok transfer) : transfer.count.val = 0 ↔ payload = [] := by
  obtain ⟨checked, -, -⟩ := ofPayload_eq_ok_iff.1 made
  obtain ⟨-, -, counted⟩ := checkPayload_eq_ok_iff.1 checked
  have some_piece : 0 < Bytes.pieceCount blockSize payload.length ↔ 0 * blockSize < payload.length :=
    Bytes.lt_pieceCount_iff (by decide)
  rw [forLength_eq_ok_iff.1 counted, ← List.length_eq_zero_iff]
  omega

/-- The transfer of the empty payload. -/
def empty : WriteTransfer where
  blocks := []
  count := ⟨0, Nat.zero_le blockLimit⟩

theorem ofPayload_nil : ofPayload [] = .ok empty := rfl

/-- A write that is confirmed and started over. -/
def twice : List Call := [.start, .finish [0x6F], .start, .finish [0x6F]]

theorem run_empty_twice :
    (empty.run twice).1.countP Answer.opens = 2 ∧ (empty.run twice).1.countP Answer.confirms = 2 := by
  decide

/-- **A transfer is used once exactly if it has something to transfer.** No sequence of calls then
opens or confirms it twice. Any transfer is confirmed before it is opened again, and none is opened
once it has failed. -/
theorem used_once_iff {payload : Bytes} {transfer : WriteTransfer}
    (made : ofPayload payload = .ok transfer) :
    ((∀ calls, (transfer.run calls).1.countP Answer.opens ≤ 1 ∧
        (transfer.run calls).1.countP Answer.confirms ≤ 1) ↔ payload ≠ []) ∧
      ∀ calls,
        ((transfer.run calls).1.countP Answer.confirms ≤ (transfer.run calls).1.countP Answer.opens ∧
          (transfer.run calls).1.countP Answer.opens ≤
            (transfer.run calls).1.countP Answer.confirms + 1) ∧
        ((transfer.run calls).2.phase = .failed →
          ∀ more, ((transfer.run calls).2.run more).1.countP Answer.opens = 0) := by
  refine ⟨⟨?_, fun some_byte calls => ?_⟩, fun calls => ⟨(sound_run made calls).stage.paired, ?_⟩⟩
  · rintro once rfl
    obtain rfl : empty = transfer := Except.ok.inj (ofPayload_nil.symm.trans made)
    have opened := (once twice).1
    rw [run_empty_twice.1] at opened
    omega
  · have sound := sound_run made calls
    have paired := sound.stage.paired
    have some_block : (transfer.run calls).2.count.val ≠ 0 := by
      rw [count_run made calls]
      exact mt (count_eq_zero_iff made).1 some_byte
    have once := sound.stage.once
    omega
  · intro failed more
    have silent := (failed_run failed more).2
    rw [List.countP_eq_zero]
    intro answer member
    simp [(answer.isVoid_iff.1 (silent answer member)).2.1]

/-- A write of two bytes is used once. -/
theorem used_once_braces :
    ∃ transfer, ofPayload [0x7B, 0x7D] = .ok transfer ∧
      ∀ calls, (transfer.run calls).1.countP Answer.opens ≤ 1 ∧
        (transfer.run calls).1.countP Answer.confirms ≤ 1 := by
  obtain ⟨count, checked⟩ : ∃ count, checkPayload [0x7B, 0x7D] = .ok count := ⟨_, rfl⟩
  obtain ⟨transfer, made⟩ := made_of_checkPayload checked
  exact ⟨transfer, made, (used_once_iff made).1.2 (by decide)⟩

/-- A write of nothing is opened and confirmed a second time. -/
theorem empty_reopened :
    ofPayload [] = .ok empty ∧ (empty.run twice).1.countP Answer.opens = 2 ∧
      (empty.run twice).1.countP Answer.confirms = 2 :=
  ⟨ofPayload_nil, run_empty_twice⟩

end WriteTransfer

end ControlLink.Transfer
