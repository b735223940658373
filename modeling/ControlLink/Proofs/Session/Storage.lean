/-
# ControlLink.Proofs.Session.Storage — a configuration that is written, committed and read again

`Carries` says of a transport that it carries frames to a device that keeps a configuration
(`Device.Store`) and back, each in a time of its own, and never fails. `payload_round_trip` says
what a session on it does with a payload: it is staged exactly if it can be stored, and after a
commit a read gives it back, whatever the device had stored or staged before; any other payload is
refused before anything is sent.

A discipline keeps the book of the device (`serving`): an operation may only send what the device
hears, may only receive what the device has said, and never closes the channel. What keeps to it
always comes to its end (`run_serving`).
-/
import ControlLink.Proofs.Device.Store
import ControlLink.Proofs.Session.Service
import ControlLink.Proofs.Session.Turn

namespace ControlLink.Session

set_option autoImplicit false

open Wire Transfer Metrics Device

/-! ## Talking to the device -/

/-- Only what the device hears is sent, and only what it has said is received. -/
def serving : Discipline Answer Store
  | .send frame, store, goal => ∃ store', store.hear? frame = some store' ∧ goal (.ok ()) store'
  | .receive, store, goal => ∃ frame rest, store.outgoing = frame :: rest ∧
      frame.length ≤ frameLimit ∧ goal (.ok frame) { store with outgoing := rest }
  | .close, _, _ => False
  | .note _, store, goal => goal () store

instance : Quiet serving := ⟨fun _ _ _ => Iff.rfl⟩

section Steps

variable {store store' : Store}

theorem serving_send {goal : Except Failure Unit → Store → Prop} (labels : OperationLabels)
    {frame : Bytes} (heard : store.hear? frame = some store') (after : goal (.ok ()) store') :
    (send labels frame).run.Keeps serving goal store := by
  rw [keeps_send]
  exact ⟨store', heard, after⟩

theorem serving_receive {goal : Except Failure Bytes → Store → Prop} (labels : OperationLabels)
    {frame : Bytes} {rest : List Bytes} (said : store.outgoing = frame :: rest)
    (fits : frame.length ≤ frameLimit) (after : goal (.ok frame) { store with outgoing := rest }) :
    (receive labels).run.Keeps serving goal store := by
  rw [keeps_receive]
  exact ⟨frame, rest, said, fits, after⟩

/-- One block is sent after another. -/
theorem serving_blocks {goal : Except Failure Unit → Store → Prop} (labels : OperationLabels)
    (blocks : List Block) (heard : store.hearAll? (blocks.map Block.bytes) = some store')
    (after : goal (.ok ()) store') :
    (blocks.forM fun block => send labels block.bytes).run.Keeps serving goal store := by
  induction blocks generalizing store with
  | nil =>
      cases heard
      exact after
  | cons block blocks ih =>
      obtain ⟨between, first, rest⟩ := Option.bind_eq_some_iff.1 heard
      rw [keeps_blocks_cons]
      exact serving_send labels first (ih rest)

/-- One announced block is received after another. -/
theorem serving_receiveBlocks {goal : Except Failure ReadTransfer → Store → Prop}
    (labels : OperationLabels) {count : BlockCount} (frames : List Bytes) {before : List Bytes}
    {transfer : ReadTransfer} (holding : transfer.Holding count before)
    (announced : before.length + frames.length = count.val)
    (said : store.outgoing = frames) (fit : ∀ frame ∈ frames, frame.length ≤ frameLimit)
    (after : ∀ transfer : ReadTransfer, transfer.Holding count (before ++ frames) →
      goal (.ok transfer) { store with outgoing := [] }) :
    (receiveBlocks labels frames.length transfer).run.Keeps serving goal store := by
  induction frames generalizing before transfer store with
  | nil =>
      have unchanged : { store with outgoing := [] } = store := by rw [← said]
      rw [List.append_nil, unchanged] at after
      exact after transfer holding
  | cons frame frames ih =>
      have short := fit frame List.mem_cons_self
      obtain ⟨taken, next⟩ := ReadTransfer.block_of_holding holding
        (by rw [← announced, List.length_cons]; omega) short
      rw [List.length_cons, receiveBlocks, keeps_then]
      apply serving_receive labels said short
      rw [onward_ok, keeps_then, keeps_attempt, taken]
      refine ih next ?_ rfl (fun frame later => fit frame (List.mem_cons_of_mem _ later)) ?_
      · simp only [List.length_append, List.length_cons, List.length_nil] at announced ⊢
        omega
      · intro transfer held
        rw [List.append_assoc, List.singleton_append] at held
        exact after transfer held

end Steps

/-! ## What becomes of the device -/

/-- A payload that can be stored makes a transfer whose blocks the device stages as that payload. -/
theorem ofPayload_of_storable {payload : Bytes} (storable : Store.Storable payload) :
    ∃ transfer, WriteTransfer.ofPayload payload = .ok transfer ∧
      Store.cut (transfer.blocks.flatMap Block.bytes) = payload := by
  obtain ⟨fits, clean⟩ := Store.storable_iff.1 storable
  obtain ⟨count, counted⟩ := forLength_of_length_le fits
  have checked := checkPayload_eq_ok_iff.2 ⟨fits, clean, counted⟩
  have split := splitBlocks_eq_ok_iff.2 ⟨⟨count, counted⟩, rfl⟩
  have fresh : WriteTransfer.Fresh ⟨_, count, 0, .idle⟩ :=
    ⟨length_of_splitBlocks split counted, rfl, rfl⟩
  refine ⟨_, WriteTransfer.ofPayload_eq_ok_iff.2 ⟨checked, split, fresh⟩, ?_⟩
  rw [flatMap_bytes_of_splitBlocks split, Store.cut_eq_payloadOf]
  exact payloadOf_padTo _ clean

/-- No other payload makes a transfer. -/
theorem storable_of_ofPayload {payload : Bytes} {transfer : WriteTransfer}
    (made : WriteTransfer.ofPayload payload = .ok transfer) : Store.Storable payload := by
  obtain ⟨checked, -, -⟩ := WriteTransfer.ofPayload_eq_ok_iff.1 made
  obtain ⟨fits, clean, -⟩ := checkPayload_eq_ok_iff.1 checked
  exact Store.storable_iff.2 ⟨fits, clean⟩

section Operations

variable {store : Store} {device : String} {payload : Bytes}

/-- **A write stages its payload.** -/
theorem serving_writePayload (rest : store.AtRest) (storable : Store.Storable payload) :
    (writePayload device payload).run.Keeps serving
      (fun result store' => result = .ok () ∧ store' = { store with staged := some payload })
      store := by
  obtain ⟨waiting, silent⟩ := rest
  obtain ⟨transfer, made, staged⟩ := ofPayload_of_storable storable
  obtain ⟨-, -, fresh⟩ := WriteTransfer.ofPayload_eq_ok_iff.1 made
  have heard : (store.gather transfer.count.val []).hearAll? (transfer.blocks.map Block.bytes) =
      some (store.stage (transfer.blocks.flatMap Block.bytes)) := by
    have all := store.hearAll?_blocks (transfer.blocks.map Block.bytes) []
    rwa [List.length_map, fresh.length_eq, ← List.flatMap_def] at all
  rw [writePayload, keeps_recorded, writeBlocks_of_made _ made, keeps_then]
  refine serving_send _ (store.hear?_encode waiting _) ?_
  rw [onward_ok, keeps_then]
  apply serving_blocks _ _ heard
  rw [onward_ok, keeps_then, keeps_countBlocks, onward_ok, keeps_then]
  have answer : (store.stage (transfer.blocks.flatMap Block.bytes)).outgoing =
      [Response.ok.encode] := congrArg (· ++ [Response.ok.encode]) silent
  apply serving_receive _ answer (by decide)
  rw [onward_ok, keeps_attempt]
  refine ⟨rfl, ?_⟩
  simp only [Store.stage, Store.say, staged, waiting, silent]

/-- **A commit makes the staged payload the current one.** -/
theorem serving_commitConfig (rest : store.AtRest) (staged : store.staged = some payload) :
    (commitConfig device).run.Keeps serving
      (fun result store' => result = .ok () ∧ store' = { current := payload }) store := by
  obtain ⟨waiting, silent⟩ := rest
  have heard : store.hear? Command.commitConfig.encode = some (store.commit payload) := by
    rw [store.hear?_encode waiting, Store.obey?, staged, Option.map_some]
  have answer : (store.commit payload).outgoing = [Response.ok.encode] :=
    congrArg (· ++ [Response.ok.encode]) silent
  rw [commitConfig, simple, keeps_recorded, keeps_then, keeps_exchange]
  refine ⟨_, heard, _, _, answer, by decide, rfl, ?_⟩
  simp only [Store.commit, Store.say, waiting]

/-- **A read gives the current payload.** -/
theorem serving_readPayload (rest : store.AtRest) (storable : Store.Storable store.current) :
    (readPayload device).run.Keeps serving
      (fun result store' => result = .ok store.current ∧ store' = store) store := by
  obtain ⟨waiting, silent⟩ := rest
  obtain ⟨few, counted⟩ := Store.length_blocksOf storable.1
  have accepted : ReadTransfer.announced (Response.config
      (UInt8.ofNat ((store.current.length + 63) / 64))).encode =
        .ok ⟨(Store.blocksOf store.current).length, few⟩ :=
    ReadTransfer.announced_eq_ok_iff.2 ⟨_, rfl, counted.symm⟩
  have answer : (store.say (Store.shown store.current)).outgoing = Store.shown store.current := by
    rw [Store.say, silent, List.nil_append]
  rw [readPayload, keeps_recorded, readBlocks_eq, keeps_then]
  refine serving_send _ (store.hear?_encode waiting _) ?_
  rw [onward_ok, keeps_then]
  apply serving_receive _ answer (show 2 ≤ frameLimit by decide)
  rw [onward_ok, keeps_then, keeps_attempt, accepted, onward_ok, keeps_then]
  refine serving_receiveBlocks _ _ (ReadTransfer.opened_holding _) (Nat.zero_add _) rfl ?_ ?_
  · intro frame member
    exact Nat.le_of_eq (Store.length_of_mem_blocksOf member)
  · intro transfer holding
    rw [List.nil_append] at holding
    have finished := ReadTransfer.finish_of_holding holding rfl
    rw [Store.payloadOf_blocksOf storable] at finished
    rw [onward_ok, keeps_then, keeps_countBlocks, onward_ok, keeps_attempt, finished]
    refine ⟨rfl, ?_⟩
    rw [← silent]
    rfl

end Operations

/-! ## Carrying frames to the device -/

section Channels

variable {σ α : Type}

/-- The transport carries frames to a device and back, each in a time of its own, and never fails.
What is behind it may be more than the store shows. -/
structure Carries [Transport σ] (timeout : Option Nat) (shows : σ → Store → Prop) : Prop where
  send : ∀ state store frame store', shows state store → store.hear? frame = some store' →
    ∃ delay state', Transport.send state frame = (⟨some delay, .ok ()⟩, state') ∧
      shows state' store'
  receive : ∀ state store frame rest, shows state store → store.outgoing = frame :: rest →
    frame.length ≤ frameLimit →
    ∃ delay state', Transport.receive state frameLimit = (⟨some delay, .ok frame⟩, state') ∧
      (∀ limit ∈ timeout, delay ≤ limit) ∧ shows state' { store with outgoing := rest }

/-- An open channel to a device that is as the store shows; nobody is going to close it. -/
structure Attached (timeout : Option Nat) (shows : σ → Store → Prop) (channel : Channel σ)
    (store : Store) : Prop where
  shown : shows channel.transport store
  timeout_eq : channel.timeout = timeout
  isOpen : channel.closed = false
  unclosing : channel.closeAt = none

/-- What is delivered on a channel that nobody closes arrives. -/
theorem await_delivered (channel : Channel σ) (unclosing : channel.closeAt = none) (delay : Nat)
    (value : α) (arrived : α → Event) :
    channel.await ⟨some delay, .ok value⟩ arrived =
      (some (.ok value), (channel.advance (channel.clock + delay)).happen (arrived value)) := by
  simp only [Channel.await, Channel.wait, unclosing]

theorem limited_of_le {timeout : Option Nat} {delay : Nat} {result : Except LinkError α}
    (inTime : ∀ limit ∈ timeout, delay ≤ limit) :
    Channel.limited timeout ⟨some delay, result⟩ = ⟨some delay, result⟩ := by
  cases timeout with
  | none => rfl
  | some limit => exact if_pos (inTime limit rfl)

variable [Transport σ] {timeout : Option Nat} {shows : σ → Store → Prop}

/-- What a discipline of the device allows is answered as it foresees. -/
theorem answer_of_serving (carries : Carries timeout shows) {channel : Channel σ} {store : Store}
    {action : Action} {goal : Answer action → Store → Prop}
    (attached : Attached timeout shows channel store) (allowed : serving action store goal) :
    ∃ reply channel' store', channel.answer action = (some reply, channel') ∧
      Attached timeout shows channel' store' ∧ goal reply store' := by
  obtain ⟨shown, timed, isOpen, unclosing⟩ := attached
  cases action with
  | note notice => exact ⟨(), _, _, rfl, ⟨shown, timed, isOpen, unclosing⟩, allowed⟩
  | close => exact allowed.elim
  | send frame =>
      obtain ⟨store', heard, after⟩ := allowed
      obtain ⟨delay, state, sent, moved⟩ := carries.send _ _ _ _ shown heard
      let taken : Channel σ := { channel with transport := state }.happen (.sending frame)
      have answered : channel.answer (.send frame) =
          taken.await ⟨some delay, .ok ()⟩ fun () => .sent frame := by
        simp only [Channel.answer, Channel.send, isOpen, sent, taken, Bool.false_eq_true, if_false]
      rw [await_delivered taken unclosing] at answered
      exact ⟨_, _, _, answered, ⟨moved, timed, isOpen, unclosing⟩, after⟩
  | receive =>
      obtain ⟨frame, rest, said, fits, after⟩ := allowed
      obtain ⟨delay, state, received, inTime, moved⟩ := carries.receive _ _ _ _ shown said fits
      let taken : Channel σ := { channel with transport := state }.happen .receiving
      have answered : channel.answer .receive =
          taken.await ⟨some delay, .ok frame⟩ .received := by
        simp only [Channel.answer, Channel.receive, isOpen, received, timed,
          limited_of_le inTime, taken, Bool.false_eq_true, if_false]
      rw [await_delivered taken unclosing] at answered
      exact ⟨_, _, _, answered, ⟨moved, timed, isOpen, unclosing⟩, after⟩

/-- **What keeps to the device comes to its end.** -/
theorem run_serving (carries : Carries timeout shows) {channel : Channel σ} {store : Store}
    {procedure : Procedure α} {goal : α → Store → Prop}
    (attached : Attached timeout shows channel store)
    (keeps : procedure.Keeps serving goal store) :
    ∃ value channel' store', channel.run procedure = (some value, channel') ∧
      Attached timeout shows channel' store' ∧ goal value store' := by
  have answered : ∀ action channel store (goal : Answer action → Store → Prop) reply channel',
      Attached timeout shows channel store → serving action store goal →
      channel.answer action = (some reply, channel') →
      ∃ store', Attached timeout shows channel' store' ∧ goal reply store' := by
    intro action channel store goal reply channel' attached allowed answered
    obtain ⟨_, _, store', foreseen, attached', after⟩ :=
      answer_of_serving carries attached allowed
    cases answered.symm.trans foreseen
    exact ⟨store', attached', after⟩
  have unanswered : ∀ action channel store (goal : Answer action → Store → Prop) channel',
      Attached timeout shows channel store → serving action store goal →
      channel.answer action = (none, channel') → False := by
    intro action channel store goal channel' attached allowed unanswered
    obtain ⟨_, _, _, foreseen, -⟩ := answer_of_serving carries attached allowed
    cases unanswered.symm.trans foreseen
  obtain ⟨ends, hangs⟩ := Dialogue.run_keeps keeps attached answered unanswered
  cases ran : channel.run procedure with
  | mk result channel' =>
      cases result with
      | none => exact (hangs channel' ran).elim
      | some value =>
          obtain ⟨store', attached', reached⟩ := ends value channel' ran
          exact ⟨value, channel', store', rfl, attached', reached⟩

/-- A payload that cannot be sent is refused before the transport is touched. -/
theorem run_writePayload_of_refused (channel : Channel σ) (name : String) {payload : Bytes}
    {error : RequestError} (refused : WriteTransfer.ofPayload payload = .error error) :
    ∃ written events, channel.run (writePayload name payload).run =
        (some (.error (.validation error)), written) ∧
      written.transport = channel.transport ∧ written.seen = channel.seen ++ events ∧
      ∀ event ∈ events, ∃ notice, event = .noted notice := by
  have unfolded : (writePayload name payload).run =
      (recorded name "write_config" fun _ => attempt (.error (.validation error))).run := by
    simp only [writePayload, writeBlocks_of_refused _ refused]
  obtain ⟨first, second, third, ran⟩ : ∃ first second third : Notice,
      channel.run (writePayload name payload).run = (some (.error (.validation error)),
        ((channel.happen (.noted first)).happen (.noted second)).happen (.noted third)) := by
    rw [unfolded]
    exact ⟨_, _, _, rfl⟩
  refine ⟨_, [.noted first, .noted second, .noted third], ran, rfl, ?_, ?_⟩
  · simp only [Channel.seen_happen, List.append_assoc]
    rfl
  · simp

/-- **A payload is stored and read back, or refused.** The device may have stored and staged
anything before; all that is asked of it is that no exchange is under way. -/
theorem payload_round_trip (carries : Carries timeout shows) {channel : Channel σ} {store : Store}
    (attached : Attached timeout shows channel store) (rest : store.AtRest) (name : String)
    (payload : Bytes) :
    ∃ result written, channel.run (writePayload name payload).run = (some result, written) ∧
      (result = .ok () ↔ payload.length ≤ 4096 ∧ ∀ byte ∈ payload, byte ≠ 0 ∧ byte ≤ 0xF4) ∧
      (result = .ok () → ∃ committed read,
        written.run (commitConfig name).run = (some (.ok ()), committed) ∧
        committed.run (readPayload name).run = (some (.ok payload), read)) ∧
      (result ≠ .ok () → ∃ error events, result = .error (.validation error) ∧
        written.transport = channel.transport ∧ written.seen = channel.seen ++ events ∧
        ∀ event ∈ events, ∃ notice, event = .noted notice) := by
  cases made : WriteTransfer.ofPayload payload with
  | ok transfer =>
      have storable := storable_of_ofPayload made
      obtain ⟨_, written, _, wrote, attached, rfl, rfl⟩ :=
        run_serving carries attached (serving_writePayload rest storable)
      obtain ⟨_, committed, _, commits, attached, rfl, rfl⟩ :=
        run_serving carries attached (serving_commitConfig rest rfl)
      obtain ⟨_, read, _, reads, -, rfl, rfl⟩ :=
        run_serving carries attached (serving_readPayload ⟨rfl, rfl⟩ storable)
      refine ⟨_, written, wrote, ?_, ?_, ?_⟩
      · exact ⟨fun _ => storable, fun _ => rfl⟩
      · intro _
        exact ⟨committed, read, commits, reads⟩
      · intro failed
        exact absurd rfl failed
  | error error =>
      obtain ⟨written, events, ran, untouched, seen, notices⟩ :=
        run_writePayload_of_refused channel name made
      have unstorable : ¬ Store.Storable payload := by
        intro storable
        obtain ⟨_, made', -⟩ := ofPayload_of_storable storable
        cases made.symm.trans made'
      refine ⟨_, written, ran, ?_, ?_, ?_⟩
      · constructor
        · exact nofun
        · intro storable
          exact absurd storable unstorable
      · exact nofun
      · intro _
        exact ⟨error, events, rfl, untouched, seen, notices⟩

end Channels

/-! ## A device that is its own transport -/

/-- It hears a frame at once and takes a while to answer. -/
instance : Transport Store where
  send store frame := (⟨some 0, .ok ()⟩, (store.hear? frame).getD store)
  receive store _ :=
    match store.outgoing with
    | [] => (⟨none, .error .closed⟩, store)
    | frame :: rest => (⟨some 3, .ok frame⟩, { store with outgoing := rest })

theorem carries_store : Carries (some 5) (Eq : Store → Store → Prop) where
  send := by
    rintro store _ frame store' rfl heard
    refine ⟨0, store', ?_, rfl⟩
    simp only [Transport.send, heard, Option.getD_some]
  receive := by
    rintro store _ frame rest rfl said _
    refine ⟨3, { store with outgoing := rest }, ?_, ?_, rfl⟩
    · simp only [Transport.receive, said]
    · rintro _ ⟨⟩
      decide

/-- A device that has stored and staged other payloads takes one that fills all its blocks. -/
theorem payload_round_trip_full :
    let payload : Bytes := List.replicate 4096 0x61
    let store : Store := { current := [0x7B, 0x7D], staged := some [0x31, 0x32] }
    let channel : Channel Store := { transport := store, timeout := some 5 }
    Carries (some 5) (Eq : Store → Store → Prop) ∧ Attached (some 5) Eq channel store ∧
      store.AtRest ∧ ∃ written committed read,
        channel.run (writePayload "device" payload).run = (some (.ok ()), written) ∧
        written.run (commitConfig "device").run = (some (.ok ()), committed) ∧
        committed.run (readPayload "device").run = (some (.ok payload), read) := by
  intro payload store channel
  have attached : Attached (some 5) Eq channel store := ⟨rfl, rfl, rfl, rfl⟩
  have rest : store.AtRest := ⟨rfl, rfl⟩
  obtain ⟨result, written, wrote, succeeds, stored, -⟩ :=
    payload_round_trip carries_store attached rest "device" payload
  have ok : result = .ok () := by
    refine succeeds.2 ⟨Nat.le_of_eq List.length_replicate, ?_⟩
    intro byte member
    rw [List.eq_of_mem_replicate member]
    decide
  obtain ⟨committed, read, commits, reads⟩ := stored ok
  exact ⟨carries_store, attached, rest, written, committed, read, by rw [wrote, ok], commits, reads⟩

end ControlLink.Session
