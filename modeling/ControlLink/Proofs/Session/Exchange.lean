/-
# ControlLink.Proofs.Session.Exchange — every operation leaves whole exchanges behind

An exchange is a command, the blocks or packets it announces, one reply, and the blocks announced by
a reply to a request for the configuration. Both ends of a channel follow an exchange frame by
frame: `take` is a step with a frame from the host, `give` one with a frame from the device.

`orderly` is the discipline of an operation that sends only what the exchange is ready to take, asks
for a frame only when one is owed, leaves off only between exchanges, and closes the channel as soon
as a frame that is owed does not come in time. Nothing is asked of it after any other failure of the
channel. `procedure_orderly` says that every operation of a session is of this kind.
-/
import ControlLink.Proofs.Firmware.Chunk
import ControlLink.Proofs.Session.Service
import ControlLink.Proofs.Transfer.Read
import ControlLink.Proofs.Transfer.Write
import ControlLink.Proofs.Wire.Command

namespace ControlLink.Session

set_option autoImplicit false

open Wire Transfer

/-- How far an exchange has come. -/
inductive Exchange where
  /-- So many blocks or packets of a command are still to come before the reply. -/
  | asked (left : Nat) (reading : Bool)
  /-- So many blocks are still to come behind the reply; with none left the exchange is over. -/
  | answered (left : Nat)
deriving DecidableEq

namespace Exchange

/-- No exchange is under way. -/
abbrev resting : Exchange := .answered 0

/-- The number of frames that a command announces. -/
def followers : Command → Nat
  | .writeConfig blocks => blocks.val
  | .updateData packets _ => packets.val
  | _ => 0

/-- The exchange that a frame opens. What is no command announces nothing. -/
def opened (frame : Bytes) : Exchange :=
  match Command.decode frame with
  | .ok command => .asked (followers command) (command.kind == .readConfig)
  | .error _ => .asked 0 false

/-- The blocks that a reply to a request for the configuration announces. -/
def announces (frame : Bytes) : Nat :=
  match Response.decode frame with
  | .ok (.config blocks) => if blocks.toNat ≤ blockLimit then blocks.toNat else 0
  | _ => 0

/-- The exchange after a frame from the host, if it is ready for one. -/
def take : Exchange → Bytes → Option Exchange
  | .answered 0, frame => some (opened frame)
  | .asked (left + 1) reading, _ => some (.asked left reading)
  | _, _ => none

/-- The exchange after a frame from the device, if one is owed. -/
def give : Exchange → Bytes → Option Exchange
  | .asked 0 reading, frame => some (.answered (if reading then announces frame else 0))
  | .answered (left + 1), _ => some (.answered left)
  | _, _ => none

/-- A frame of the kind that the exchange expects from the host: a command, or a block or packet of
one. -/
def Expects : Exchange → Bytes → Prop
  | .answered 0, frame => ∃ command : Command, frame = command.encode
  | .asked (_ + 1) _, frame => ∃ block : Block, frame = block.bytes
  | _, _ => False

/-- The device owes a frame. -/
def Owes : Exchange → Prop
  | .asked 0 _ => True
  | .answered (_ + 1) => True
  | _ => False

theorem take_of_expects {exchange : Exchange} {frame : Bytes} (expected : exchange.Expects frame) :
    ∃ next, exchange.take frame = some next := by
  match exchange with
  | .answered 0 => exact ⟨_, rfl⟩
  | .asked (left + 1) reading => exact ⟨_, rfl⟩

theorem owes_of_give {exchange next : Exchange} {frame : Bytes}
    (given : exchange.give frame = some next) : exchange.Owes := by
  match exchange with
  | .asked 0 reading => trivial
  | .answered (left + 1) => trivial
  | .answered 0 => cases given
  | .asked (left + 1) reading => cases given

/-- An exchange that owes a frame expects none. -/
theorem not_expects_of_owes {exchange : Exchange} (owed : exchange.Owes) (frame : Bytes) :
    ¬ exchange.Expects frame := by
  match exchange with
  | .asked 0 reading => exact id
  | .answered (left + 1) => exact id

theorem opened_encode (command : Command) :
    opened command.encode = .asked (followers command) (command.kind == .readConfig) := by
  simp [opened]

/-- What a header announces is what the transfer behind it waits for. -/
theorem announces_of_announced {frame : Bytes} {count : BlockCount}
    (accepted : ReadTransfer.announced frame = .ok count) : announces frame = count.val := by
  obtain ⟨blocks, decoded, same⟩ := ReadTransfer.announced_eq_ok_iff.1 accepted
  have fits : blocks.toNat ≤ blockLimit := same ▸ count.le_limit
  simp [announces, decoded, fits, same]

/-- A frame that is no header announces nothing. -/
theorem announces_of_refused {frame : Bytes} {failure : Failure}
    (refused : ReadTransfer.announced frame = .error failure) : announces frame = 0 := by
  unfold announces
  split
  · rename_i blocks decoded
    by_cases fits : blocks.toNat ≤ blockLimit
    · have accepted : ReadTransfer.announced frame = .ok ⟨blocks.toNat, fits⟩ :=
        ReadTransfer.announced_eq_ok_iff.2 ⟨blocks, decoded, rfl⟩
      rw [accepted] at refused
      cases refused
    · rw [if_neg fits]
  · rfl

end Exchange

open Exchange

/-! ## The discipline -/

/-- The discipline of an operation that keeps its exchanges in order. It is watched by the exchange
under way, or by none once a frame that is owed has not come in time. -/
def orderly : Discipline Answer (Option Exchange)
  | .send frame, some exchange, goal =>
    exchange.Expects frame ∧
      ∀ next, exchange.take frame = some next → goal (.ok ()) (some next)
  | .receive, some exchange, goal =>
    exchange.Owes ∧
      (∀ frame next, frame.length ≤ frameLimit → exchange.give frame = some next →
        goal (.ok frame) (some next)) ∧
      goal (.error .timedOut) none
  | .send _, none, _ => False
  | .receive, none, _ => False
  | .close, _, _ => True
  | .note _, s, goal => goal () s

instance : Quiet orderly where
  note_iff _ _ _ := Iff.rfl

theorem orderly_monotone : orderly.Monotone := by
  intro action s goal goal' weaker kept
  match action, s with
  | .send frame, some exchange =>
      exact ⟨kept.1, fun next taken => weaker _ _ (kept.2 next taken)⟩
  | .receive, some exchange =>
      obtain ⟨owed, given, late⟩ := kept
      exact ⟨owed, fun frame next fits gave => weaker _ _ (given frame next fits gave),
        weaker _ _ late⟩
  | .close, _ => trivial
  | .note notice, s => exact weaker _ _ kept

/-- The operation leaves off between exchanges, whatever its result. -/
def settled {α : Type} : α → Option Exchange → Prop := fun _ s => s = some resting

section Steps

variable {α : Type} {goal : Except Failure α → Option Exchange → Prop}

theorem orderly_send {goal : Except Failure Unit → Option Exchange → Prop}
    (labels : Metrics.OperationLabels) {frame : Bytes} {exchange next : Exchange}
    (expected : exchange.Expects frame) (taken : exchange.take frame = some next)
    (after : goal (.ok ()) (some next)) :
    (send labels frame).run.Keeps orderly goal (some exchange) := by
  rw [keeps_send]
  refine ⟨expected, ?_⟩
  intro next' taken'
  cases taken.symm.trans taken'
  exact after

/-- Receiving a frame that is owed. The timeout needs no care: it closes the channel. -/
theorem orderly_receive {goal : Except Failure Bytes → Option Exchange → Prop}
    (labels : Metrics.OperationLabels) {exchange : Exchange} (owed : exchange.Owes)
    (after : ∀ frame next, frame.length ≤ frameLimit → exchange.give frame = some next →
      goal (.ok frame) (some next)) :
    (receive labels).run.Keeps orderly goal (some exchange) := by
  rw [keeps_receive]
  exact ⟨owed, after, trivial⟩

theorem orderly_receiveResponse {goal : Except Failure Response → Option Exchange → Prop}
    (labels : Metrics.OperationLabels)
    (after : ∀ result : Except Failure Response, goal result (some resting)) :
    (receiveResponse labels).run.Keeps orderly goal (some (.asked 0 false)) := by
  rw [keeps_receiveResponse]
  refine ⟨trivial, fun frame next _ given => ?_, trivial⟩
  cases given
  exact after _

/-- A command that announces nothing and asks for no configuration is an exchange of two frames. -/
theorem orderly_exchange {goal : Except Failure Response → Option Exchange → Prop}
    (labels : Metrics.OperationLabels) {command : Command} (alone : followers command = 0)
    (other : command.kind ≠ .readConfig)
    (after : ∀ result : Except Failure Response, goal result (some resting)) :
    (exchange labels command).run.Keeps orderly goal (some resting) := by
  unfold exchange sendCommand
  rw [keeps_then]
  refine orderly_send labels ⟨command, rfl⟩ rfl ?_
  rw [opened_encode, alone, beq_eq_false_iff_ne.2 other]
  exact orderly_receiveResponse labels after

/-- Sending the last frames of a command. -/
theorem orderly_blocks {goal : Except Failure PUnit → Option Exchange → Prop}
    (labels : Metrics.OperationLabels) (reading : Bool)
    (after : goal (.ok ()) (some (.asked 0 reading))) (blocks : List Block) :
    (blocks.forM fun block => send labels block.bytes : Operation PUnit).run.Keeps orderly goal
      (some (.asked blocks.length reading)) := by
  induction blocks with
  | nil => exact after
  | cons block blocks ih =>
      rw [keeps_blocks_cons]
      exact orderly_send labels ⟨block, rfl⟩ rfl ih

/-! ## The operations -/

/-- A transfer that holds some of its blocks receives the others. -/
theorem orderly_receiveBlocks {goal : Except Failure ReadTransfer → Option Exchange → Prop}
    (labels : Metrics.OperationLabels) (count : BlockCount)
    (after : ∀ transfer : ReadTransfer, goal (.ok transfer) (some resting)) (left : Nat) :
    ∀ (transfer : ReadTransfer) (frames : List Bytes), transfer.Holding count frames →
      frames.length + left = count.val →
      (receiveBlocks labels left transfer).run.Keeps orderly goal (some (.answered left)) := by
  induction left with
  | zero => exact fun transfer _ _ _ => after transfer
  | succ left ih =>
      intro transfer frames holding length_eq
      unfold receiveBlocks
      rw [keeps_then]
      refine orderly_receive labels trivial ?_
      intro frame next fits given
      cases given
      obtain ⟨accepted, holding'⟩ :=
        ReadTransfer.block_of_holding holding (by omega : frames.length < count.val) fits
      rw [onward_ok, keeps_then, keeps_attempt, accepted]
      exact ih _ _ holding' (by rw [List.length_append, List.length_singleton]; omega)

theorem orderly_readBlocks (labels : Metrics.OperationLabels) :
    (readBlocks labels).run.Keeps orderly settled (some resting) := by
  have asked : resting.take Command.readConfig.encode = some (.asked 0 true) := rfl
  rw [readBlocks_eq, keeps_then]
  refine orderly_send labels ⟨.readConfig, rfl⟩ asked ?_
  rw [onward_ok, keeps_then]
  refine orderly_receive labels trivial ?_
  intro frame next _ given
  cases given
  rw [onward_ok, keeps_then, keeps_attempt, if_pos rfl]
  cases header : ReadTransfer.announced frame with
  | error failure =>
      rw [onward_error, announces_of_refused header]
      rfl
  | ok count =>
      rw [onward_ok, keeps_then, announces_of_announced header]
      refine orderly_receiveBlocks labels count (fun transfer => ?_) count.val _ []
        (ReadTransfer.opened_holding count) (by simp)
      rw [onward_ok, keeps_then, keeps_countBlocks, onward_ok, keeps_attempt]
      rfl

theorem orderly_writeBlocks (labels : Metrics.OperationLabels) (payload : Bytes) :
    (writeBlocks labels payload).run.Keeps orderly settled (some resting) := by
  cases made : WriteTransfer.ofPayload payload with
  | error error =>
      rw [writeBlocks_of_refused labels made, keeps_attempt]
      rfl
  | ok transfer =>
      obtain ⟨-, -, fresh⟩ := WriteTransfer.ofPayload_eq_ok_iff.1 made
      rw [writeBlocks_of_made labels made, keeps_then]
      refine orderly_send labels ⟨_, rfl⟩ rfl ?_
      rw [opened_encode, onward_ok, keeps_then, followers, ← fresh.length_eq]
      refine orderly_blocks labels false ?_ transfer.blocks
      rw [onward_ok, keeps_then, keeps_countBlocks, onward_ok, keeps_then]
      refine orderly_receive labels trivial ?_
      intro frame next _ given
      cases given
      rfl

/-- A chunk is an exchange: its packets are as many as its header announces. -/
theorem orderly_sendChunk {goal : Except Failure Response → Option Exchange → Prop}
    (labels : Metrics.OperationLabels) (chunk : Firmware.Chunk)
    (after : ∀ result : Except Failure Response, goal result (some resting)) :
    (sendChunk labels chunk).run.Keeps orderly goal (some resting) := by
  unfold sendChunk sendCommand
  rw [keeps_then, keeps_attempt]
  cases headed : chunk.header with
  | error error => exact after _
  | ok command =>
      obtain ⟨packets, blocks, rfl, split, length_eq⟩ := Firmware.Chunk.packets_of_header headed
      simp only [Except.mapError, split, onward_ok]
      rw [keeps_then]
      refine orderly_send labels ⟨_, rfl⟩ rfl ?_
      rw [opened_encode, onward_ok, keeps_then, keeps_attempt, followers, ← length_eq]
      simp only [onward_ok]
      rw [keeps_then]
      refine orderly_blocks labels false ?_ blocks
      rw [onward_ok, keeps_then, keeps_countBlocks]
      exact orderly_receiveResponse labels after

theorem orderly_sendChunks (labels : Metrics.OperationLabels) (size : UInt32)
    (chunks : List Firmware.Chunk) :
    (sendChunks labels size chunks).run.Keeps orderly settled (some resting) := by
  induction chunks with
  | nil => rfl
  | cons chunk chunks ih =>
      rw [sendChunks_cons, keeps_then]
      apply orderly_sendChunk labels chunk
      intro result
      cases result with
      | error failure => rfl
      | ok response =>
          cases response with
          | progress received total =>
              rw [onward_ok, keeps_goOn_progress]
              exact ih
          | complete =>
              rw [onward_ok, keeps_goOn_complete]
              rfl
          | ok => exact ih
          | _ => rfl

theorem orderly_abort (labels : Metrics.OperationLabels) (failure : Failure) :
    (abort labels failure).Keeps orderly settled (some resting) := by
  cases failure with
  | connectivity error => rfl
  | _ =>
      unfold abort
      rw [Dialogue.keeps_bind, keeps_log, Dialogue.keeps_bind]
      exact orderly_exchange labels rfl (by decide) fun _ => rfl

theorem orderly_sendImage (labels : Metrics.OperationLabels) (image : Firmware.Image) :
    (sendImage labels image).run.Keeps orderly settled (some resting) := by
  have start : image.startCommand.kind = .updateStart := rfl
  unfold sendImage
  rw [keeps_then]
  apply orderly_exchange labels rfl (by simp [start])
  intro result
  cases result with
  | error failure => rfl
  | ok response =>
      rw [onward_ok, keeps_then, keeps_attempt]
      cases acknowledged response with
      | error failure => rfl
      | ok =>
          rw [onward_ok, ExceptT.run_mk, Dialogue.keeps_bind]
          refine Dialogue.keeps_mono orderly_monotone ?_
            (orderly_sendChunks labels (UInt32.ofNat image.size) image.chunks)
          rintro result _ rfl
          cases result with
          | ok => rfl
          | error failure =>
              rw [Dialogue.keeps_bind]
              exact orderly_abort labels failure

theorem orderly_simple (device : String) {command : Command} (alone : followers command = 0)
    (other : command.kind ≠ .readConfig) :
    (simple device command).run.Keeps orderly settled (some resting) := by
  unfold simple
  rw [keeps_recorded, keeps_then]
  apply orderly_exchange _ alone other
  intro result
  cases result <;> rfl

theorem orderly_getStatus (device : String) :
    (getStatus device).run.Keeps orderly settled (some resting) := by
  unfold getStatus
  rw [keeps_recorded, keeps_then]
  apply orderly_exchange _ rfl (by decide)
  intro result
  rcases result with failure | response
  · rfl
  · cases response <;> rfl

theorem orderly_updateStatus (device : String) :
    (updateStatus device).run.Keeps orderly settled (some resting) := by
  unfold updateStatus
  rw [keeps_recorded, keeps_then]
  apply orderly_exchange _ rfl (by decide)
  intro result
  rcases result with failure | response
  · rfl
  · cases response <;> rfl

theorem orderly_readPayload (device : String) :
    (readPayload device).run.Keeps orderly settled (some resting) := by
  unfold readPayload
  rw [keeps_recorded]
  exact orderly_readBlocks _

theorem orderly_readConfig (device : String) :
    (readConfig device).run.Keeps orderly settled (some resting) := by
  unfold readConfig
  rw [keeps_then]
  refine Dialogue.keeps_mono orderly_monotone ?_ (orderly_readPayload device)
  rintro result _ rfl
  cases result <;> rfl

theorem orderly_writePayload (device : String) (payload : Bytes) :
    (writePayload device payload).run.Keeps orderly settled (some resting) := by
  unfold writePayload
  rw [keeps_recorded]
  exact orderly_writeBlocks _ payload

theorem orderly_writeConfig (device : String) (document : Json) :
    (writeConfig device document).run.Keeps orderly settled (some resting) := by
  unfold writeConfig
  cases Config.toPayload document with
  | error error => rfl
  | ok payload => exact orderly_writePayload device payload

theorem orderly_flash (device : String) (data : Bytes) :
    (flash device data).run.Keeps orderly settled (some resting) := by
  unfold flash
  cases Firmware.Image.ofBytes data with
  | error error => rfl
  | ok image =>
      simp only [keeps_recorded]
      exact orderly_sendImage _ image

end Steps

/-- **Every operation of a session leaves whole exchanges behind.** -/
theorem procedure_orderly (device : String) (service : Service) :
    (service.procedure device).Keeps orderly settled (some resting) := by
  cases service with
  | getStatus => exact orderly_getStatus device
  | readPayload => exact orderly_readPayload device
  | readConfig => exact orderly_readConfig device
  | writePayload payload => exact orderly_writePayload device payload
  | writeConfig document => exact orderly_writeConfig device document
  | commitConfig => exact orderly_simple device rfl (by decide)
  | setKeepAwake enabled => exact orderly_simple device rfl (by simp [Command.kind])
  | reboot => exact orderly_simple device rfl (by decide)
  | updateStatus => exact orderly_updateStatus device
  | updateAbort => exact orderly_simple device rfl (by decide)
  | flash data => exact orderly_flash device data

end ControlLink.Session
