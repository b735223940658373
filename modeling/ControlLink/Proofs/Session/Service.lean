/-
# ControlLink.Proofs.Session.Service — the operations of a session, and the steps they are made of

`Service` names the eleven operations, so that statements can speak of any of them at once.

An operation asks its channel to send, to receive and to close, and gives notices in between. A
discipline that lets every notice pass (`Quiet`) sees an operation only by what it sends and
receives; the lemmas `keeps_…` say what such a discipline asks of each step, so that no later proof
opens a step again.
-/
import ControlLink.Proofs.Discipline
import ControlLink.Proofs.Transfer.Read
import ControlLink.Proofs.Transfer.Write
import ControlLink.Session.Operation

namespace ControlLink.Session

set_option autoImplicit false

open Wire Metrics Transfer

/-- An operation that a caller may ask of a session. -/
inductive Service where
  | getStatus
  | readPayload
  | readConfig
  | writePayload (payload : Bytes)
  | writeConfig (document : Json)
  | commitConfig
  | setKeepAwake (enabled : Bool)
  | reboot
  | updateStatus
  | updateAbort
  | flash (data : Bytes)

namespace Service

/-- What the caller gets. -/
abbrev Value : Service → Type
  | .getStatus => Device.Status
  | .readPayload => Bytes
  | .readConfig => Json
  | .updateStatus => Option Progress
  | _ => Unit

/-- The operation on a channel to a device of this name. -/
def operation (device : String) : (service : Service) → Operation service.Value
  | .getStatus => Session.getStatus device
  | .readPayload => Session.readPayload device
  | .readConfig => Session.readConfig device
  | .writePayload payload => Session.writePayload device payload
  | .writeConfig document => Session.writeConfig device document
  | .commitConfig => Session.commitConfig device
  | .setKeepAwake enabled => Session.setKeepAwake device enabled
  | .reboot => Session.reboot device
  | .updateStatus => Session.updateStatus device
  | .updateAbort => Session.updateAbort device
  | .flash data => Session.flash device data

/-- The dialogue of the operation with the channel. -/
def procedure (device : String) (service : Service) :
    Procedure (Except Failure service.Value) :=
  (service.operation device).run

end Service

/-! ## Sequences of frames without their transfers -/

section Sequences

variable {α β : Type}

theorem attempt_ok_bind (value : α) (next : α → Operation β) :
    (attempt (.ok value) >>= next) = next value := rfl

theorem attempt_error_bind (failure : Failure) (next : α → Operation β) :
    (attempt (.error failure) >>= next) = attempt (.error failure) := rfl

/-- A payload that cannot be sent is refused. -/
theorem writeBlocks_of_refused (labels : OperationLabels) {payload : Bytes} {error : RequestError}
    (refused : WriteTransfer.ofPayload payload = .error error) :
    writeBlocks labels payload = attempt (.error (.validation error)) := by
  rw [writeBlocks, refused]
  rfl

/-- A write is its command, its blocks and the verdict on them. -/
theorem writeBlocks_of_made (labels : OperationLabels) {payload : Bytes} {transfer : WriteTransfer}
    (made : WriteTransfer.ofPayload payload = .ok transfer) :
    writeBlocks labels payload = (do
      sendCommand labels (.writeConfig transfer.count)
      transfer.blocks.forM fun block => send labels block.bytes
      countBlocks labels "write" transfer.count.val
      let frame ← receive labels
      attempt (WriteTransfer.verdict frame)) := by
  obtain ⟨-, -, fresh⟩ := WriteTransfer.ofPayload_eq_ok_iff.1 made
  have handed := WriteTransfer.rest_of_start fresh
  rw [writeBlocks, made]
  simp only [Except.mapError, attempt_ok_bind]
  rw [WriteTransfer.start_of_fresh fresh] at handed ⊢
  simp only [attempt_ok_bind] at handed ⊢
  rw [handed]
  simp only [WriteTransfer.finish_of_awaitingVerdict]

/-- A read is its command, its header and the blocks that the header announces. -/
theorem readBlocks_eq (labels : OperationLabels) :
    readBlocks labels = (do
      sendCommand labels .readConfig
      let frame ← receive labels
      let count ← attempt (ReadTransfer.announced frame)
      let transfer ← receiveBlocks labels count.val (ReadTransfer.opened count)
      countBlocks labels "read" count.val
      attempt transfer.finish) := by
  rw [readBlocks, ReadTransfer.start_fresh]
  simp only [attempt_ok_bind]
  congr 1
  funext _
  congr 1
  funext frame
  cases accepted : ReadTransfer.announced frame with
  | error failure =>
      rw [ReadTransfer.header_of_refused rfl accepted, attempt_error_bind, attempt_error_bind]
  | ok count =>
      rw [ReadTransfer.header_of_announced rfl accepted, attempt_ok_bind, attempt_ok_bind]

/-- What becomes of an update after the answer to a chunk. -/
def goOn (labels : OperationLabels) (size : UInt32) (chunks : List Firmware.Chunk) :
    Response → Operation Unit
  | .progress received total => do
    let progress : Progress := ⟨received, total⟩
    ExceptT.lift (report labels progress.percent progress)
    sendChunks labels size chunks
  | .complete => ExceptT.lift (report labels (Decimal.Binary64.ofNat 100) ⟨size, size⟩)
  | .ok => sendChunks labels size chunks
  | .error fault => attempt (.error (.device fault))
  | response => attempt (.error (unexpected .progress response))

/-- Chunks are sent as long as the device goes along with it. -/
theorem sendChunks_cons (labels : OperationLabels) (size : UInt32) (chunk : Firmware.Chunk)
    (chunks : List Firmware.Chunk) :
    sendChunks labels size (chunk :: chunks) =
      sendChunk labels chunk >>= goOn labels size chunks := rfl

end Sequences

/-! ## Disciplines that let notices pass -/

/-- A discipline that asks nothing of a notice. -/
class Quiet {S : Type} (rule : Discipline Answer S) : Prop where
  note_iff : ∀ (notice : Notice) (s : S) (goal : Unit → S → Prop),
    rule (.note notice) s goal ↔ goal () s

variable {S α β : Type} {rule : Discipline Answer S}

/-- What is to hold of a result: if it is a value, of what goes on with it. -/
def onward (goal : Except Failure β → S → Prop) (next : α → S → Prop) :
    Except Failure α → S → Prop
  | .ok value, s => next value s
  | .error failure, s => goal (.error failure) s

@[simp] theorem onward_ok (goal : Except Failure β → S → Prop) (next : α → S → Prop) (value : α) :
    onward goal next (.ok value) = next value := rfl

@[simp] theorem onward_error (goal : Except Failure β → S → Prop) (next : α → S → Prop)
    (failure : Failure) : onward goal next (.error failure) = goal (.error failure) := rfl

section Steps

variable {goal : Except Failure α → S → Prop}

theorem keeps_then {goal : Except Failure β → S → Prop} (operation : Operation α)
    (next : α → Operation β) (s : S) :
    (operation >>= next).run.Keeps rule goal s ↔
      operation.run.Keeps rule (onward goal fun value => (next value).run.Keeps rule goal) s := by
  rw [ExceptT.run_bind, Dialogue.keeps_bind]
  refine Dialogue.keeps_congr (fun result s' => ?_) operation.run s
  cases result <;> rfl

@[simp] theorem keeps_attempt (result : Except Failure α) (s : S) :
    (attempt result).run.Keeps rule goal s ↔ goal result s := Iff.rfl

theorem keeps_lift {goal : Except Failure Unit → S → Prop} {procedure : Procedure Unit}
    (silent : ∀ (goal : Unit → S → Prop) s, procedure.Keeps rule goal s ↔ goal () s) (s : S) :
    (ExceptT.lift procedure : Operation Unit).run.Keeps rule goal s ↔ goal (.ok ()) s := by
  have unfolded : (ExceptT.lift procedure : Operation Unit).run =
      procedure >>= fun value => pure (.ok value) := ExceptT.run_lift procedure
  rw [unfolded, Dialogue.keeps_bind, silent, Dialogue.keeps_pure]

/-- What becomes of the answer to a receive: a timeout closes the channel first. -/
def taken (rule : Discipline Answer S) (goal : Except Failure Bytes → S → Prop) :
    Except LinkError Bytes → S → Prop
  | .ok frame, s => goal (.ok frame) s
  | .error .timedOut, s => rule .close s fun _ => goal (.error (.connectivity .timedOut))
  | .error error, s => goal (.error (.connectivity error)) s

theorem taken_congr {goal goal' : Except Failure Bytes → S → Prop}
    (same : ∀ result s, goal result s ↔ goal' result s) (answer : Except LinkError Bytes) (s : S) :
    taken rule goal answer s ↔ taken rule goal' answer s := by
  have equal : goal = goal' := funext fun result => funext fun s => propext (same result s)
  rw [equal]

/-- Blocks are sent one after another. -/
theorem keeps_blocks_cons {goal : Except Failure PUnit → S → Prop} (labels : OperationLabels)
    (block : Block) (blocks : List Block) (s : S) :
    ((block :: blocks).forM fun block => send labels block.bytes : Operation PUnit).run.Keeps
        rule goal s ↔
      (send labels block.bytes).run.Keeps rule
        (onward goal fun _ =>
          (blocks.forM fun block => send labels block.bytes : Operation PUnit).run.Keeps rule goal)
        s :=
  keeps_then (send labels block.bytes) (fun _ => blocks.forM fun block => send labels block.bytes) s

variable [Quiet rule]

@[simp] theorem keeps_note {goal : Unit → S → Prop} (notice : Notice) (s : S) :
    (note notice).Keeps rule goal s ↔ goal () s := Quiet.note_iff notice s _

@[simp] theorem keeps_log {goal : Unit → S → Prop} (entry : LogEntry) (s : S) :
    (log entry).Keeps rule goal s ↔ goal () s := keeps_note _ s

@[simp] theorem keeps_count {goal : Unit → S → Prop} (labels : OperationLabels) (metric : Metric)
    (more : Labels) (amount : Nat) (s : S) :
    (count labels metric more amount).Keeps rule goal s ↔ goal () s := keeps_note _ s

@[simp] theorem keeps_logFault {goal : Unit → S → Prop} (response : Response) (s : S) :
    (logFault response).Keeps rule goal s ↔ goal () s := by
  cases response <;> simp [logFault]

@[simp] theorem keeps_report {goal : Unit → S → Prop} (labels : OperationLabels)
    (level : Decimal.Binary64) (progress : Progress) (s : S) :
    (report labels level progress).Keeps rule goal s ↔ goal () s := by
  simp [report, Dialogue.keeps_bind]

@[simp] theorem keeps_countBlocks {goal : Except Failure Unit → S → Prop}
    (labels : OperationLabels) (direction : String) (blocks : Nat) (s : S) :
    (countBlocks labels direction blocks).run.Keeps rule goal s ↔ goal (.ok ()) s :=
  keeps_lift (fun _ => keeps_count labels _ _ blocks) s

/-- Whatever progress the device reports, the next chunk follows. -/
theorem keeps_goOn_progress {goal : Except Failure Unit → S → Prop} (labels : OperationLabels)
    (size : UInt32) (chunks : List Firmware.Chunk) (received total : UInt32) (s : S) :
    (goOn labels size chunks (.progress received total)).run.Keeps rule goal s ↔
      (sendChunks labels size chunks).run.Keeps rule goal s := by
  have unfolded : goOn labels size chunks (.progress received total) =
      (do
        ExceptT.lift (report labels (Progress.percent ⟨received, total⟩) ⟨received, total⟩)
        sendChunks labels size chunks) := rfl
  rw [unfolded, keeps_then, keeps_lift (fun _ => keeps_report labels _ _), onward_ok]

/-- An update that the device reports complete is at its end. -/
theorem keeps_goOn_complete {goal : Except Failure Unit → S → Prop} (labels : OperationLabels)
    (size : UInt32) (chunks : List Firmware.Chunk) (s : S) :
    (goOn labels size chunks .complete).run.Keeps rule goal s ↔ goal (.ok ()) s :=
  keeps_lift (fun _ => keeps_report labels _ _) s

/-- Sending a frame is asking the channel to send it. -/
theorem run_send (labels : OperationLabels) (frame : Bytes) :
    (send labels frame).run = Dialogue.ask (Action.send frame) fun answer => do
      match answer with
      | .ok () =>
        count labels .framesSent [] 1
        count labels .bytesSent [] frame.length
        return .ok ()
      | .error error => return .error (.connectivity error) := rfl

theorem keeps_send {goal : Except Failure Unit → S → Prop} (labels : OperationLabels)
    (frame : Bytes) (s : S) :
    (send labels frame).run.Keeps rule goal s ↔
      rule (.send frame) s fun answer => goal (answer.mapError .connectivity) := by
  rw [run_send, Dialogue.keeps_ask]
  apply rule.congr
  intro answer s'
  cases answer with
  | ok => simp [Dialogue.keeps_bind, Except.mapError]
  | error error => rfl

/-- Receiving a frame is asking the channel for one. -/
theorem run_receive (labels : OperationLabels) :
    (receive labels).run = Dialogue.ask Action.receive fun answer => do
      match answer with
      | .ok frame =>
        count labels .framesReceived [] 1
        count labels .bytesReceived [] frame.length
        return .ok frame
      | .error .timedOut =>
        log .receiveTimedOut
        let () ← Dialogue.perform Action.close
        return .error (.connectivity .timedOut)
      | .error error => return .error (.connectivity error) := rfl

theorem keeps_receive {goal : Except Failure Bytes → S → Prop} (labels : OperationLabels) (s : S) :
    (receive labels).run.Keeps rule goal s ↔ rule .receive s (taken rule goal) := by
  rw [run_receive, Dialogue.keeps_ask]
  apply rule.congr
  intro answer s'
  cases answer with
  | ok frame => simp [Dialogue.keeps_bind, taken]
  | error error =>
      cases error with
      | timedOut => simp [Dialogue.keeps_bind, taken]; rfl
      | _ => rfl

/-! ## Exchanges and whole operations -/

variable {goal : Except Failure α → S → Prop}

/-- The response in a frame, or why there is none. -/
def reading (frame : Bytes) : Except Failure Response := (Response.decode frame).mapError .ofWire

theorem keeps_receiveResponse {goal : Except Failure Response → S → Prop}
    (labels : OperationLabels) (s : S) :
    (receiveResponse labels).run.Keeps rule goal s ↔
      rule .receive s (taken rule (onward goal fun frame => goal (reading frame))) := by
  unfold receiveResponse
  rw [keeps_then, keeps_receive]
  refine rule.congr fun answer s' => taken_congr (fun result s' => ?_) answer s'
  cases result with
  | error failure => rfl
  | ok frame =>
      simp only [onward_ok]
      rw [keeps_then, keeps_attempt, reading]
      cases (Response.decode frame).mapError Failure.ofWire with
      | error failure => rfl
      | ok response =>
          rw [onward_ok, keeps_then, keeps_lift fun _ => keeps_logFault response]
          rfl

theorem keeps_exchange {goal : Except Failure Response → S → Prop} (labels : OperationLabels)
    (command : Command) (s : S) :
    (exchange labels command).run.Keeps rule goal s ↔
      rule (.send command.encode) s fun answer => onward goal
        (fun _ s' => rule .receive s' (taken rule (onward goal fun frame => goal (reading frame))))
        (answer.mapError .connectivity) := by
  unfold exchange sendCommand
  rw [keeps_then, keeps_send]
  apply rule.congr
  intro answer s'
  cases answer with
  | ok => exact keeps_receiveResponse labels s'
  | error error => rfl

/-- What is recorded of an operation comes behind it. -/
theorem run_recorded (device name : String) (body : OperationLabels → Operation α) :
    (recorded device name body).run = do
      let result ← (body ⟨device, name⟩).run
      note (.sample ⟨.operations, OperationLabels.toLabels ⟨device, name⟩, .increment 1⟩)
      note (.sample ⟨.operationDuration, OperationLabels.toLabels ⟨device, name⟩, .duration⟩)
      match result with
      | .ok _ => return result
      | .error failure =>
        note (.sample ⟨.operationErrors,
          OperationLabels.withMore ⟨device, name⟩ [("kind", failure.kind.name)], .increment 1⟩)
        return result := rfl

/-- What is recorded of an operation concerns no quiet discipline. -/
@[simp] theorem keeps_recorded (device name : String) (body : OperationLabels → Operation α)
    (s : S) :
    (recorded device name body).run.Keeps rule goal s ↔
      (body ⟨device, name⟩).run.Keeps rule goal s := by
  rw [run_recorded, Dialogue.keeps_bind]
  refine Dialogue.keeps_congr (fun result s' => ?_) _ s
  cases result <;> simp [Dialogue.keeps_bind]

end Steps

end ControlLink.Session
