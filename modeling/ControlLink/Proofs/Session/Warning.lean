/-
# ControlLink.Proofs.Session.Warning — which faults of the device are logged

A device reports a fault in an error frame. Most operations take each frame for a response by one
step (`receiveResponse`), which logs the fault of an error frame. The operations that move a
configuration take their only response, the header of a read or the verdict on a write, by a step of
their own, and that logs nothing.

Each step of an operation leaves the log as it is to be after the frames received so far (`Warns`),
and steps that do so one after the other do so together. `faults_logged` says of any caller among
others that it has logged the faults of all its responses and nothing else of the kind, or none if
it moves a configuration; `fault_unlogged` shows such a fault.
-/
import ControlLink.Proofs.Session.Reckoning

namespace ControlLink.Session

set_option autoImplicit false

open Wire Metrics Transfer

/-! ## Faults and what is logged of them -/

/-- The fault in an error frame. -/
def fault? (frame : Bytes) : Option Device.Fault :=
  match Response.decode frame with
  | .ok (.error fault) => some fault
  | _ => none

/-- The entry that is logged. -/
def Event.entry? : Event → Option LogEntry
  | .noted (.log entry) => some entry
  | _ => none

/-- The entry says that the device has reported an error. -/
def LogEntry.ofFault (entry : LogEntry) : Bool := entry.line = "WARN device reported an error"

/-- What events log of faults. -/
def warnings (events : List Event) : List LogEntry :=
  (events.filterMap Event.entry?).filter LogEntry.ofFault

namespace Service

/-- The operations that read or write the blocks of a configuration. -/
def transfers : Service → Bool
  | readPayload | readConfig | writePayload _ | writeConfig _ => true
  | _ => false

/-- The frames that an operation takes for responses, of those that it receives. Behind the header
of a configuration come blocks. -/
def responses : Service → List Bytes → List Bytes
  | readPayload, frames | readConfig, frames => frames.take 1
  | _, frames => frames

/-- The faults that the device reports to an operation. -/
def faults (service : Service) (frames : List Bytes) : List Device.Fault :=
  (service.responses frames).filterMap fault?

/-- The faults that an operation logs. -/
def logged (service : Service) (frames : List Bytes) : List Device.Fault :=
  if service.transfers then [] else service.faults frames

end Service

/-- No other entry has the text of a fault. -/
theorem ofFault_iff {entry : LogEntry} :
    entry.ofFault = true ↔ ∃ fault, entry = .deviceError fault := by
  rw [LogEntry.ofFault, decide_eq_true_eq]
  cases entry <;>
    simp [LogEntry.line, LogEntry.level, LogEntry.message, LogLevel.name, ToString.toString]

theorem warnings_cons (event : Event) (events : List Event) :
    warnings (event :: events) =
      event.entry?.toList.filter LogEntry.ofFault ++ warnings events := by
  rw [warnings, warnings, ← List.filter_append]
  cases logged : event.entry? <;> simp [logged]

/-- The frames received and what is logged of faults. -/
structure Tidings where
  frames : List Bytes := []
  entries : List LogEntry := []

namespace Tidings

def receive (tidings : Tidings) (frame : Bytes) : Tidings :=
  { tidings with frames := tidings.frames ++ [frame] }

def watch (tidings : Tidings) (event : Event) : Tidings where
  frames := tidings.frames ++ event.frame?.toList
  entries := tidings.entries ++ event.entry?.toList.filter LogEntry.ofFault

theorem watch_patient : Patient watch where
  sending _ _ := by simp [watch, Event.frame?, Event.entry?]
  receiving _ := by simp [watch, Event.frame?, Event.entry?]
  closed _ := by simp [watch, Event.frame?, Event.entry?]

theorem watch_sent (tidings : Tidings) (frame : Bytes) : tidings.watch (.sent frame) = tidings := by
  simp [watch, Event.frame?, Event.entry?]

theorem watch_received (tidings : Tidings) (frame : Bytes) :
    tidings.watch (.received frame) = tidings.receive frame := by
  simp [watch, receive, Event.frame?, Event.entry?]

theorem watch_deviceError (tidings : Tidings) (fault : Device.Fault) :
    tidings.watch (.noted (.log (.deviceError fault))) =
      { tidings with entries := tidings.entries ++ [.deviceError fault] } := by
  have reports : (LogEntry.deviceError fault).ofFault = true := ofFault_iff.2 ⟨fault, rfl⟩
  simp [watch, Event.frame?, Event.entry?, reports]

theorem foldl_watch (events : List Event) (tidings : Tidings) :
    events.foldl watch tidings =
      ⟨tidings.frames ++ events.filterMap Event.frame?, tidings.entries ++ warnings events⟩ := by
  induction events generalizing tidings with
  | nil => simp [Session.warnings]
  | cons event events ih =>
      rw [List.foldl_cons, ih, warnings_cons]
      cases arrived : event.frame? <;> simp [watch, arrived]

/-- Of the frames received, the faults that are due have been logged. -/
def Told (due : List Bytes → List Device.Fault) (tidings : Tidings) : Prop :=
  tidings.entries = (due tidings.frames).map .deviceError

end Tidings

open Tidings

/-! ## Steps -/

section Steps

variable {α β : Type} {due : List Bytes → List Device.Fault} {labels : OperationLabels}
  {tidings : Tidings}

/-- The discipline of an operation that has logged what is due whenever the transport is to do
something. -/
abbrev warning (due : List Bytes → List Device.Fault) : Discipline Answer Tidings :=
  watching watch (Told due) fun _ => True

/-- A procedure that has logged what is due goes on so, and ends so. -/
def Warns (due : List Bytes → List Device.Fault) (procedure : Procedure α) : Prop :=
  ∀ tidings : Tidings, tidings.Told due →
    procedure.Keeps (warning due) (fun _ => Told due) tidings

theorem warns_done (value : α) : Warns due (.done value) := fun _ told => told

theorem warns_attempt (result : Except Failure α) : Warns due (attempt result).run :=
  fun _ told => told

theorem warns_bind {procedure : Procedure α} {next : α → Procedure β}
    (first : Warns due procedure) (rest : ∀ value, Warns due (next value)) :
    Warns due (procedure >>= next) := by
  intro tidings told
  rw [Dialogue.keeps_bind]
  exact Dialogue.keeps_mono watching_monotone (fun value after told => rest value after told)
    (first tidings told)

theorem warns_then {operation : Operation α} {next : α → Operation β}
    (first : Warns due operation.run) (rest : ∀ value, Warns due (next value).run) :
    Warns due (operation >>= next).run := by
  rw [ExceptT.run_bind]
  refine warns_bind first fun result => ?_
  cases result with
  | ok value => exact rest value
  | error failure => exact warns_done _

theorem warns_lift {procedure : Procedure Unit} (warns : Warns due procedure) :
    Warns due (ExceptT.lift procedure : Operation Unit).run := by
  have unfolded : (ExceptT.lift procedure : Operation Unit).run =
      procedure >>= fun value => pure (.ok value) := ExceptT.run_lift procedure
  rw [unfolded]
  exact warns_bind warns fun _ => warns_done _

/-- Other notices than entries about faults change nothing. -/
theorem warned_note {goal : Unit → Tidings → Prop} {notice : Notice}
    (other : ∀ fault, notice ≠ .log (.deviceError fault)) :
    (note notice).Keeps (warning due) goal tidings ↔ goal () tidings := by
  have silent : (Event.entry? (.noted notice)).toList.filter LogEntry.ofFault = [] := by
    cases notice with
    | log entry =>
        refine List.filter_cons_of_neg fun reports => ?_
        obtain ⟨fault, rfl⟩ := ofFault_iff.1 reports
        exact other fault rfl
    | _ => rfl
  have same : watch tidings (.noted notice) = tidings := by
    rw [watch, silent]
    simp [Event.frame?]
  have kept : (note notice).Keeps (warning due) goal tidings ↔
      True ∧ goal () (watch tidings (.noted notice)) := Iff.rfl
  rw [kept, same, true_and]

theorem warned_count {goal : Unit → Tidings → Prop} (metric : Metric) (more : Labels)
    (amount : Nat) :
    (count labels metric more amount).Keeps (warning due) goal tidings ↔ goal () tidings :=
  warned_note nofun

theorem warned_late {goal : Unit → Tidings → Prop} :
    (log .receiveTimedOut).Keeps (warning due) goal tidings ↔ goal () tidings := warned_note nofun

theorem warns_note {notice : Notice} (other : ∀ fault, notice ≠ .log (.deviceError fault)) :
    Warns due (note notice) := fun _ told => (warned_note other).2 told

theorem warns_count (metric : Metric) (more : Labels) (amount : Nat) :
    Warns due (count labels metric more amount) :=
  fun _ told => (warned_count metric more amount).2 told

theorem warns_countBlocks (direction : String) (blocks : Nat) :
    Warns due (countBlocks labels direction blocks).run := warns_lift (warns_count _ _ _)

theorem warns_report (level : Decimal.Binary64) (progress : Progress) :
    Warns due (report labels level progress) :=
  warns_bind (warns_note nofun) fun _ => warns_note nofun

theorem warns_send (frame : Bytes) : Warns due (send labels frame).run := by
  intro tidings told
  rw [run_send, Dialogue.keeps_ask]
  refine ⟨told, fun answer => ?_⟩
  cases answer with
  | error error => exact told
  | ok =>
      show Dialogue.Keeps (warning due) _ _ (watch tidings (.sent frame))
      rw [watch_sent]
      exact warns_bind (warns_count _ _ _) (fun _ => warns_bind (warns_count _ _ _) fun _ =>
        warns_done _) tidings told

theorem warns_blocks (blocks : List Block) :
    Warns due (blocks.forM fun block => send labels block.bytes : Operation PUnit).run := by
  induction blocks with
  | nil => exact warns_done _
  | cons block blocks ih => exact warns_then (warns_send block.bytes) fun _ => ih

theorem warned_receive {goal : Except Failure Bytes → Tidings → Prop} (told : tidings.Told due)
    (received : ∀ frame, goal (.ok frame) (tidings.receive frame))
    (lost : ∀ error, goal (.error (.connectivity error)) tidings) :
    (receive labels).run.Keeps (warning due) goal tidings := by
  rw [run_receive, Dialogue.keeps_ask]
  refine ⟨told, fun answer => ?_⟩
  cases answer with
  | error error =>
      cases error with
      | timedOut =>
          show Dialogue.Keeps (warning due) goal _ _
          rw [Dialogue.keeps_bind, warned_late]
          exact lost .timedOut
      | _ => exact lost _
  | ok frame =>
      show Dialogue.Keeps (warning due) goal _ (watch tidings (.received frame))
      rw [watch_received, Dialogue.keeps_bind, warned_count, Dialogue.keeps_bind, warned_count]
      exact received frame

end Steps

/-! ## Operations that log every fault -/

section Responses

variable {α : Type} {labels : OperationLabels}

/-- With a frame more, its fault is due as well. -/
theorem Tidings.Told.receive {tidings : Tidings} {frame : Bytes} {fault : Option Device.Fault}
    (told : tidings.Told (List.filterMap fault?)) (reads : fault? frame = fault) :
    Told (List.filterMap fault?) ⟨tidings.frames ++ [frame],
      tidings.entries ++ fault.toList.map .deviceError⟩ := by
  have more : (tidings.frames ++ [frame]).filterMap fault? =
      tidings.frames.filterMap fault? ++ fault.toList := by
    rw [← reads]
    cases reported : fault? frame <;> simp [reported]
  rw [Told, more, List.map_append, told]

/-- **A response is logged exactly if it is an error frame.** -/
theorem warns_receiveResponse :
    Warns (List.filterMap fault?) (receiveResponse labels).run := by
  intro tidings told
  unfold receiveResponse
  rw [keeps_then]
  refine warned_receive told (fun frame => ?_) fun _ => told
  -- The frame is in, and with it its fault is due, which is logged before the next wait or the end.
  have silent (reads : fault? frame = none) :
      Told (List.filterMap fault?) (tidings.receive frame) := by
    simpa [Tidings.receive] using told.receive reads
  rw [onward_ok, keeps_then, keeps_attempt]
  cases decoded : Response.decode frame with
  | error error => exact silent (by rw [fault?, decoded])
  | ok response =>
      rw [Except.mapError, onward_ok, keeps_then]
      cases response with
      | error fault =>
          have reads : fault? frame = some fault := by rw [fault?, decoded]
          refine ⟨trivial, ?_⟩
          rw [watch_deviceError]
          exact told.receive reads
      | _ => exact silent (by rw [fault?, decoded])

theorem warns_exchange (command : Command) :
    Warns (List.filterMap fault?) (exchange labels command).run :=
  warns_then (warns_send command.encode) fun _ => warns_receiveResponse

theorem warns_sendChunk (chunk : Firmware.Chunk) :
    Warns (List.filterMap fault?) (sendChunk labels chunk).run :=
  warns_then (warns_attempt _) fun command =>
    warns_then (warns_send command.encode) fun _ =>
      warns_then (warns_attempt _) fun packets =>
        warns_then (warns_blocks packets) fun _ =>
          warns_then (warns_countBlocks _ _) fun _ => warns_receiveResponse

theorem warns_goOn {size : UInt32} {chunks : List Firmware.Chunk}
    (rest : Warns (List.filterMap fault?) (sendChunks labels size chunks).run)
    (response : Response) :
    Warns (List.filterMap fault?) (goOn labels size chunks response).run := by
  cases response with
  | progress received total => exact warns_then (warns_lift (warns_report _ _)) fun _ => rest
  | complete => exact warns_lift (warns_report _ _)
  | ok => exact rest
  | error fault => exact warns_attempt _
  | state status => exact warns_attempt _
  | config blocks => exact warns_attempt _

theorem warns_sendChunks (size : UInt32) (chunks : List Firmware.Chunk) :
    Warns (List.filterMap fault?) (sendChunks labels size chunks).run := by
  induction chunks with
  | nil => exact warns_attempt _
  | cons chunk chunks ih =>
      rw [sendChunks_cons]
      exact warns_then (warns_sendChunk chunk) (warns_goOn ih)

/-- That an update has failed is an entry of another kind. -/
theorem warns_abort (failure : Failure) :
    Warns (List.filterMap fault?) (abort labels failure) := by
  cases failure with
  | connectivity error => exact warns_done _
  | _ =>
      exact warns_bind (warns_note nofun) fun _ =>
        warns_bind (warns_exchange .updateAbort) fun _ => warns_done _

theorem warns_sendImage (image : Firmware.Image) :
    Warns (List.filterMap fault?) (sendImage labels image).run := by
  refine warns_then (warns_exchange _) fun response => warns_then (warns_attempt _) fun _ => ?_
  rw [ExceptT.run_mk]
  refine warns_bind (warns_sendChunks _ _) fun result => ?_
  cases result with
  | ok => exact warns_done _
  | error failure => exact warns_bind (warns_abort failure) fun _ => warns_done _

end Responses

/-! ## Operations that log no fault -/

section Blocks

variable {labels : OperationLabels}

/-- A frame that is taken for a response elsewhere, or for a block, is not logged. -/
theorem warns_receive : Warns (fun _ => []) (receive labels).run :=
  fun _ told => warned_receive told (fun _ => told) fun _ => told

theorem warns_receiveBlocks (left : Nat) (transfer : ReadTransfer) :
    Warns (fun _ => []) (receiveBlocks labels left transfer).run := by
  induction left generalizing transfer with
  | zero => exact warns_done _
  | succ left ih =>
      exact warns_then warns_receive fun frame => warns_then (warns_attempt _) fun _ => ih _

theorem warns_readBlocks : Warns (fun _ => []) (readBlocks labels).run := by
  rw [readBlocks_eq]
  exact warns_then (warns_send _) fun _ =>
    warns_then warns_receive fun _ =>
      warns_then (warns_attempt _) fun _ =>
        warns_then (warns_receiveBlocks _ _) fun _ =>
          warns_then (warns_countBlocks _ _) fun _ => warns_attempt _

theorem warns_writeBlocks (payload : Bytes) :
    Warns (fun _ => []) (writeBlocks labels payload).run := by
  cases made : WriteTransfer.ofPayload payload with
  | error error =>
      rw [writeBlocks_of_refused labels made]
      exact warns_attempt _
  | ok transfer =>
      rw [writeBlocks_of_made labels made]
      exact warns_then (warns_send _) fun _ =>
        warns_then (warns_blocks _) fun _ =>
          warns_then (warns_countBlocks _ _) fun _ =>
            warns_then warns_receive fun _ => warns_attempt _

end Blocks

/-! ## Whole operations -/

section Services

variable {α : Type} {due : List Bytes → List Device.Fault} {device name : String}

theorem warns_recorded {body : OperationLabels → Operation α}
    (warns : Warns due (body ⟨device, name⟩).run) : Warns due (recorded device name body).run := by
  rw [run_recorded]
  refine warns_bind warns fun result => warns_bind (warns_note nofun) fun _ =>
    warns_bind (warns_note nofun) fun _ => ?_
  cases result with
  | ok value => exact warns_done _
  | error failure => exact warns_bind (warns_note nofun) fun _ => warns_done _

theorem warns_simple (command : Command) :
    Warns (List.filterMap fault?) (simple device command).run :=
  warns_recorded (warns_then (warns_exchange command) fun _ => warns_attempt _)

/-- Before the first frame nothing is to be logged. -/
theorem logged_nil (service : Service) : ({} : Tidings).Told service.logged := by
  cases service <;> rfl

/-- **Every operation logs the faults of its responses as they come**, and if it moves a
configuration none. -/
theorem procedure_warns (device : String) (service : Service) :
    Warns service.logged (service.procedure device) := by
  cases service with
  | getStatus =>
      show Warns _ (getStatus device).run
      unfold getStatus
      refine warns_recorded (warns_then (warns_exchange .getState) fun response => ?_)
      cases response <;> exact warns_attempt _
  | updateStatus =>
      show Warns _ (updateStatus device).run
      unfold updateStatus
      refine warns_recorded (warns_then (warns_exchange .updateStatus) fun response => ?_)
      cases response <;> exact warns_attempt _
  | commitConfig => exact warns_simple .commitConfig
  | setKeepAwake enabled => exact warns_simple (.setKeepAwake enabled)
  | reboot => exact warns_simple .reboot
  | updateAbort => exact warns_simple .updateAbort
  | flash data =>
      show Warns _ (flash device data).run
      unfold flash
      split
      · exact warns_recorded (warns_sendImage _)
      · exact warns_attempt _
  | readPayload => exact warns_recorded warns_readBlocks
  | readConfig => exact warns_then (warns_recorded warns_readBlocks) fun _ => warns_attempt _
  | writePayload payload =>
      show Warns _ (writePayload device payload).run
      exact warns_recorded (warns_writeBlocks payload)
  | writeConfig document =>
      show Warns _ (writeConfig device document).run
      unfold writeConfig
      split
      · exact warns_recorded (warns_writeBlocks _)
      · exact warns_attempt _

end Services

/-! ## What is logged -/

section Callers

variable {ι σ : Type} [DecidableEq ι] {medium : Medium ι σ}

/-- **Which faults are logged.** Whatever the callers, the transport and the owner of the channel
do: a caller that has ended, or that waits for the transport, has logged the fault of every response
that was an error frame, in their order and once each, and nothing else under that text; unless its
operation reads or writes a configuration, which logs none. -/
theorem faults_logged (device : String) (service : ι → Service) {first : Shared σ}
    {trace : List (Deed ι)}
    {crowd : Crowd (fun caller => Except Failure (service caller).Value) σ}
    (run : Crowd.Run medium (fun caller => (service caller).procedure device) (.start first)
      trace crowd) (caller : ι) (rests : crowd.Rests caller) :
    warnings (own caller trace) =
      if (service caller).transfers then []
      else ((service caller).faults ((own caller trace).filterMap Event.frame?)).map
        .deviceError := by
  have told := run.watched_of_rests (Told (service caller).logged) watch_patient
    (procedure_warns device (service caller) {} (logged_nil _)) (logged_nil _)
    (fun _ told => told) (fun _ _ told => told) rests
  rw [foldl_watch, List.nil_append, List.nil_append, Told, Service.logged] at told
  refine told.trans ?_
  split <;> rfl

end Callers

/-- A command that the device refuses is logged with the fault of the refusal. -/
theorem faults_logged_refusing :
    ∃ (trace : List (Deed Unit))
      (crowd : Crowd (fun _ => Except Failure Unit) (Underway Script)),
      Crowd.Run (Medium.ofTransport Unit Script none) (fun _ => Service.reboot.procedure "device")
        (.start refusing.shared) trace crowd ∧
      crowd.stage () = .ended (.error (.device .timeout)) ∧
      (own () trace).filterMap Event.frame? = [(Response.error .timeout).encode] ∧
      warnings (own () trace) = [.deviceError .timeout] := by
  have start : Crowd.Run (Medium.ofTransport Unit Script none)
      (fun _ => Service.reboot.procedure "device") (.start refusing.shared) []
      (.start refusing.shared) := .refl
  have ran : refusing.run (Service.reboot.procedure "device") =
      (some (.error (.device .timeout)), (refusing.run (Service.reboot.procedure "device")).2) :=
    rfl
  obtain ⟨deeds, seen, turn⟩ := Channel.run_of_channel_run () ran
  have run := start.serve rfl rfl rfl turn
  have frames : (own () ([] ++ .acquired () :: deeds)).filterMap Event.frame? =
      [(Response.error .timeout).encode] := by
    have alone : own () ([] ++ .acquired () :: deeds) = eventsOf ([] ++ .acquired () :: deeds) :=
      own_of_alone fun _ _ => rfl
    have shown : refusing.seen ++ deeds.filterMap Deed.event? = deeds.filterMap Deed.event? := rfl
    rw [alone, filterMap_eventsOf rfl, List.nil_append, List.filterMap_cons_none rfl, ← shown,
      ← seen]
    rfl
  have logged := faults_logged "device" (fun _ : Unit => .reboot) run ()
    (fun rest busy running => by cases running)
  rw [frames] at logged
  exact ⟨_, _, run, rfl, frames, logged⟩

/-- **A refused read or write is not logged.** The caller is told of the fault, and the frame that
reports it is the response to the operation. -/
theorem fault_unlogged :
    let read := refusing.run (Service.readPayload.procedure "device")
    let write := refusing.run ((Service.writePayload []).procedure "device")
    (read.1 = some (.error (.device .timeout)) ∧
      Service.readPayload.faults (read.2.seen.filterMap Event.frame?) = [.timeout] ∧
      warnings read.2.seen = []) ∧
    (write.1 = some (.error (.device .timeout)) ∧
      (Service.writePayload []).faults (write.2.seen.filterMap Event.frame?) = [.timeout] ∧
      warnings write.2.seen = []) :=
  ⟨⟨rfl, rfl, rfl⟩, rfl, rfl, rfl⟩

end ControlLink.Session
