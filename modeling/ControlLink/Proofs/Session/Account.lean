/-
# ControlLink.Proofs.Session.Account — every operation is even with its auditor

Each operation is followed through the steps that it is made of. A write and a chunk of an update
record their blocks once the last of them is sent, a read once the last is received, and whatever
breaks off before that records none. An update goes on to its abort only while no row of blocks is
under way (`Steady`), so that the abort is not taken for one of them.

`procedure_audited` says that every operation keeps the discipline `auditing`, ends even, and has
then recorded what it is charged with as a whole and nothing else (`Service.reckoning`).
-/
import ControlLink.Proofs.Session.Audit

namespace ControlLink.Session

set_option autoImplicit false

open Wire Metrics Transfer Audit

/-! ## Operations -/

section Operations

variable {α : Type} {labels : OperationLabels}

/-- The operation is even with its auditor at its end. -/
def Evened : Except Failure α → Audit → Prop := fun _ audit => audit.Even

theorem audited_writeBlocks (labels : OperationLabels) (payload : Bytes) (log : List Sample) :
    (writeBlocks labels payload).run.Keeps (auditing labels.device) Evened
      (upTo labels.device (.idle, none) log) := by
  cases made : WriteTransfer.ofPayload payload with
  | error error =>
      rw [writeBlocks_of_refused labels made, keeps_attempt]
      exact even_upTo _ _ log
  | ok transfer =>
      obtain ⟨-, -, fresh⟩ := WriteTransfer.ofPayload_eq_ok_iff.1 made
      rw [writeBlocks_of_made labels made, keeps_then]
      refine audited_send (fun log => ?_) fun error => even_upTo _ _ log
      rw [Row.sent_encode, onward_ok, keeps_then, Row.opened, ← fresh.length_eq]
      refine audited_blocks (fun log => ?_) (fun error row log => even_upTo _ row log) _ log
      rw [onward_ok, keeps_then]
      refine audited_countBlocks .write fun log => ?_
      rw [onward_ok, keeps_then]
      exact audited_receive (fun frame log => even_upTo _ _ log) fun error => even_upTo _ _ log

theorem audited_sendChunk {goal : Except Failure Response → Audit → Prop} {chunk : Firmware.Chunk}
    {command : Command} {log : List Sample} (headed : chunk.header = .ok command)
    (received : ∀ frame log, goal (reading frame) (upTo labels.device (.idle, none) log))
    (lost : ∀ error row log,
      goal (.error (.connectivity error)) (upTo labels.device (row, none) log)) :
    (sendChunk labels chunk).run.Keeps (auditing labels.device) goal
      (upTo labels.device (.idle, none) log) := by
  obtain ⟨packets, blocks, rfl, split, counted⟩ := Firmware.Chunk.packets_of_header headed
  unfold sendChunk sendCommand
  simp only [headed, split, Except.mapError, attempt_ok_bind]
  rw [keeps_then]
  refine audited_send (fun log => ?_) fun error => lost error _ log
  rw [Row.sent_encode, onward_ok, keeps_then, Row.opened, ← counted]
  refine audited_blocks (fun log => ?_) lost _ log
  rw [onward_ok, keeps_then]
  refine audited_countBlocks .update fun log => ?_
  rw [onward_ok]
  exact audited_receiveResponse received fun error log => lost error _ log

/-- The operation is even with its auditor, and unless it has lost the channel, no row is under
way. -/
def Steady (device : String) (result : Except Failure α) (audit : Audit) : Prop :=
  ∃ row log, audit = upTo device (row, none) log ∧
    ((∃ error, result = .error (.connectivity error)) ∨ row = .idle)

theorem Steady.even {device : String} {result : Except Failure α} {audit : Audit}
    (steady : Steady device result audit) : audit.Even := by
  obtain ⟨row, log, rfl, -⟩ := steady
  exact even_upTo device row log

theorem steady_idle (device : String) (result : Except Failure α) (log : List Sample) :
    Steady device result (upTo device (.idle, none) log) := ⟨_, log, rfl, .inr rfl⟩

/-- After the response to a chunk, more chunks follow or none. -/
theorem audited_goOn {size : UInt32} {chunks : List Firmware.Chunk} {log : List Sample}
    (rest : ∀ log, (sendChunks labels size chunks).run.Keeps (auditing labels.device)
      (Steady labels.device) (upTo labels.device (.idle, none) log)) (response : Response) :
    (goOn labels size chunks response).run.Keeps (auditing labels.device) (Steady labels.device)
      (upTo labels.device (.idle, none) log) := by
  cases response with
  | progress received total =>
      have unfolded : goOn labels size chunks (.progress received total) =
          (do
            ExceptT.lift (report labels (Progress.percent ⟨received, total⟩) ⟨received, total⟩)
            sendChunks labels size chunks) := rfl
      rw [unfolded, keeps_then]
      exact audited_lift (audited_report (rest log))
  | complete => exact audited_lift (audited_report (steady_idle _ _ log))
  | ok => exact rest log
  | error fault => exact steady_idle _ _ log
  | state status => exact steady_idle _ _ log
  | config blocks => exact steady_idle _ _ log

theorem audited_sendChunks {size : UInt32} {chunks : List Firmware.Chunk}
    (headed : ∀ chunk ∈ chunks, ∃ command, chunk.header = .ok command) (log : List Sample) :
    (sendChunks labels size chunks).run.Keeps (auditing labels.device) (Steady labels.device)
      (upTo labels.device (.idle, none) log) := by
  induction chunks generalizing log with
  | nil => exact steady_idle _ _ log
  | cons chunk chunks ih =>
      obtain ⟨⟨command, first⟩, others⟩ := List.forall_mem_cons.1 headed
      rw [sendChunks_cons, keeps_then]
      refine audited_sendChunk first (fun frame log => ?_) fun error row log => ?_
      · cases reading frame with
        | error failure => exact steady_idle _ _ log
        | ok response => exact audited_goOn (ih others) response
      · exact ⟨row, log, rfl, .inl ⟨error, rfl⟩⟩

/-- An update is aborted only while no row is under way. -/
theorem audited_abort {failure : Failure} {audit : Audit}
    (steady : Steady labels.device (.error failure : Except Failure Unit) audit) :
    (abort labels failure).Keeps (auditing labels.device) (fun _ audit => audit.Even) audit := by
  have even := steady.even
  obtain ⟨row, log, rfl, own⟩ := steady
  cases failure with
  | connectivity error => exact even
  | _ =>
      obtain ⟨_, lost⟩ | rfl := own
      · cases lost
      · unfold abort
        rw [Dialogue.keeps_bind, audited_log, Dialogue.keeps_bind]
        exact audited_exchange rfl (fun frame log => even_upTo _ _ log)
          fun error log => even_upTo _ _ log

theorem audited_sendImage (labels : OperationLabels) (image : Firmware.Image) (log : List Sample) :
    (sendImage labels image).run.Keeps (auditing labels.device) Evened
      (upTo labels.device (.idle, none) log) := by
  unfold sendImage
  rw [keeps_then]
  refine audited_exchange rfl (fun frame log => ?_) fun error log => even_upTo _ _ log
  cases reading frame with
  | error failure => exact even_upTo _ _ log
  | ok response =>
      rw [onward_ok, keeps_then, keeps_attempt]
      cases acknowledged response with
      | error failure => exact even_upTo _ _ log
      | ok =>
          rw [onward_ok, ExceptT.run_mk, Dialogue.keeps_bind]
          have headed (chunk : Firmware.Chunk) (member : chunk ∈ image.chunks) :
              ∃ command, chunk.header = .ok command := Firmware.Chunk.header_of_mem_chunks member
          refine Dialogue.keeps_mono watching_monotone (fun result audit steady => ?_)
            (audited_sendChunks headed log)
          cases result with
          | ok => exact steady.even
          | error failure =>
              rw [Dialogue.keeps_bind]
              exact audited_abort steady

theorem protocol_ne_document (error : WireError) (reason : DocumentError) :
    Failure.protocol error ≠ .document reason := nofun

theorem lost_ne_document (error : LinkError) (reason : DocumentError) :
    Failure.connectivity error ≠ .document reason := nofun

/-- The announced blocks are received one by one, until the shipment is complete. -/
theorem audited_receiveBlocks {goal : Except Failure ReadTransfer → Audit → Prop}
    {count : BlockCount} (whole : ∀ transfer frames log, transfer.Holding count frames →
      frames.length = count.val →
      goal (.ok transfer) (upTo labels.device (.idle, some ⟨.read, count.val⟩) log))
    (broken : ∀ failure row log, (∀ error, failure ≠ .document error) →
      goal (.error failure) (upTo labels.device (row, none) log)) (left : Nat)
    {transfer : ReadTransfer} {frames : List Bytes} (holding : transfer.Holding count frames)
    (length_eq : frames.length + left = count.val) (log : List Sample) :
    (receiveBlocks labels left transfer).run.Keeps (auditing labels.device) goal
      (upTo labels.device (Row.incoming count.val left) log) := by
  induction left generalizing transfer frames log with
  | zero => exact whole transfer frames log holding length_eq
  | succ left ih =>
      have row : Row.incoming count.val (left + 1) = (.receiving count.val (left + 1), none) :=
        if_neg (Nat.succ_ne_zero left)
      have room : frames.length < count.val := by omega
      unfold receiveBlocks
      rw [row, keeps_then]
      refine audited_receive (fun frame log => ?_) fun error =>
        broken _ _ log (lost_ne_document error)
      rw [onward_ok, keeps_then, keeps_attempt, Row.received]
      by_cases fits : frame.length ≤ blockSize
      · obtain ⟨accepted, holding'⟩ := ReadTransfer.block_of_holding holding room fits
        rw [if_pos fits, accepted]
        exact ih holding' (by rw [List.length_append, List.length_singleton]; omega) log
      · rw [if_neg fits, ReadTransfer.block_of_oversize holding room (Nat.lt_of_not_le fits)]
        exact broken _ _ log (protocol_ne_document _)

theorem ofWire_ne_document (error : WireError) (reason : DocumentError) :
    Failure.ofWire error ≠ .document reason := by
  cases error <;> nofun

/-- A header is not refused for the document behind it. -/
theorem announced_ne_document {frame : Bytes} {failure : Failure}
    (refused : ReadTransfer.announced frame = .error failure) (reason : DocumentError) :
    failure ≠ .document reason := by
  unfold ReadTransfer.announced at refused
  split at refused
  · split at refused
    · cases refused
    · cases refused
      exact ofWire_ne_document _ reason
  · cases refused
    exact nofun
  · cases refused
    exact nofun
  · cases refused
    exact ofWire_ne_document _ reason

theorem payload_ne_document (payload : Bytes) (reason : DocumentError) :
    (.ok payload : Except Failure Bytes) ≠ .error (.document reason) := nofun

/-- A read that fails does not fail for the document that it reads. -/
def Fetching (result : Except Failure Bytes) (audit : Audit) : Prop :=
  audit.Even ∧ ∀ reason, result ≠ .error (.document reason)

theorem audited_readBlocks (labels : OperationLabels) (log : List Sample) :
    (readBlocks labels).run.Keeps (auditing labels.device) Fetching
      (upTo labels.device (.idle, none) log) := by
  have broken (failure : Failure) (row : Row) (log : List Sample)
      (other : ∀ reason, failure ≠ .document reason) :
      Fetching (.error failure) (upTo labels.device (row, none) log) :=
    ⟨even_upTo _ row log, fun reason same => other reason (Except.error.inj same)⟩
  rw [readBlocks_eq, keeps_then]
  refine audited_send (fun log => ?_) fun error =>
    broken _ _ log (lost_ne_document error)
  rw [Row.sent_encode, onward_ok, keeps_then]
  refine audited_receive (fun frame log => ?_) fun error =>
    broken _ _ log (lost_ne_document error)
  rw [onward_ok, keeps_then, keeps_attempt, Row.received]
  cases header : ReadTransfer.announced frame with
  | error failure =>
      rw [Row.announced_of_refused header]
      exact broken failure _ log (announced_ne_document header)
  | ok count =>
      rw [onward_ok, keeps_then, Row.announced_of_announced header]
      refine audited_receiveBlocks (fun transfer frames log holding full => ?_) broken _
        (ReadTransfer.opened_holding count) (Nat.zero_add _) log
      rw [onward_ok, keeps_then]
      refine audited_countBlocks .read fun log => ?_
      rw [onward_ok, keeps_attempt, ReadTransfer.finish_of_holding holding full]
      exact ⟨even_upTo _ _ log, payload_ne_document _⟩

end Operations

/-! ## What is recorded of an operation as a whole -/

/-- The samples of an operation that has come to its end, with the failure that it is charged
with. -/
def reckoned (labels : OperationLabels) (charged : Option FailureKind) : List Sample :=
  [⟨.operations, labels.toLabels, .increment 1⟩, ⟨.operationDuration, labels.toLabels, .duration⟩]
    ++ charged.toList.map fun kind =>
      ⟨.operationErrors, labels.withMore [("kind", kind.name)], .increment 1⟩

/-- The kind of the failure, if there is one. -/
def failureKind? {α : Type} : Except Failure α → Option FailureKind
  | .ok _ => none
  | .error failure => some failure.kind

/-- All that crossed is recorded, and so is the operation as a whole. -/
structure Audit.Closed (labels : OperationLabels) (charged : Option FailureKind) (audit : Audit) :
    Prop where
  even : audit.traffic = audit.due
  reckoned : audit.outcome = reckoned labels charged

section Recording

variable {α : Type} {device name : String} {body : OperationLabels → Operation α} {audit : Audit}

theorem audited_outcome {goal : Unit → Audit → Prop} {sample : Sample}
    (fair : Fair device (.sample sample)) (no_traffic : ofTraffic sample = false)
    (outcome : ofOutcome sample = true)
    (after : goal () { audit with outcome := audit.outcome ++ [sample] }) :
    (note (.sample sample)).Keeps (auditing device) goal audit := by
  refine audited_sample fair (List.filter_cons_of_neg (by simp [no_traffic]))
    (List.filter_cons_of_pos outcome) ?_
  rw [List.filter_nil, List.filter_nil, List.append_nil]
  exact after

/-- An operation that is even with its auditor is then recorded as a whole. -/
theorem audited_recorded {goal : Except Failure α → Audit → Prop}
    (kept : (body ⟨device, name⟩).run.Keeps (auditing device) (fun result audit => audit.Even ∧
      ∀ audit : Audit, audit.Closed ⟨device, name⟩ (failureKind? result) → goal result audit)
      audit) :
    (recorded device name body).run.Keeps (auditing device) goal audit := by
  rw [run_recorded, Dialogue.keeps_bind]
  refine Dialogue.keeps_mono watching_monotone (fun result audit ended => ?_) kept
  obtain ⟨⟨even, unsaid⟩, after⟩ := ended
  rw [Dialogue.keeps_bind]
  refine audited_outcome (fair_sample (by decide) rfl rfl rfl) rfl rfl ?_
  rw [Dialogue.keeps_bind]
  refine audited_outcome (fair_sample (by decide) rfl rfl rfl) rfl rfl ?_
  rw [unsaid]
  cases result with
  | ok value => exact after _ ⟨even, rfl⟩
  | error failure =>
      rw [Dialogue.keeps_bind]
      refine audited_outcome (fair_sample (by decide) rfl rfl rfl) rfl rfl ?_
      exact after _ ⟨even, rfl⟩

end Recording

/-! ## The services -/

namespace Service

/-- The name under which an operation is recorded. -/
def name : Service → String
  | .getStatus => "get_state"
  | .readPayload | .readConfig => "read_config"
  | .writePayload _ | .writeConfig _ => "write_config"
  | .commitConfig => "commit_config"
  | .setKeepAwake _ => "set_keep_awake"
  | .reboot => "reboot"
  | .updateStatus => "ota_status"
  | .updateAbort => "ota_abort"
  | .flash _ => "flash_firmware"

/-- The failure that an operation is charged with. A read of a document is over with its payload,
and not charged with what is wrong with the document. -/
def charge (service : Service) (result : Except Failure service.Value) : Option FailureKind :=
  match service, result with
  | .readConfig, .error (.document _) => none
  | _, result => failureKind? result

/-- What is to be recorded of an operation as a whole. -/
def reckoning (device : String) (service : Service) (result : Except Failure service.Value) :
    List Sample :=
  reckoned ⟨device, service.name⟩ (service.charge result)

/-- The operation asks its channel for something. -/
def Asking (device : String) (service : Service) : Prop :=
  ∃ action next, service.procedure device = .ask action next

/-- The books of an operation that has ended. One that asks nothing of its channel is not
recorded. -/
def Audited (device : String) (service : Service) (result : Except Failure service.Value)
    (audit : Audit) : Prop :=
  audit.traffic = audit.due ∧
    (service.Asking device → audit.outcome = service.reckoning device result)

end Service

section Services

variable {device : String}

theorem Audit.Closed.audited {service : Service} {result : Except Failure service.Value}
    {audit : Audit} (closed : audit.Closed ⟨device, service.name⟩ (service.charge result)) :
    service.Audited device result audit := ⟨closed.even, fun _ => closed.reckoned⟩

/-- An operation that is recorded as a whole, whatever its failure. -/
theorem audited_whole {α : Type} {name : String} {body : OperationLabels → Operation α}
    {goal : Except Failure α → Audit → Prop}
    (kept : (body ⟨device, name⟩).run.Keeps (auditing device) Evened (upTo device (.idle, none) []))
    (after : ∀ result (audit : Audit), audit.Closed ⟨device, name⟩ (failureKind? result) →
      goal result audit) :
    (recorded device name body).run.Keeps (auditing device) goal {} :=
  audited_recorded (Dialogue.keeps_mono watching_monotone
    (fun result _ even => ⟨even, after result⟩) kept)

/-- An exchange whose reply is judged without a word to the channel. -/
theorem audited_judged {α : Type} (labels : OperationLabels) {command : Command}
    {judge : Response → Operation α} (verdict : Response → Except Failure α)
    (alone : Row.opened command = (.idle, none))
    (judged : ∀ response, judge response = attempt (verdict response)) :
    (exchange labels command >>= judge).run.Keeps (auditing labels.device) Evened
      (upTo labels.device (.idle, none) []) := by
  rw [keeps_then]
  refine audited_exchange alone (fun frame log => ?_) fun error log => even_upTo _ _ log
  cases reading frame with
  | error failure => exact even_upTo _ _ log
  | ok response =>
      rw [onward_ok, judged, keeps_attempt]
      exact even_upTo _ _ log

/-- An exchange that must be acknowledged. -/
theorem audited_simple {command : Command} {goal : Except Failure Unit → Audit → Prop}
    (alone : Row.opened command = (.idle, none))
    (after : ∀ result (audit : Audit),
      audit.Closed ⟨device, command.kind.name⟩ (failureKind? result) → goal result audit) :
    (simple device command).run.Keeps (auditing device) goal {} := by
  unfold simple
  refine audited_whole ?_ after
  exact audited_judged ⟨device, command.kind.name⟩ acknowledged alone fun _ => rfl

/-- A request that a check refuses is not recorded. -/
theorem audited_refused {service : Service} {failure : Failure}
    (refused : service.procedure device =
      (attempt (.error failure) : Operation service.Value).run) :
    (service.procedure device).Keeps (auditing device) (service.Audited device) {} := by
  have silent : ¬ service.Asking device := by
    rintro ⟨action, next, asks⟩
    rw [refused] at asks
    cases asks
  rw [refused, keeps_attempt]
  exact ⟨rfl, fun asks => absurd asks silent⟩

theorem audited_readConfig :
    (Service.readConfig.procedure device).Keeps (auditing device)
      (Service.readConfig.Audited device) {} := by
  have unfolded : Service.readConfig.procedure device =
      (readPayload device >>= fun payload => attempt (Config.ofPayload payload)).run := rfl
  rw [unfolded, keeps_then]
  refine audited_recorded (Dialogue.keeps_mono watching_monotone (fun result audit fetched => ?_)
    (audited_readBlocks ⟨device, "read_config"⟩ []))
  refine ⟨fetched.1, fun audit closed => ?_⟩
  cases result with
  | error failure =>
      refine ⟨closed.even, fun _ => ?_⟩
      have charged : Service.readConfig.charge (.error failure) = some failure.kind := by
        cases failure with
        | document reason => exact absurd rfl (fetched.2 reason)
        | _ => rfl
      rw [Service.reckoning, charged]
      exact closed.reckoned
  | ok payload =>
      rw [onward_ok, keeps_attempt]
      refine ⟨closed.even, fun _ => ?_⟩
      have charged : Service.readConfig.charge (Config.ofPayload payload) = none := by
        unfold Config.ofPayload
        cases Json.parse payload <;> rfl
      rw [Service.reckoning, charged]
      exact closed.reckoned

theorem audited_getStatus : (Service.getStatus.procedure device).Keeps (auditing device)
    (Service.getStatus.Audited device) {} := by
  show (getStatus device).run.Keeps _ _ _
  unfold getStatus
  refine audited_whole ?_ fun _ _ closed => closed.audited
  refine audited_judged ⟨device, "get_state"⟩ statusOf rfl fun response => ?_
  cases response <;> rfl

theorem audited_updateStatus : (Service.updateStatus.procedure device).Keeps (auditing device)
    (Service.updateStatus.Audited device) {} := by
  show (updateStatus device).run.Keeps _ _ _
  unfold updateStatus
  refine audited_whole ?_ fun _ _ closed => closed.audited
  refine audited_judged ⟨device, "ota_status"⟩ progressOf rfl fun response => ?_
  cases response <;> rfl

theorem audited_readPayload : (Service.readPayload.procedure device).Keeps (auditing device)
    (Service.readPayload.Audited device) {} := by
  show (readPayload device).run.Keeps _ _ _
  refine audited_whole ?_ fun _ _ closed => closed.audited
  exact Dialogue.keeps_mono watching_monotone (fun _ _ fetched => fetched.1)
    (audited_readBlocks ⟨device, "read_config"⟩ [])

theorem audited_writePayload {payload : Bytes} {goal : Except Failure Unit → Audit → Prop}
    (after : ∀ result (audit : Audit),
      audit.Closed ⟨device, "write_config"⟩ (failureKind? result) → goal result audit) :
    (writePayload device payload).run.Keeps (auditing device) goal {} :=
  audited_whole (audited_writeBlocks ⟨device, "write_config"⟩ payload []) after

theorem audited_writeConfig (document : Json) :
    ((Service.writeConfig document).procedure device).Keeps (auditing device)
      ((Service.writeConfig document).Audited device) {} := by
  cases fits : Config.toPayload document with
  | error error =>
      have refused : (Service.writeConfig document).procedure device =
          (attempt (.error (.validation error)) : Operation Unit).run := by
        rw [Service.procedure, Service.operation, writeConfig, fits]
      exact audited_refused refused
  | ok payload =>
      have written : (Service.writeConfig document).procedure device =
          (writePayload device payload).run := by
        rw [Service.procedure, Service.operation, writeConfig, fits]
      rw [written]
      exact audited_writePayload fun _ _ closed => closed.audited

theorem audited_flash (data : Bytes) :
    ((Service.flash data).procedure device).Keeps (auditing device)
      ((Service.flash data).Audited device) {} := by
  cases accepted : Firmware.Image.ofBytes data with
  | error error =>
      have refused : (Service.flash data).procedure device =
          (attempt (.error (.validation (.invalidArgument error))) : Operation Unit).run := by
        rw [Service.procedure, Service.operation, flash, accepted]
      exact audited_refused refused
  | ok image =>
      have sent : (Service.flash data).procedure device =
          (recorded device "flash_firmware" fun labels => sendImage labels image).run := by
        rw [Service.procedure, Service.operation, flash, accepted]
      rw [sent]
      exact audited_whole (audited_sendImage ⟨device, "flash_firmware"⟩ image [])
        fun _ _ closed => closed.audited

/-- **Every operation is even with its auditor**: whenever the transport is to do something, all
that crossed is recorded; in the end so is the operation as a whole; and all its samples keep to
their declarations. -/
theorem procedure_audited (device : String) (service : Service) :
    (service.procedure device).Keeps (auditing device) (service.Audited device) {} := by
  cases service with
  | getStatus => exact audited_getStatus
  | readPayload => exact audited_readPayload
  | readConfig => exact audited_readConfig
  | writePayload payload => exact audited_writePayload fun _ _ closed => closed.audited
  | writeConfig document => exact audited_writeConfig document
  | commitConfig => exact audited_simple rfl fun _ _ closed => closed.audited
  | setKeepAwake enabled => exact audited_simple rfl fun _ _ closed => closed.audited
  | reboot => exact audited_simple rfl fun _ _ closed => closed.audited
  | updateStatus => exact audited_updateStatus
  | updateAbort => exact audited_simple rfl fun _ _ closed => closed.audited
  | flash data => exact audited_flash data

end Services

end ControlLink.Session
