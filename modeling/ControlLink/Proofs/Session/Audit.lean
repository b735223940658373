/-
# ControlLink.Proofs.Session.Audit — what an operation records beside what it does

An auditor watches an operation. From the frames that cross it works out by itself which of them are
blocks and which belong together (`Row`), and so what they are to be recorded as; beside that it
keeps what the operation records. `auditing` is the discipline of an operation that is even with its
auditor whenever the transport is to do something, and whose samples all keep to their declarations.

The lemmas `audited_…` say what this asks of each step of an operation.
-/
import ControlLink.Proofs.Session.Conduct
import ControlLink.Proofs.Session.Watch

namespace ControlLink.Session

set_option autoImplicit false

open Wire Metrics Transfer

/-! ## Blocks that cross -/

/-- What blocks are sent or received for. -/
inductive Direction where
  | write
  | update
  | read
deriving DecidableEq

def Direction.name : Direction → String
  | write => "write"
  | update => "ota"
  | read => "read"

/-- So many blocks that were announced together and have all crossed. -/
structure Shipment where
  direction : Direction
  blocks : Nat
deriving DecidableEq

/-- How far a row of blocks has come. -/
inductive Row where
  | idle
  /-- Of so many blocks that a command announced, some are still to be sent. -/
  | sending (direction : Direction) (blocks left : Nat)
  /-- The configuration has been asked for. -/
  | asking
  /-- Of so many blocks that a header announced, some are still to come. -/
  | receiving (blocks left : Nat)

namespace Row

/-- The row with so many blocks left to send, or the shipment that it was. -/
def outgoing (direction : Direction) (blocks left : Nat) : Row × Option Shipment :=
  if left = 0 then (idle, some ⟨direction, blocks⟩) else (sending direction blocks left, none)

/-- The row with so many blocks left to come, or the shipment that it was. -/
def incoming (blocks left : Nat) : Row × Option Shipment :=
  if left = 0 then (idle, some ⟨.read, blocks⟩) else (receiving blocks left, none)

/-- The row that a command opens. -/
def opened : Command → Row × Option Shipment
  | .writeConfig count => outgoing .write count.val count.val
  | .updateData packets _ => outgoing .update packets.val packets.val
  | .readConfig => (asking, none)
  | _ => (idle, none)

/-- The row that a reply to a request for the configuration opens. -/
def announced (frame : Bytes) : Row × Option Shipment :=
  match Response.decode frame with
  | .ok (.config blocks) =>
    if blocks.toNat ≤ blockLimit then incoming blocks.toNat blocks.toNat else (idle, none)
  | _ => (idle, none)

/-- A frame is sent: a block of the row, or else a command. -/
def sent (row : Row) (frame : Bytes) : Row × Option Shipment :=
  match row with
  | sending direction blocks left => outgoing direction blocks (left - 1)
  | _ =>
    match Command.decode frame with
    | .ok command => opened command
    | .error _ => (idle, none)

/-- A frame is received: a reply, or a block of the row if it fits one. -/
def received (row : Row) (frame : Bytes) : Row × Option Shipment :=
  match row with
  | asking => announced frame
  | receiving blocks left =>
    if frame.length ≤ blockSize then incoming blocks (left - 1) else (idle, none)
  | _ => (idle, none)

def step (row : Row) : Event → Row × Option Shipment
  | .sent frame => row.sent frame
  | .received frame => row.received frame
  | _ => (row, none)

/-- The shipments that events complete, with a row already under way. -/
def shipments : Row → List Event → List Shipment
  | _, [] => []
  | row, event :: events => (row.step event).2.toList ++ shipments (row.step event).1 events

theorem sent_encode (command : Command) : idle.sent command.encode = opened command := by
  simp [sent]

/-- The header of a configuration that fits opens its row. -/
theorem announced_of_announced {frame : Bytes} {count : BlockCount}
    (accepted : ReadTransfer.announced frame = .ok count) :
    announced frame = incoming count.val count.val := by
  obtain ⟨blocks, decoded, same⟩ := ReadTransfer.announced_eq_ok_iff.1 accepted
  have fits : blocks.toNat ≤ blockLimit := same ▸ count.le_limit
  simp only [announced, decoded, if_pos fits, same]

theorem announced_of_refused {frame : Bytes} {failure : Failure}
    (refused : ReadTransfer.announced frame = .error failure) : announced frame = (idle, none) := by
  unfold announced
  split
  · rename_i blocks decoded
    by_cases fits : blocks.toNat ≤ blockLimit
    · have accepted : ReadTransfer.announced frame = .ok ⟨blocks.toNat, fits⟩ :=
        ReadTransfer.announced_eq_ok_iff.2 ⟨blocks, decoded, rfl⟩
      rw [refused] at accepted
      cases accepted
    · exact if_neg fits
  · rfl

end Row

/-! ## The books -/

/-- The metrics of what crosses a channel. -/
def trafficMetrics : List Metric :=
  [.framesSent, .bytesSent, .framesReceived, .bytesReceived, .blocksTransferred]

/-- A sample of the frames, bytes or blocks that cross a channel. -/
def ofTraffic (sample : Sample) : Bool := sample.metric ∈ trafficMetrics

/-- A sample of an operation as a whole. -/
def ofOutcome (sample : Sample) : Bool :=
  sample.metric ∈ [.operations, .operationDuration, .operationErrors]

/-- A sample of a metric that has no label but the device. -/
def tally (device : String) (metric : Metric) (amount : Nat) : Sample :=
  ⟨metric, [("device", device)], .increment amount⟩

/-- What a shipment is to be recorded as. -/
def Shipment.due (device : String) (shipment : Shipment) : Sample :=
  ⟨.blocksTransferred, [("device", device), ("direction", shipment.direction.name)],
    .increment shipment.blocks⟩

/-- What a frame that crosses is to be recorded as. -/
def Event.dues (device : String) : Event → List Sample
  | .sent frame => [tally device .framesSent 1, tally device .bytesSent frame.length]
  | .received frame => [tally device .framesReceived 1, tally device .bytesReceived frame.length]
  | _ => []

/-- What is recorded. -/
def Event.sample? : Event → Option Sample
  | .noted (.sample sample) => some sample
  | _ => none

/-- What an auditor has written down. -/
structure Audit where
  row : Row := .idle
  /-- What all that crossed is to be recorded as. -/
  due : List Sample := []
  /-- What is recorded of that. -/
  traffic : List Sample := []
  /-- What is recorded of the operation as a whole. -/
  outcome : List Sample := []

namespace Audit

def watch (device : String) (audit : Audit) (event : Event) : Audit where
  row := (audit.row.step event).1
  due := audit.due ++ event.dues device ++
    (audit.row.step event).2.toList.map (Shipment.due device)
  traffic := audit.traffic ++ event.sample?.toList.filter ofTraffic
  outcome := audit.outcome ++ event.sample?.toList.filter ofOutcome

theorem watch_patient (device : String) : Patient (watch device) where
  sending _ _ := by simp [watch, Row.step, Event.dues, Event.sample?]
  receiving _ := by simp [watch, Row.step, Event.dues, Event.sample?]
  closed _ := by simp [watch, Row.step, Event.dues, Event.sample?]

/-- All that crossed is recorded, and nothing is said yet of the operation as a whole. -/
def Even (audit : Audit) : Prop := audit.traffic = audit.due ∧ audit.outcome = []

/-- Books in which a row or a shipment is the only thing that is still to be recorded. -/
def upTo (device : String) (row : Row × Option Shipment) (log : List Sample) : Audit where
  row := row.1
  due := log ++ row.2.toList.map (Shipment.due device)
  traffic := log

theorem even_upTo (device : String) (row : Row) (log : List Sample) :
    (Audit.upTo device (row, none) log).Even := by
  simp [Even, Audit.upTo]

end Audit

open Audit

/-! ## The discipline -/

/-- A sample keeps to its declaration and names the device first. -/
def Fair (device : String) (notice : Notice) : Prop :=
  ∀ sample, notice = .sample sample →
    sample.Declared ∧ sample.labels.head? = some ("device", device)

/-- The discipline of an operation that is even with its auditor whenever the transport is to do
something. -/
abbrev auditing (device : String) : Discipline Answer Audit :=
  watching (watch device) Even (Fair device)

section Steps

variable {α β : Type} {device : String} {labels : OperationLabels} {audit : Audit}

theorem fair_sample {metric : Metric} {labels : Labels} {amount : Amount}
    (known : metric ∈ Metric.all) (kind_eq : amount.kind = metric.kind)
    (keys_eq : labels.map Prod.fst = metric.labels)
    (names : labels.head? = some ("device", device)) :
    Fair device (.sample ⟨metric, labels, amount⟩) := by
  rintro _ ⟨⟩
  exact ⟨⟨known, kind_eq, keys_eq⟩, names⟩

/-- Other notices than samples are no concern of an auditor. -/
theorem audited_note {goal : Unit → Audit → Prop} {notice : Notice}
    (plain : ∀ sample, notice ≠ .sample sample) :
    (note notice).Keeps (auditing device) goal audit ↔ goal () audit := by
  have unrecorded : Event.sample? (.noted notice) = none := by
    cases notice with
    | sample sample => exact absurd rfl (plain sample)
    | _ => rfl
  have same : watch device audit (.noted notice) = audit := by
    simp [watch, Row.step, Event.dues, unrecorded]
  have kept : (note notice).Keeps (auditing device) goal audit ↔
      Fair device notice ∧ goal () (watch device audit (.noted notice)) := Iff.rfl
  rw [kept, same]
  exact and_iff_right fun sample same => absurd same (plain sample)

/-- A sample is written down as traffic, as the outcome, or not at all. -/
theorem audited_sample {goal : Unit → Audit → Prop} {sample : Sample}
    {traffic outcome : List Sample}
    (fair : Fair device (.sample sample)) (traffic_eq : [sample].filter ofTraffic = traffic)
    (outcome_eq : [sample].filter ofOutcome = outcome)
    (after : goal () { audit with
      traffic := audit.traffic ++ traffic
      outcome := audit.outcome ++ outcome }) :
    (note (.sample sample)).Keeps (auditing device) goal audit := by
  refine ⟨fair, ?_⟩
  have same : watch device audit (.noted (.sample sample)) = { audit with
      traffic := audit.traffic ++ traffic
      outcome := audit.outcome ++ outcome } := by
    simp only [watch, Row.step, Event.dues, Event.sample?, Option.toList_some, Option.toList_none,
      List.map_nil, List.append_nil, traffic_eq, outcome_eq]
  rw [same]
  exact after

theorem audited_told {goal : Unit → Audit → Prop} (progress : Progress) :
    (note (.progress progress)).Keeps (auditing device) goal audit ↔ goal () audit :=
  audited_note nofun

theorem audited_log {goal : Unit → Audit → Prop} (entry : LogEntry) :
    (log entry).Keeps (auditing device) goal audit ↔ goal () audit := audited_note nofun

theorem audited_logFault {goal : Unit → Audit → Prop} (response : Response) :
    (logFault response).Keeps (auditing device) goal audit ↔ goal () audit := by
  cases response with
  | error fault => exact audited_log _
  | _ => rfl

/-- What is done without a word to the channel goes before the rest. -/
theorem audited_lift {goal : Except Failure Unit → Audit → Prop} {procedure : Procedure Unit}
    (kept : procedure.Keeps (auditing device) (fun _ => goal (.ok ())) audit) :
    (ExceptT.lift procedure : Operation Unit).run.Keeps (auditing device) goal audit := by
  have unfolded : (ExceptT.lift procedure : Operation Unit).run =
      procedure >>= fun value => pure (.ok value) := ExceptT.run_lift procedure
  rw [unfolded, Dialogue.keeps_bind]
  exact kept

theorem level_unfiltered (device : String) (level : Decimal.Binary64) :
    [(⟨.updateProgress, [("device", device)], .level level⟩ : Sample)].filter ofTraffic = [] ∧
      [(⟨.updateProgress, [("device", device)], .level level⟩ : Sample)].filter ofOutcome = [] :=
  ⟨rfl, rfl⟩

/-- Progress is recorded as a level, which is neither traffic nor an outcome. -/
theorem audited_report {goal : Unit → Audit → Prop} {level : Decimal.Binary64}
    {progress : Progress} (after : goal () audit) :
    (report labels level progress).Keeps (auditing labels.device) goal audit := by
  unfold report
  rw [Dialogue.keeps_bind]
  obtain ⟨no_traffic, no_outcome⟩ := level_unfiltered labels.device level
  refine audited_sample (fair_sample (by decide) rfl rfl rfl) no_traffic no_outcome ?_
  rw [audited_told, List.append_nil, List.append_nil]
  exact after

theorem audited_traffic {goal : Unit → Audit → Prop} {sample : Sample}
    (fair : Fair device (.sample sample)) (traffic : ofTraffic sample = true)
    (no_outcome : ofOutcome sample = false)
    (after : goal () { audit with traffic := audit.traffic ++ [sample] }) :
    (note (.sample sample)).Keeps (auditing device) goal audit := by
  refine audited_sample fair (List.filter_cons_of_pos traffic)
    (List.filter_cons_of_neg (by simp [no_outcome])) ?_
  rw [List.filter_nil, List.filter_nil, List.append_nil]
  exact after

/-- The blocks of a shipment are recorded. -/
theorem audited_countBlocks {goal : Except Failure Unit → Audit → Prop} (direction : Direction)
    {blocks : Nat} {log : List Sample}
    (after : ∀ log, goal (.ok ()) (upTo labels.device (.idle, none) log)) :
    (countBlocks labels direction.name blocks).run.Keeps (auditing labels.device) goal
      (upTo labels.device (.idle, some ⟨direction, blocks⟩) log) := by
  refine audited_lift (audited_traffic (fair_sample (by decide) rfl rfl rfl) rfl rfl ?_)
  have next := after (log ++ [Shipment.due labels.device ⟨direction, blocks⟩])
  rw [upTo, Option.toList_none, List.map_nil, List.append_nil] at next
  exact next

/-- A frame that is sent is recorded at once. -/
theorem audited_send {goal : Except Failure Unit → Audit → Prop} {frame : Bytes} {row : Row}
    {log : List Sample}
    (sent : ∀ log, goal (.ok ()) (upTo labels.device (row.sent frame) log))
    (lost : ∀ error, goal (.error (.connectivity error)) (upTo labels.device (row, none) log)) :
    (send labels frame).run.Keeps (auditing labels.device) goal
      (upTo labels.device (row, none) log) := by
  rw [run_send, Dialogue.keeps_ask]
  refine ⟨even_upTo _ row log, fun answer => ?_⟩
  cases answer with
  | error error => exact lost error
  | ok =>
      show Dialogue.Keeps (auditing labels.device) goal _ _
      rw [Dialogue.keeps_bind]
      refine audited_traffic (fair_sample (by decide) rfl rfl rfl) rfl rfl ?_
      rw [Dialogue.keeps_bind]
      refine audited_traffic (fair_sample (by decide) rfl rfl rfl) rfl rfl ?_
      have next := sent (log ++ (Event.sent frame).dues labels.device)
      simpa [upTo, watch, finished, Row.step, Event.dues, Event.sample?, tally] using next

/-- A frame that is received is recorded at once. -/
theorem audited_receive {goal : Except Failure Bytes → Audit → Prop} {row : Row}
    {log : List Sample}
    (received : ∀ frame log, goal (.ok frame) (upTo labels.device (row.received frame) log))
    (lost : ∀ error, goal (.error (.connectivity error)) (upTo labels.device (row, none) log)) :
    (receive labels).run.Keeps (auditing labels.device) goal
      (upTo labels.device (row, none) log) := by
  rw [run_receive, Dialogue.keeps_ask]
  refine ⟨even_upTo _ row log, fun answer => ?_⟩
  cases answer with
  | error error =>
      cases error with
      | timedOut =>
          show Dialogue.Keeps (auditing labels.device) goal _ _
          rw [Dialogue.keeps_bind, audited_log]
          exact lost .timedOut
      | _ => exact lost _
  | ok frame =>
      show Dialogue.Keeps (auditing labels.device) goal _ _
      rw [Dialogue.keeps_bind]
      refine audited_traffic (fair_sample (by decide) rfl rfl rfl) rfl rfl ?_
      rw [Dialogue.keeps_bind]
      refine audited_traffic (fair_sample (by decide) rfl rfl rfl) rfl rfl ?_
      have next := received frame (log ++ (Event.received frame).dues labels.device)
      simpa [upTo, watch, finished, Row.step, Event.dues, Event.sample?, tally] using next

theorem audited_receiveResponse {goal : Except Failure Response → Audit → Prop} {log : List Sample}
    (received : ∀ frame log, goal (reading frame) (upTo labels.device (.idle, none) log))
    (lost : ∀ error log,
      goal (.error (.connectivity error)) (upTo labels.device (.idle, none) log)) :
    (receiveResponse labels).run.Keeps (auditing labels.device) goal
      (upTo labels.device (.idle, none) log) := by
  unfold receiveResponse
  rw [keeps_then]
  refine audited_receive (fun frame log => ?_) fun error => lost error log
  rw [onward_ok, keeps_then, keeps_attempt]
  have read := received frame log
  rw [reading] at read
  cases decoded : (Response.decode frame).mapError Failure.ofWire with
  | error failure =>
      rw [decoded] at read
      exact read
  | ok response =>
      rw [decoded] at read
      rw [onward_ok, keeps_then]
      refine audited_lift ?_
      rw [audited_logFault]
      exact read

theorem audited_exchange {goal : Except Failure Response → Audit → Prop} {command : Command}
    {log : List Sample} (alone : Row.opened command = (.idle, none))
    (received : ∀ frame log, goal (reading frame) (upTo labels.device (.idle, none) log))
    (lost : ∀ error log,
      goal (.error (.connectivity error)) (upTo labels.device (.idle, none) log)) :
    (exchange labels command).run.Keeps (auditing labels.device) goal
      (upTo labels.device (.idle, none) log) := by
  unfold exchange sendCommand
  rw [keeps_then]
  refine audited_send (fun log => ?_) fun error => lost error log
  rw [Row.sent_encode, alone]
  exact audited_receiveResponse received lost

/-- The blocks of a row are sent one by one, until the shipment is complete. -/
theorem audited_blocks {goal : Except Failure PUnit → Audit → Prop} {direction : Direction}
    {count : Nat}
    (sent : ∀ log, goal (.ok ()) (upTo labels.device (.idle, some ⟨direction, count⟩) log))
    (lost : ∀ error row log,
      goal (.error (.connectivity error)) (upTo labels.device (row, none) log))
    (blocks : List Block) (log : List Sample) :
    (blocks.forM fun block => send labels block.bytes : Operation PUnit).run.Keeps
      (auditing labels.device) goal
      (upTo labels.device (Row.outgoing direction count blocks.length) log) := by
  induction blocks generalizing log with
  | nil => exact sent log
  | cons block blocks ih =>
      have row : Row.outgoing direction count (block :: blocks).length =
          (.sending direction count (blocks.length + 1), none) := if_neg (Nat.succ_ne_zero _)
      rw [row, keeps_blocks_cons]
      exact audited_send ih fun error => lost error _ log

end Steps

end ControlLink.Session
