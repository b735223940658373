/-
# ControlLink.Proofs.Session.Reckoning — what the metrics of a session come to

Any number of callers share a session, and may be interrupted by its closing at any moment. What is
recorded then agrees with what came to pass: `outcomes_reckoned` says it of each operation as a
whole, `traffic_reckoned` of the frames, bytes and blocks of all of them together. Both are read off
the books of the callers (`Crowd.Run.books`), which every operation keeps even
(`procedure_audited`).

A read of a document is recorded when its payload has come; that the payload is no document is a
failure that is not counted (`unread_uncounted`).
-/
import ControlLink.Proofs.Session.Account
import ControlLink.Proofs.Session.Heard

namespace ControlLink.Session

set_option autoImplicit false

open Wire Metrics

/-! ## What events record -/

/-- The samples that events record. -/
def samples (events : List Event) : List Sample := events.filterMap Event.sample?

/-- The samples of operations as a whole. -/
def outcomes (events : List Event) : List Sample := (samples events).filter ofOutcome

/-- The frame that is sent with success. -/
def Event.sent? : Event → Option Bytes
  | .sent frame => some frame
  | _ => none

theorem samples_append (events more : List Event) :
    samples (events ++ more) = samples events ++ samples more := List.filterMap_append

theorem samples_cons (event : Event) (events : List Event) :
    samples (event :: events) = event.sample?.toList ++ samples events := by
  cases recorded : event.sample? <;> simp [samples, recorded]

namespace Audit

/-- An auditor has written down every sample in its place. -/
theorem foldl_watch (device : String) (events : List Event) (audit : Audit) :
    (events.foldl (watch device) audit).traffic =
        audit.traffic ++ (samples events).filter ofTraffic ∧
      (events.foldl (watch device) audit).outcome = audit.outcome ++ outcomes events := by
  induction events generalizing audit with
  | nil => simp [samples, outcomes]
  | cons event events ih =>
      obtain ⟨traffic, outcome⟩ := ih (watch device audit event)
      rw [List.foldl_cons, traffic, outcome, outcomes, outcomes, samples_cons, List.filter_append,
        List.filter_append]
      exact ⟨List.append_assoc .., List.append_assoc ..⟩

/-- What an auditor makes due is what the frames and the shipments are to be recorded as. -/
theorem foldl_watch_due (device : String) (events : List Event) (audit : Audit) :
    (events.foldl (watch device) audit).due.Perm (audit.due ++
      (events.flatMap (Event.dues device) ++
        (audit.row.shipments events).map (Shipment.due device))) := by
  induction events generalizing audit with
  | nil => simp [Row.shipments]
  | cons event events ih =>
      have step := ih (watch device audit event)
      rw [List.foldl_cons, List.flatMap_cons, Row.shipments, List.map_append]
      refine step.trans ?_
      simp only [watch, List.append_assoc]
      exact List.Perm.append_left _ (List.Perm.append_left _ (List.perm_append_comm_assoc ..))

end Audit

/-! ## Operations as a whole -/

section Outcomes

variable {ι σ : Type} [DecidableEq ι] {medium : Medium ι σ} {device : String}
  {service : ι → Service} {first : Shared σ} {trace : List (Deed ι)}
  {crowd : Crowd (fun caller => Except Failure (service caller).Value) σ} {caller : ι}

/-- What holds of the books of a caller in the middle of a run. -/
theorem Crowd.Run.books
    (run : Crowd.Run medium (fun caller => (service caller).procedure device) (.start first)
      trace crowd) (caller : ι) :
    (((crowd.stage caller).rest ((service caller).procedure device)).Keeps (auditing device)
      ((service caller).Audited device) ((own caller trace).foldl (Audit.watch device) {})) ∧
    ∀ notice, .noted notice ∈ own caller trace → Fair device notice :=
  run.watched (Audit.watch_patient device) (procedure_audited device (service caller))

/-- **What is recorded of operations as a whole.** Whatever the callers, the transport and the owner
of the channel do: an operation that gets the transport is recorded when it ends, once and with the
failure that it is charged with; nothing is recorded of it before that, and nothing of one that does
not get the transport. -/
theorem outcomes_reckoned (device : String) (service : ι → Service) {first : Shared σ}
    {trace : List (Deed ι)}
    {crowd : Crowd (fun caller => Except Failure (service caller).Value) σ}
    (run : Crowd.Run medium (fun caller => (service caller).procedure device) (.start first)
      trace crowd) (caller : ι) :
    (.acquired caller ∈ trace → ∀ result, crowd.stage caller = .ended result →
      outcomes (own caller trace) = (service caller).reckoning device result) ∧
    (∀ rest busy, crowd.stage caller = .running rest busy → Asks rest →
      outcomes (own caller trace) = []) ∧
    (.acquired caller ∉ trace → own caller trace = []) := by
  obtain ⟨keeps, -⟩ := run.books caller
  have written := (Audit.foldl_watch device (own caller trace) {}).2
  rw [List.nil_append] at written
  refine ⟨fun acquired result ended => ?_, fun rest busy running asks => ?_,
    run.own_of_unacquired⟩
  · have stands := run.standing caller
    rw [ended] at stands keeps
    rw [← written]
    exact keeps.2 (stands.1 acquired)
  · obtain ⟨action, next, rfl, refusable⟩ := asks
    rw [running] at keeps
    rw [← written]
    exact (watching_of_refusal refusable keeps).1.2

end Outcomes

/-- A device that refuses a command. -/
def refusing : Channel Script :=
  { transport := { incoming := [⟨some 0, .ok (Response.error .timeout).encode⟩] } }

/-- A command that the device refuses is counted as one operation and as one failure of the kind
that the caller is told. -/
theorem outcomes_reckoned_refusing :
    ∃ (trace : List (Deed Unit))
      (crowd : Crowd (fun _ => Except Failure Unit) (Underway Script)),
      Crowd.Run (Medium.ofTransport Unit Script none) (fun _ => Service.reboot.procedure "device")
        (.start refusing.shared) trace crowd ∧
      crowd.stage () = .ended (.error (.device .timeout)) ∧
      outcomes (own () trace) =
        [⟨.operations, [("device", "device"), ("op", "reboot")], .increment 1⟩,
          ⟨.operationDuration, [("device", "device"), ("op", "reboot")], .duration⟩,
          ⟨.operationErrors, [("device", "device"), ("op", "reboot"), ("kind", "device")],
            .increment 1⟩] := by
  have start : Crowd.Run (Medium.ofTransport Unit Script none)
      (fun _ => Service.reboot.procedure "device") (.start refusing.shared) []
      (.start refusing.shared) := .refl
  obtain ⟨trace, run⟩ := Crowd.Run.channel refusing () start rfl rfl rfl rfl rfl
  have stands := run.standing ()
  obtain ⟨recorded, -, -⟩ := outcomes_reckoned "device" (fun _ : Unit => .reboot) run ()
  exact ⟨trace, _, run, rfl, recorded (stands.2 ⟨_, _, rfl⟩) _ rfl⟩

/-- A device whose configuration is one block that holds no document. -/
def tattered : Channel Script :=
  { transport := { incoming := [⟨some 0, .ok (Response.config 1).encode⟩,
      ⟨some 0, .ok [0x5B]⟩] } }

/-- **A payload that is no document is a failure that is not counted.** The caller is told of a
breach of the protocol, but the operation has been recorded as one without a failure. -/
theorem unread_uncounted :
    (∃ reason, (tattered.run (Service.readConfig.procedure "device")).1 =
      some (.error (.document reason))) ∧
    (∀ reason, (Failure.document reason).kind = .protocol) ∧
    outcomes (tattered.run (Service.readConfig.procedure "device")).2.seen =
      [⟨.operations, [("device", "device"), ("op", "read_config")], .increment 1⟩,
        ⟨.operationDuration, [("device", "device"), ("op", "read_config")], .duration⟩] :=
  ⟨⟨_, rfl⟩, fun _ => rfl, rfl⟩

/-! ## Traffic -/

/-- What a sample adds to its counter. -/
def increment (sample : Sample) : Nat :=
  match sample.amount with
  | .increment count => count
  | _ => 0

/-- What the counter of a metric with these labels has come to. -/
def counter (metric : Metric) (labels : Labels) (samples : List Sample) : Nat :=
  (samples.map fun sample =>
    if sample.metric = metric ∧ sample.labels = labels then increment sample else 0).sum

/-- How many blocks have crossed in shipments of this direction. -/
def moved (direction : Direction) (shipments : List Shipment) : Nat :=
  (shipments.map fun shipment =>
    if shipment.direction = direction then shipment.blocks else 0).sum

section Counters

variable {metric : Metric} {labels : Labels} {device : String}

@[simp] theorem counter_nil : counter metric labels [] = 0 := rfl

@[simp] theorem counter_cons (sample : Sample) (samples : List Sample) :
    counter metric labels (sample :: samples) =
      (if sample.metric = metric ∧ sample.labels = labels then increment sample else 0) +
        counter metric labels samples := by
  simp [counter]

@[simp] theorem counter_append (samples more : List Sample) :
    counter metric labels (samples ++ more) =
      counter metric labels samples + counter metric labels more := by
  simp [counter]

theorem counter_perm {samples others : List Sample} (same : samples.Perm others) :
    counter metric labels samples = counter metric labels others :=
  (same.map _).sum_nat

/-- A counter of traffic takes no notice of other samples. -/
theorem counter_filter {samples : List Sample}
    (traffic : ∀ sample : Sample, sample.metric = metric → ofTraffic sample = true) :
    counter metric labels (samples.filter ofTraffic) = counter metric labels samples := by
  induction samples with
  | nil => rfl
  | cons sample samples ih =>
      by_cases kept : ofTraffic sample
      · rw [List.filter_cons_of_pos kept, counter_cons, counter_cons, ih]
      · have other : sample.metric ≠ metric := fun same => kept (traffic sample same)
        rw [List.filter_cons_of_neg kept, counter_cons, ih]
        simp [other]

/-- A counter of what each frame of a kind adds to it. -/
theorem counter_dues {pick : Event → Option Bytes} {weigh : Bytes → Nat}
    (each : ∀ event, counter metric labels (Event.dues device event) =
      ((pick event).map weigh).getD 0) (events : List Event) :
    counter metric labels (events.flatMap (Event.dues device)) =
      ((events.filterMap pick).map weigh).sum := by
  induction events with
  | nil => rfl
  | cons event events ih =>
      rw [List.flatMap_cons, counter_append, each, ih, List.filterMap_cons]
      cases pick event <;> simp

/-- A counter of something else than blocks takes no notice of shipments. -/
theorem counter_shipments_of_ne (other : metric ≠ .blocksTransferred) (shipments : List Shipment) :
    counter metric labels (shipments.map (Shipment.due device)) = 0 := by
  induction shipments with
  | nil => rfl
  | cons shipment shipments ih => simp [Shipment.due, ih, Ne.symm other]

theorem name_inj {direction other : Direction} (same : direction.name = other.name) :
    direction = other := by
  cases direction <;> cases other <;> simp [Direction.name] at same ⊢

theorem counter_shipments (direction : Direction) (shipments : List Shipment) :
    counter .blocksTransferred [("device", device), ("direction", direction.name)]
      (shipments.map (Shipment.due device)) = moved direction shipments := by
  induction shipments with
  | nil => rfl
  | cons shipment shipments ih =>
      have same : shipment.direction.name = direction.name ↔ shipment.direction = direction :=
        ⟨name_inj, congrArg Direction.name⟩
      simp [Shipment.due, moved, increment, ih, same]

/-- A frame that crosses adds to the counters of its own kind, and to no others. -/
theorem counters_of_event (event : Event) :
    counter .framesSent [("device", device)] (event.dues device) =
        (event.sent?.map fun _ => 1).getD 0 ∧
      counter .bytesSent [("device", device)] (event.dues device) =
        (event.sent?.map List.length).getD 0 ∧
      counter .framesReceived [("device", device)] (event.dues device) =
        (event.frame?.map fun _ => 1).getD 0 ∧
      counter .bytesReceived [("device", device)] (event.dues device) =
        (event.frame?.map List.length).getD 0 ∧
      ∀ labels, counter .blocksTransferred labels (event.dues device) = 0 := by
  refine ⟨?_, ?_, ?_, ?_, fun labels => ?_⟩ <;>
    cases event <;> simp [Event.dues, tally, Event.sent?, Event.frame?, increment,
      Metric.framesSent, Metric.bytesSent, Metric.framesReceived, Metric.bytesReceived,
      Metric.blocksTransferred]

/-- A counter of blocks takes no notice of single frames. -/
theorem counter_dues_blocks (events : List Event) :
    counter .blocksTransferred labels (events.flatMap (Event.dues device)) = 0 := by
  induction events with
  | nil => rfl
  | cons event events ih =>
      obtain ⟨-, -, -, -, blocks⟩ := counters_of_event event
      rw [List.flatMap_cons, counter_append, ih, blocks]

end Counters

/-- Every caller that has the transport has come to something that the transport is to do, or to its
end. -/
def Crowd.Paused {ι σ : Type} {α : ι → Type} (crowd : Crowd α σ) : Prop :=
  ∀ caller rest busy, crowd.stage caller = .running rest busy →
    Asks rest ∨ ∃ value, rest = .done value

/-- What callers record of their traffic together. -/
theorem traffic_flatMap {ι : Type} {device : String} {callers : List ι}
    {eventsOf : ι → List Event}
    (each : ∀ caller, ((samples (eventsOf caller)).filter ofTraffic).Perm
      ((eventsOf caller).flatMap (Event.dues device) ++
        (Row.idle.shipments (eventsOf caller)).map (Shipment.due device))) :
    ((samples (callers.flatMap eventsOf)).filter ofTraffic).Perm
      ((callers.flatMap eventsOf).flatMap (Event.dues device) ++
        (callers.flatMap fun caller => Row.idle.shipments (eventsOf caller)).map
          (Shipment.due device)) := by
  induction callers with
  | nil => exact .refl _
  | cons caller callers ih =>
      simp only [List.flatMap_cons, samples_append, List.filter_append, List.flatMap_append,
        List.map_append]
      refine ((each caller).append ih).trans ?_
      rw [List.append_assoc, List.append_assoc]
      exact (List.perm_append_comm_assoc ..).append_left _

/-- Callers that have ended are in the middle of nothing. -/
theorem Crowd.paused_of_ended {ι σ : Type} {α : ι → Type} {crowd : Crowd α σ}
    (ended : ∀ caller, ∃ value, crowd.stage caller = .ended value) : crowd.Paused := by
  intro caller rest busy running
  obtain ⟨value, same⟩ := ended caller
  rw [same] at running
  cases running

section Traffic

variable {ι σ : Type} [DecidableEq ι] {medium : Medium ι σ} {device : String}
  {service : ι → Service} {first : Shared σ} {trace : List (Deed ι)}
  {crowd : Crowd (fun caller => Except Failure (service caller).Value) σ} {caller : ι}

/-- All that crossed for a caller is recorded, unless it is just about to be. -/
theorem Crowd.Run.traffic_of_paused
    (run : Crowd.Run medium (fun caller => (service caller).procedure device) (.start first)
      trace crowd) (paused : crowd.Paused) (caller : ι) :
    ((samples (own caller trace)).filter ofTraffic).Perm
      ((own caller trace).flatMap (Event.dues device) ++
        (Row.idle.shipments (own caller trace)).map (Shipment.due device)) := by
  have written := (Audit.foldl_watch device (own caller trace) {}).1
  have due := Audit.foldl_watch_due device (own caller trace) {}
  rw [List.nil_append] at written due
  have even : ((own caller trace).foldl (Audit.watch device) {}).traffic =
      ((own caller trace).foldl (Audit.watch device) {}).due :=
    run.watched_of_rests (fun audit => audit.traffic = audit.due) (Audit.watch_patient device)
      (procedure_audited device (service caller)) rfl (fun _ even => even.1)
      (fun _ _ audited => audited.1) (paused caller)
  rw [← written, even]
  exact due

end Traffic

/-- What callers bring about. -/
def eventsOf {ι : Type} (trace : List (Deed ι)) : List Event := trace.filterMap Deed.did?

/-- The shipments of the callers that have got the transport. -/
def shipmentsOf {ι : Type} [DecidableEq ι] (trace : List (Deed ι)) : List Shipment :=
  (trace.filterMap Deed.winner?).flatMap fun caller => Row.idle.shipments (own caller trace)

/-- The traffic in a trace is what is recorded of it. -/
structure Reckoned {ι : Type} [DecidableEq ι] (device : String) (trace : List (Deed ι)) : Prop where
  /-- The samples of traffic are those of the frames and the shipments, in some order. -/
  perm : ((samples (eventsOf trace)).filter ofTraffic).Perm
    ((eventsOf trace).flatMap (Event.dues device) ++ (shipmentsOf trace).map (Shipment.due device))
  framesSent : counter .framesSent [("device", device)] (samples (eventsOf trace)) =
    ((eventsOf trace).filterMap Event.sent?).length
  bytesSent : counter .bytesSent [("device", device)] (samples (eventsOf trace)) =
    (((eventsOf trace).filterMap Event.sent?).map List.length).sum
  framesReceived : counter .framesReceived [("device", device)] (samples (eventsOf trace)) =
    ((eventsOf trace).filterMap Event.frame?).length
  bytesReceived : counter .bytesReceived [("device", device)] (samples (eventsOf trace)) =
    (((eventsOf trace).filterMap Event.frame?).map List.length).sum
  blocks : ∀ direction : Direction,
    counter .blocksTransferred [("device", device), ("direction", direction.name)]
      (samples (eventsOf trace)) = moved direction (shipmentsOf trace)

section Totals

variable {ι : Type} [DecidableEq ι] {device : String} {trace : List (Deed ι)}

theorem traffic_of_metric {metric : Metric} {sample : Sample}
    (known : decide (metric ∈ trafficMetrics) = true) (same : sample.metric = metric) :
    ofTraffic sample = true := by
  rw [ofTraffic, same]
  exact known

section Balanced

variable (perm : ((samples (eventsOf trace)).filter ofTraffic).Perm
  ((eventsOf trace).flatMap (Event.dues device) ++ (shipmentsOf trace).map (Shipment.due device)))

include perm

/-- Counters of traffic are read off the samples of traffic. -/
theorem counter_of_perm {metric : Metric} {labels : Labels}
    (known : decide (metric ∈ trafficMetrics) = true) :
    counter metric labels (samples (eventsOf trace)) =
      counter metric labels ((eventsOf trace).flatMap (Event.dues device)) +
        counter metric labels ((shipmentsOf trace).map (Shipment.due device)) := by
  rw [← counter_filter fun _ => traffic_of_metric known, counter_perm perm, counter_append]

/-- What the frames of a kind add up to. -/
theorem counter_frames {metric : Metric} {pick : Event → Option Bytes} {weigh : Bytes → Nat}
    (known : decide (metric ∈ trafficMetrics) = true) (other : metric ≠ .blocksTransferred)
    (each : ∀ event, counter metric [("device", device)] (Event.dues device event) =
      ((pick event).map weigh).getD 0) :
    counter metric [("device", device)] (samples (eventsOf trace)) =
      (((eventsOf trace).filterMap pick).map weigh).sum := by
  rw [counter_of_perm perm known, counter_dues each, counter_shipments_of_ne other, Nat.add_zero]

/-- How many frames of a kind there are. -/
theorem counter_number {metric : Metric} {pick : Event → Option Bytes}
    (known : decide (metric ∈ trafficMetrics) = true) (other : metric ≠ .blocksTransferred)
    (each : ∀ event, counter metric [("device", device)] (Event.dues device event) =
      ((pick event).map fun _ => 1).getD 0) :
    counter metric [("device", device)] (samples (eventsOf trace)) =
      ((eventsOf trace).filterMap pick).length := by
  rw [counter_frames perm known other each, List.map_const', List.sum_replicate_nat, Nat.mul_one]

theorem reckoned_of_perm : Reckoned device trace where
  perm := perm
  framesSent := counter_number perm rfl (by decide) fun event => (counters_of_event event).1
  bytesSent := counter_frames perm rfl (by decide) fun event => (counters_of_event event).2.1
  framesReceived :=
    counter_number perm rfl (by decide) fun event => (counters_of_event event).2.2.1
  bytesReceived :=
    counter_frames perm rfl (by decide) fun event => (counters_of_event event).2.2.2.1
  blocks direction := by
    rw [counter_of_perm perm rfl, counter_dues_blocks, counter_shipments, Nat.zero_add]

end Balanced

end Totals

/-- **What is recorded of the traffic of a session.** Whatever the callers, the transport and the
owner of the channel do: as soon as nobody is in the middle of a step, the counters agree with the
frames that were sent and received and with the shipments that were completed. And every sample
that is ever recorded keeps to its declaration and names the device first. -/
theorem traffic_reckoned {ι σ : Type} [DecidableEq ι] {medium : Medium ι σ} (device : String)
    (service : ι → Service) {first : Shared σ} {trace : List (Deed ι)}
    {crowd : Crowd (fun caller => Except Failure (service caller).Value) σ}
    (run : Crowd.Run medium (fun caller => (service caller).procedure device) (.start first)
      trace crowd) :
    (crowd.Paused → Reckoned device trace) ∧
    ∀ sample ∈ samples (eventsOf trace),
      sample.Declared ∧ sample.labels.head? = some ("device", device) := by
  constructor
  · intro paused
    apply reckoned_of_perm
    have events : eventsOf trace = _ := run.events_eq
    rw [events]
    exact traffic_flatMap (run.traffic_of_paused paused)
  · intro sample member
    obtain ⟨event, inside, recorded⟩ := List.mem_filterMap.1 member
    rw [eventsOf, run.events_eq] at inside
    obtain ⟨caller, -, own⟩ := List.mem_flatMap.1 inside
    cases event with
    | noted notice =>
        cases notice with
        | sample noted =>
            cases recorded
            exact (run.books caller).2 _ own _ rfl
        | _ => cases recorded
    | _ => cases recorded

/-- What is seen of callers is seen of the channel, beside its closing. -/
theorem filterMap_eventsOf {ι β : Type} {pick : Event → Option β} (blind : pick .closed = none)
    (trace : List (Deed ι)) :
    (eventsOf trace).filterMap pick = (trace.filterMap Deed.event?).filterMap pick := by
  rw [eventsOf, List.filterMap_filterMap, List.filterMap_filterMap]
  refine List.filterMap_congr fun deed _ => ?_
  cases deed with
  | closed => exact blind.symm
  | _ => rfl

/-- A channel that breaks in the middle of the second write on it. -/
def fragile : Channel Script :=
  { transport :=
      { incoming := [⟨some 0, .ok Response.ok.encode⟩]
        faults := [(4, ⟨some 0, .error .closed⟩)] } }

/-- A write of two blocks. -/
def pair : Service := .writePayload (List.replicate 65 0x20)

/-- Two such writes on that channel, one after the other. -/
def fragileTwice : Channel Script :=
  ((fragile.run (pair.procedure "device")).2.run (pair.procedure "device")).2

theorem fragileTwice_seen :
    (fragileTwice.seen.filterMap Event.sent?).map List.length = [2, 64, 64, 2] ∧
      counter .blocksTransferred [("device", "device"), ("direction", "write")]
        (samples fragileTwice.seen) = 2 := by
  decide +kernel

/-- Of two writes of two blocks each, the second breaks off behind its header: four frames are sent,
and of the blocks only those of the first write are counted. -/
theorem traffic_reckoned_fragile :
    ∃ (trace : List (Deed Bool))
      (crowd : Crowd (fun _ => Except Failure Unit) (Underway Script)),
      Crowd.Run (Medium.ofTransport Bool Script none) (fun _ => pair.procedure "device")
        (.start fragile.shared) trace crowd ∧
      crowd.stage false = .ended (.error (.connectivity .closed)) ∧
      ((eventsOf trace).filterMap Event.sent?).map List.length = [2, 64, 64, 2] ∧
      counter .framesSent [("device", "device")] (samples (eventsOf trace)) = 4 ∧
      moved .write (shipmentsOf trace) = 2 := by
  have start : Crowd.Run (Medium.ofTransport Bool Script none) (fun _ => pair.procedure "device")
      (.start fragile.shared) [] (.start fragile.shared) := .refl
  have first : fragile.run (pair.procedure "device") =
      (some (.ok ()), (fragile.run (pair.procedure "device")).2) := rfl
  have second : (fragile.run (pair.procedure "device")).2.run (pair.procedure "device") =
      (some (.error (.connectivity .closed)), fragileTwice) := rfl
  obtain ⟨deeds, seen, turn⟩ := Channel.run_of_channel_run true first
  obtain ⟨more, seen', turn'⟩ := Channel.run_of_channel_run false second
  have once := start.serve rfl rfl rfl turn
  have twice := once.serve rfl rfl rfl turn'
  have whole : ([] ++ Deed.acquired true :: deeds ++ Deed.acquired false :: more).filterMap
      Deed.event? = fragileTwice.seen := by
    rw [seen', seen, List.nil_append, List.filterMap_append, List.filterMap_cons_none rfl,
      List.filterMap_cons_none rfl]
    rfl
  obtain ⟨frames, blocks⟩ := fragileTwice_seen
  rw [← whole, ← filterMap_eventsOf rfl] at frames
  rw [← whole, samples, ← filterMap_eventsOf rfl] at blocks
  obtain ⟨reckoned, -⟩ := traffic_reckoned "device" (fun _ : Bool => pair) twice
  have agreed := reckoned (Crowd.paused_of_ended (by rintro (_ | _) <;> exact ⟨_, rfl⟩))
  refine ⟨_, _, twice, rfl, frames, ?_, (agreed.blocks .write).symm.trans blocks⟩
  rw [agreed.framesSent, ← List.length_map List.length, frames]
  rfl

end ControlLink.Session
