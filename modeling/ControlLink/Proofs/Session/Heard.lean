/-
# ControlLink.Proofs.Session.Heard — what an operation hears of its device

`listening` is the discipline of an operation whose channel may give any answer at any time, or none
for ever. It is watched by what the operation has received (`Heard`), and by whether the operation
has begun to abort a firmware update. `run_listening` relates it to the events of a run on a
channel: the frames among them are those that the operation has heard.
-/
import ControlLink.Proofs.Firmware.Chunk
import ControlLink.Proofs.Session.Service
import ControlLink.Proofs.Session.Turn

namespace ControlLink.Session

set_option autoImplicit false

open Wire Transfer

/-- What an operation has received, and whether it has begun to abort a firmware update. -/
structure Heard where
  received : List Bytes := []
  aborting : Bool := false

namespace Heard

def send (heard : Heard) (frame : Bytes) : Heard :=
  { heard with aborting := heard.aborting || frame == Command.updateAbort.encode }

def receive (heard : Heard) (frame : Bytes) : Heard :=
  { heard with received := heard.received ++ [frame] }

@[simp] theorem received_send (heard : Heard) (frame : Bytes) :
    (heard.send frame).received = heard.received := rfl

@[simp] theorem received_receive (heard : Heard) (frame : Bytes) :
    (heard.receive frame).received = heard.received ++ [frame] := rfl

end Heard

/-- The discipline of an operation whose channel may answer in any way, or not at all. `waits` is
what is asked of an operation that waits for an answer. -/
def listening (waits : Heard → Prop) : Discipline Answer Heard
  | .send frame, heard, goal =>
    waits (heard.send frame) ∧ ∀ answer, goal answer (heard.send frame)
  | .receive, heard, goal =>
    waits heard ∧ (∀ frame, goal (.ok frame) (heard.receive frame)) ∧
      ∀ error, goal (.error error) heard
  | .close, heard, goal => goal () heard
  | .note _, heard, goal => goal () heard

instance (waits : Heard → Prop) : Quiet (listening waits) where
  note_iff _ _ _ := Iff.rfl

theorem listening_monotone (waits : Heard → Prop) : (listening waits).Monotone := by
  intro action heard goal goal' weaker kept
  match action with
  | .send frame => exact ⟨kept.1, fun answer => weaker _ _ (kept.2 answer)⟩
  | .receive =>
      obtain ⟨waiting, frames, errors⟩ := kept
      exact ⟨waiting, fun frame => weaker _ _ (frames frame),
        fun error => weaker _ _ (errors error)⟩
  | .close => exact weaker _ _ kept
  | .note notice => exact weaker _ _ kept

section Steps

variable {α : Type} {waits : Heard → Prop} {heard : Heard}

theorem listening_send {goal : Except Failure Unit → Heard → Prop}
    (labels : Metrics.OperationLabels) {frame : Bytes} (waiting : waits (heard.send frame))
    (sent : goal (.ok ()) (heard.send frame))
    (lost : ∀ error, goal (.error (.connectivity error)) (heard.send frame)) :
    (send labels frame).run.Keeps (listening waits) goal heard := by
  rw [keeps_send]
  refine ⟨waiting, ?_⟩
  intro answer
  cases answer with
  | ok => exact sent
  | error error => exact lost error

theorem listening_receive {goal : Except Failure Bytes → Heard → Prop}
    (labels : Metrics.OperationLabels) (waiting : waits heard)
    (received : ∀ frame, goal (.ok frame) (heard.receive frame))
    (lost : ∀ error, goal (.error (.connectivity error)) heard) :
    (receive labels).run.Keeps (listening waits) goal heard := by
  rw [keeps_receive]
  refine ⟨waiting, received, ?_⟩
  intro error
  cases error with
  | timedOut => exact lost .timedOut
  | _ => exact lost _

theorem listening_receiveResponse {goal : Except Failure Response → Heard → Prop}
    (labels : Metrics.OperationLabels) (waiting : waits heard)
    (received : ∀ frame, goal (reading frame) (heard.receive frame))
    (lost : ∀ error, goal (.error (.connectivity error)) heard) :
    (receiveResponse labels).run.Keeps (listening waits) goal heard := by
  rw [keeps_receiveResponse]
  refine ⟨waiting, received, ?_⟩
  intro error
  cases error with
  | timedOut => exact lost .timedOut
  | _ => exact lost _

theorem listening_exchange {goal : Except Failure Response → Heard → Prop}
    (labels : Metrics.OperationLabels) (command : Command)
    (waiting : waits (heard.send command.encode))
    (received : ∀ frame, goal (reading frame) ((heard.send command.encode).receive frame))
    (lost : ∀ error, goal (.error (.connectivity error)) (heard.send command.encode)) :
    (exchange labels command).run.Keeps (listening waits) goal heard := by
  unfold exchange sendCommand
  rw [keeps_then]
  exact listening_send labels waiting (listening_receiveResponse labels waiting received lost) lost

/-- Sending frames changes nothing of what was received. -/
theorem listening_blocks {goal : Except Failure PUnit → Heard → Prop}
    (labels : Metrics.OperationLabels) {received : List Bytes}
    (waiting : ∀ heard : Heard, heard.received = received → waits heard)
    (sent : ∀ heard : Heard, heard.received = received → goal (.ok ()) heard)
    (lost : ∀ heard : Heard, heard.received = received →
      ∀ error, goal (.error (.connectivity error)) heard) (blocks : List Block) :
    ∀ heard : Heard, heard.received = received →
      (blocks.forM fun block => send labels block.bytes : Operation PUnit).run.Keeps
        (listening waits) goal heard := by
  induction blocks with
  | nil => exact sent
  | cons block blocks ih =>
      intro heard same
      rw [keeps_blocks_cons]
      exact listening_send labels (waiting _ same) (ih _ same) (lost _ same)

/-- A chunk is sent without a word from the device before the answer to it. -/
theorem listening_sendChunk {goal : Except Failure Response → Heard → Prop}
    (labels : Metrics.OperationLabels) {chunk : Firmware.Chunk} {command : Command}
    {received : List Bytes} (headed : chunk.header = .ok command)
    (waiting : ∀ heard : Heard, heard.received = received → waits heard)
    (answered : ∀ (heard : Heard) frame, heard.received = received ++ [frame] →
      goal (reading frame) heard)
    (lost : ∀ heard : Heard, heard.received = received →
      ∀ error, goal (.error (.connectivity error)) heard) (same : heard.received = received) :
    (sendChunk labels chunk).run.Keeps (listening waits) goal heard := by
  obtain ⟨packets, blocks, -, split, -⟩ := Firmware.Chunk.packets_of_header headed
  unfold sendChunk sendCommand
  simp only [headed, split, Except.mapError, attempt_ok_bind]
  rw [keeps_then]
  refine listening_send labels (waiting _ same) ?_ (lost _ same)
  rw [onward_ok, keeps_then]
  refine listening_blocks labels waiting ?_ ?_ blocks _ same
  · intro heard same
    rw [onward_ok, keeps_then, keeps_countBlocks, onward_ok]
    refine listening_receiveResponse labels (waiting _ same) (fun frame => ?_) (lost _ same)
    exact answered _ frame (by simp [same])
  · exact lost

/-- The abort of an update waits for an answer that does not matter. -/
theorem listening_abort {goal : Unit → Heard → Prop} (labels : Metrics.OperationLabels)
    (failure : Failure) (waiting : ∀ received, waits ⟨received, true⟩)
    (spared : ∀ error, failure = .connectivity error → goal () heard)
    (after : (∀ error, failure ≠ .connectivity error) →
      ∀ more, goal () ⟨heard.received ++ more, true⟩) :
    (abort labels failure).Keeps (listening waits) goal heard := by
  have sent : heard.send Command.updateAbort.encode = ⟨heard.received ++ [], true⟩ := by
    simp [Heard.send]
  cases failure with
  | connectivity error => exact spared error rfl
  | _ =>
      unfold abort
      rw [Dialogue.keeps_bind, keeps_log, Dialogue.keeps_bind]
      refine listening_exchange labels .updateAbort (by rw [sent]; exact waiting _) ?_ ?_
      · intro frame
        rw [sent, List.append_nil]
        exact after nofun [frame]
      · intro error
        rw [sent]
        exact after nofun []

end Steps

/-! ## Any channel -/

/-- The frame that is received. -/
def Event.frame? : Event → Option Bytes
  | .received frame => some frame
  | _ => none

section Channels

variable {σ : Type}

/-- What is seen of an open channel that awaits a delivery. -/
theorem seen_of_await {β : Type} (channel : Channel σ) (delivery : Delivery β)
    (arrived : β → Event) (isOpen : channel.closed = false) :
    ∃ tail, (channel.await delivery arrived).2.seen = channel.seen ++ tail ∧
      tail.filterMap Event.frame? = (((channel.await delivery arrived).1.bind Except.toOption).bind
        fun value => (arrived value).frame?).toList := by
  cases awaited : channel.await delivery arrived with
  | mk result channel' =>
      cases result with
      | none =>
          rw [Channel.await_none awaited]
          exact ⟨[], (List.append_nil _).symm, rfl⟩
      | some result =>
          obtain ⟨-, ⟨-, -, -, seen⟩ | ⟨rfl, -, seen⟩⟩ := Channel.await_cases isOpen awaited
          · refine ⟨_, seen, ?_⟩
            cases result with
            | error error => rfl
            | ok value => cases shown : (arrived value).frame? <;> simp [Except.toOption, shown]
          · exact ⟨_, seen, rfl⟩

/-- What has been seen of an operation on a channel agrees with what the operation has heard. On a
closed channel no abort is sent. -/
def Follows (before : List Event) (channel : Channel σ) (heard : Heard) : Prop :=
  ∃ events, channel.seen = before ++ events ∧ events.filterMap Event.frame? = heard.received ∧
    (heard.aborting = true →
      channel.closed = true ∨ Event.sending Command.updateAbort.encode ∈ events)

/-- An operation waits for an answer that never comes. -/
def Stuck (before : List Event) (waits : Heard → Prop) (channel : Channel σ) : Prop :=
  ∃ heard events, channel.seen = before ++ events ∧
    events.filterMap Event.frame? = heard.received ∧
    (heard.aborting = true → Event.sending Command.updateAbort.encode ∈ events) ∧ waits heard

variable {channel : Channel σ} {before : List Event} {waits : Heard → Prop} {heard : Heard}

theorem follows_note (follows : Follows before channel heard) (notice : Notice) :
    Follows before (channel.happen (.noted notice)) heard := by
  obtain ⟨events, seen, received, aborting⟩ := follows
  refine ⟨events ++ [.noted notice], ?_, ?_, ?_⟩
  · rw [Channel.seen_happen, seen, List.append_assoc]
  · rw [List.filterMap_append, received]
    exact List.append_nil _
  · intro abort
    exact (aborting abort).imp id fun member => List.mem_append_left _ member

theorem follows_close (follows : Follows before channel heard) :
    Follows before channel.close heard := by
  obtain ⟨events, seen, received, -⟩ := follows
  obtain ⟨shared, -, closed⟩ := Channel.shared_close channel
  refine ⟨_, by rw [closed, seen, List.append_assoc], ?_, fun _ => .inl ?_⟩
  · rw [List.filterMap_append, received]
    split <;> exact List.append_nil _
  · exact congrArg Shared.closed shared

/-- On an open channel both a send and a receive add to what was seen. -/
theorem follows_more (follows : Follows before channel heard) (isOpen : channel.closed = false)
    {channel' : Channel σ} (heard' : Heard) {more : List Event}
    (seen' : channel'.seen = channel.seen ++ more)
    (received' : heard'.received = heard.received ++ more.filterMap Event.frame?)
    (aborting' : heard'.aborting = true →
      heard.aborting = true ∨ Event.sending Command.updateAbort.encode ∈ more) :
    ∃ events, channel'.seen = before ++ events ∧
      events.filterMap Event.frame? = heard'.received ∧
      (heard'.aborting = true → Event.sending Command.updateAbort.encode ∈ events) := by
  obtain ⟨events, seen, received, aborting⟩ := follows
  refine ⟨events ++ more, ?_, ?_, ?_⟩
  · rw [seen', seen, List.append_assoc]
  · rw [List.filterMap_append, received, received']
  · intro abort
    rcases aborting' abort with earlier | now
    · rcases aborting earlier with closed | member
      · rw [isOpen] at closed
        cases closed
      · exact List.mem_append_left _ member
    · exact List.mem_append_right _ now

variable [Transport σ]

theorem seen_of_send (frame : Bytes) (isOpen : channel.closed = false) :
    ∃ tail, (channel.send frame).2.seen = channel.seen ++ .sending frame :: tail ∧
      tail.filterMap Event.frame? = [] := by
  let taken : Channel σ :=
    ({ channel with transport := (Transport.send channel.transport frame).2 }).happen
      (.sending frame)
  obtain ⟨tail, seen, frames⟩ := seen_of_await taken
    (Transport.send channel.transport frame).1 (fun () => .sent frame) isOpen
  have sent : channel.send frame = taken.await (Transport.send channel.transport frame).1
      (fun () => .sent frame) := if_neg (by simp [isOpen])
  refine ⟨tail, ?_, ?_⟩
  · rw [sent, seen, Channel.seen_happen, List.append_assoc]
    rfl
  · rw [frames]
    simp [Event.frame?]

theorem seen_of_receive (isOpen : channel.closed = false) :
    ∃ tail, channel.receive.2.seen = channel.seen ++ .receiving :: tail ∧
      tail.filterMap Event.frame? = (channel.receive.1.bind Except.toOption).toList := by
  let taken : Channel σ :=
    ({ channel with transport := (Transport.receive channel.transport frameLimit).2 }).happen
      .receiving
  let delivery := Channel.limited channel.timeout
    (Transport.receive channel.transport frameLimit).1
  obtain ⟨tail, seen, frames⟩ := seen_of_await taken delivery .received isOpen
  have received : channel.receive = taken.await delivery .received := if_neg (by simp [isOpen])
  refine ⟨tail, ?_, ?_⟩
  · rw [received, seen, Channel.seen_happen, List.append_assoc]
    rfl
  · rw [received, frames]
    simp [Event.frame?]

theorem follows_send (follows : Follows before channel heard) (isOpen : channel.closed = false)
    (frame : Bytes) :
    ∃ events, (channel.send frame).2.seen = before ++ events ∧
      events.filterMap Event.frame? = (heard.send frame).received ∧
      ((heard.send frame).aborting = true →
        Event.sending Command.updateAbort.encode ∈ events) := by
  obtain ⟨tail, seen, silent⟩ := seen_of_send frame isOpen
  have nothing : (Event.sending frame :: tail).filterMap Event.frame? = [] := silent
  refine follows_more follows isOpen (heard.send frame) seen ?_ ?_
  · rw [nothing, List.append_nil, Heard.received_send]
  · intro abort
    rcases Bool.or_eq_true_iff.1 abort with earlier | now
    · exact .inl earlier
    · rw [eq_of_beq now]
      exact .inr (List.mem_cons_self ..)

theorem follows_receive (follows : Follows before channel heard) (isOpen : channel.closed = false)
    (received : List Bytes) (shown : received = (channel.receive.1.bind Except.toOption).toList) :
    ∃ events, channel.receive.2.seen = before ++ events ∧
      events.filterMap Event.frame? = heard.received ++ received ∧
      (heard.aborting = true → Event.sending Command.updateAbort.encode ∈ events) := by
  obtain ⟨tail, seen, frames⟩ := seen_of_receive isOpen
  have all : (Event.receiving :: tail).filterMap Event.frame? = received := frames.trans shown.symm
  exact follows_more follows isOpen ⟨heard.received ++ received, heard.aborting⟩ seen
    (by rw [all]) .inl

/-- Whatever the channel answers is foreseen. -/
theorem follows_answer {action : Action} {goal : Answer action → Heard → Prop}
    {reply : Answer action} {channel' : Channel σ} (follows : Follows before channel heard)
    (keeps : listening waits action heard goal)
    (answered : channel.answer action = (some reply, channel')) :
    ∃ heard', Follows before channel' heard' ∧ goal reply heard' := by
  cases action with
  | note notice =>
      cases answered
      exact ⟨heard, follows_note follows notice, keeps⟩
  | close =>
      cases answered
      exact ⟨heard, follows_close follows, keeps⟩
  | send frame =>
      have sent : channel.send frame = (some reply, channel') := answered
      refine ⟨heard.send frame, ?_, keeps.2 reply⟩
      by_cases closed : channel.closed
      · have refused : channel.send frame = (some (.error .closed), channel) := if_pos closed
        cases refused.symm.trans sent
        obtain ⟨events, seen, received, -⟩ := follows
        exact ⟨events, seen, received, fun _ => .inl closed⟩
      · obtain ⟨events, seen, received, aborting⟩ :=
          follows_send follows (by simpa using closed) frame
        rw [sent] at seen
        exact ⟨events, seen, received, fun abort => .inr (aborting abort)⟩
  | receive =>
      have taken : channel.receive = (some reply, channel') := answered
      by_cases closed : channel.closed
      · have refused : channel.receive = (some (.error .closed), channel) := if_pos closed
        cases refused.symm.trans taken
        exact ⟨heard, follows, keeps.2.2 _⟩
      · have isOpen : channel.closed = false := by simpa using closed
        cases reply with
        | ok frame =>
            obtain ⟨events, seen, received, aborting⟩ :=
              follows_receive follows isOpen [frame] (by rw [taken]; rfl)
            rw [taken] at seen
            exact ⟨heard.receive frame,
              ⟨events, seen, received, fun abort => .inr (aborting abort)⟩, keeps.2.1 frame⟩
        | error error =>
            obtain ⟨events, seen, received, aborting⟩ :=
              follows_receive follows isOpen [] (by rw [taken]; rfl)
            rw [taken] at seen
            rw [List.append_nil] at received
            exact ⟨heard, ⟨events, seen, received, fun abort => .inr (aborting abort)⟩,
              keeps.2.2 error⟩

/-- An action that is never answered leaves the operation waiting. -/
theorem stuck_of_answer {action : Action} {goal : Answer action → Heard → Prop}
    {channel' : Channel σ} (follows : Follows before channel heard)
    (keeps : listening waits action heard goal)
    (unanswered : channel.answer action = (none, channel')) : Stuck before waits channel' := by
  cases action with
  | note notice => cases unanswered
  | close => cases unanswered
  | send frame =>
      have sent : channel.send frame = (none, channel') := unanswered
      have isOpen : channel.closed = false := by
        by_contra closed
        have refused : channel.send frame = (some (.error .closed), channel) :=
          if_pos (by simpa using closed)
        cases refused.symm.trans sent
      obtain ⟨events, seen, received, aborting⟩ := follows_send follows isOpen frame
      rw [sent] at seen
      exact ⟨heard.send frame, events, seen, received, aborting, keeps.1⟩
  | receive =>
      have taken : channel.receive = (none, channel') := unanswered
      have isOpen : channel.closed = false := by
        by_contra closed
        have refused : channel.receive = (some (.error .closed), channel) :=
          if_pos (by simpa using closed)
        cases refused.symm.trans taken
      obtain ⟨events, seen, received, aborting⟩ :=
        follows_receive follows isOpen [] (by rw [taken]; rfl)
      rw [taken] at seen
      rw [List.append_nil] at received
      exact ⟨heard, events, seen, received, aborting, keeps.1⟩

/-- **A run as it is heard.** If an operation ends, it has reached its goal with what it has heard,
and if it never ends, it waits as it is allowed to. -/
theorem run_listening {α : Type} {procedure : Procedure α} {goal : α → Heard → Prop}
    (keeps : procedure.Keeps (listening waits) goal {}) (channel : Channel σ) :
    ∃ heard events, (channel.run procedure).2.seen = channel.seen ++ events ∧
      events.filterMap Event.frame? = heard.received ∧
      (∀ value, (channel.run procedure).1 = some value → goal value heard) ∧
      ((channel.run procedure).1 = none → waits heard ∧
        (heard.aborting = true → Event.sending Command.updateAbort.encode ∈ events)) := by
  have start : Follows channel.seen channel {} :=
    ⟨[], (List.append_nil _).symm, rfl, fun abort => nomatch abort⟩
  obtain ⟨ends, hangs⟩ := Dialogue.run_keeps keeps start
    (fun _ _ _ _ _ _ => follows_answer) fun _ _ _ _ _ => stuck_of_answer
  cases ran : channel.run procedure with
  | mk result channel' =>
      cases result with
      | some value =>
          obtain ⟨heard, ⟨events, seen, received, -⟩, reached⟩ := ends value channel' ran
          refine ⟨heard, events, seen, received, ?_, nofun⟩
          rintro _ ⟨⟩
          exact reached
      | none =>
          obtain ⟨heard, events, seen, received, aborting, waiting⟩ := hangs channel' ran
          exact ⟨heard, events, seen, received, nofun, fun _ => ⟨waiting, aborting⟩⟩

end Channels

end ControlLink.Session
