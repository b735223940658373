/-
# ControlLink.Proofs.Session.Contact — what an operation has to do with its channel

A `Contact` is an action of an operation together with the answer to it: a frame that was sent or
could not be, one that was received or did not come, the closing of the channel, and progress that
the caller was told. `Trail` follows a procedure through any answers from what it begins with to
what is left of it, and `Ends` to its value; the lemmas `ends_…` take a procedure apart, so that
what an operation does under all answers is read off its parts.

A run on a channel follows such a trail, that of its contacts (`Channel.contacts`), to its end
(`ends_contacts`) or to an action that is never answered (`trail_contacts`), and what is seen of it
is what its contacts show. `Contact.Shows` keeps track of the closing of the channel: only a closed
channel refuses a frame without an event, and it refuses every frame (`refused_contacts`).
-/
import ControlLink.Proofs.Session.Service
import ControlLink.Proofs.Session.Turn

namespace ControlLink.Session

set_option autoImplicit false

open Wire Metrics

inductive Contact where
  | sent (frame : Bytes) (result : Except LinkError Unit)
  | received (result : Except LinkError Bytes)
  | closed
  | told (progress : Progress)

/-- Other notices are no contact. -/
def Contact.ofAnswer : (action : Action) → Answer action → List Contact
  | .send frame, result => [.sent frame result]
  | .receive, result => [.received result]
  | .close, _ => [.closed]
  | .note (.progress progress), _ => [.told progress]
  | .note _, _ => []

variable {α β : Type}

/-- The contacts that lead from a procedure to what is left of it. -/
inductive Trail : Procedure α → List Contact → Procedure α → Prop where
  | refl {procedure : Procedure α} : Trail procedure [] procedure
  | step {action : Action} {next : Answer action → Procedure α} {contacts : List Contact}
      {rest : Procedure α} (answer : Answer action) : Trail (next answer) contacts rest →
      Trail (.ask action next) (Contact.ofAnswer action answer ++ contacts) rest

/-- A procedure may come to its end through these contacts. -/
def Ends (procedure : Procedure α) (contacts : List Contact) (value : α) : Prop :=
  Trail procedure contacts (.done value)

section Trails

variable {procedure middle rest : Procedure α} {contacts more : List Contact} {value : α}

theorem Trail.trans (trail : Trail procedure contacts middle) (onward : Trail middle more rest) :
    Trail procedure (contacts ++ more) rest := by
  induction trail with
  | refl => exact onward
  | step answer _ ih =>
      rw [List.append_assoc]
      exact .step answer (ih onward)

theorem Trail.single {action : Action} {next : Answer action → Procedure α}
    (answer : Answer action) :
    Trail (.ask action next) (Contact.ofAnswer action answer) (next answer) := by
  have step : Trail (.ask action next) (Contact.ofAnswer action answer ++ []) (next answer) :=
    .step answer .refl
  rwa [List.append_nil] at step

theorem ends_done {result : α} :
    Ends (.done result : Procedure α) contacts value ↔ contacts = [] ∧ value = result := by
  constructor
  · intro ends
    cases ends
    exact ⟨rfl, rfl⟩
  · rintro ⟨rfl, rfl⟩
    exact .refl

theorem ends_ask {action : Action} {next : Answer action → Procedure α} :
    Ends (.ask action next) contacts value ↔
      ∃ answer more, Ends (next answer) more value ∧
        contacts = Contact.ofAnswer action answer ++ more := by
  constructor
  · intro ends
    cases ends with
    | step answer onward => exact ⟨answer, _, onward, rfl⟩
  · rintro ⟨answer, more, ends, rfl⟩
    exact .step answer ends

theorem ends_bind {next : α → Procedure β} {result : β} :
    Ends (procedure >>= next) contacts result ↔
      ∃ value first more, Ends procedure first value ∧ Ends (next value) more result ∧
        contacts = first ++ more := by
  induction procedure generalizing contacts with
  | done value =>
      rw [Dialogue.done_bind]
      constructor
      · exact fun ends => ⟨value, [], contacts, .refl, ends, rfl⟩
      · rintro ⟨_, _, more, nothing, onward, rfl⟩
        obtain ⟨rfl, rfl⟩ := ends_done.1 nothing
        exact onward
  | ask action rest ih =>
      rw [Dialogue.ask_bind, ends_ask]
      constructor
      · rintro ⟨answer, later, answered, rfl⟩
        obtain ⟨value, first, more, ends, onward, rfl⟩ := (ih answer).1 answered
        exact ⟨value, _, more, ends_ask.2 ⟨answer, first, ends, rfl⟩, onward,
          (List.append_assoc ..).symm⟩
      · rintro ⟨value, _, more, asked, onward, rfl⟩
        obtain ⟨answer, first, ends, rfl⟩ := ends_ask.1 asked
        exact ⟨answer, first ++ more, (ih answer).2 ⟨value, first, more, ends, onward, rfl⟩,
          List.append_assoc ..⟩

end Trails

/-! ## Closed channels -/

/-- What a closed channel lets an operation do. -/
inductive Contact.Refused : Contact → Prop where
  | sent {frame : Bytes} : Refused (.sent frame (.error .closed))
  | received : Refused (.received (.error .closed))
  | closed : Refused .closed
  | told {progress : Progress} : Refused (.told progress)

theorem refused_of_refusal {action : Action} {answer : Answer action}
    (refused : refusal action = some answer) :
    ∀ contact ∈ Contact.ofAnswer action answer, contact.Refused := by
  cases action with
  | send frame =>
      cases refused
      exact List.forall_mem_singleton.2 .sent
  | receive =>
      cases refused
      exact List.forall_mem_singleton.2 .received
  | close => cases refused
  | note notice => cases refused

theorem refused_of_note (notice : Notice) :
    ∀ contact ∈ Contact.ofAnswer (.note notice) (), contact.Refused := by
  cases notice with
  | progress progress => exact List.forall_mem_singleton.2 .told
  | _ => exact nofun

/-- Whatever is left of a procedure comes to its end on a closed channel. -/
theorem exists_ends_refused (procedure : Procedure α) :
    ∃ contacts value, Ends procedure contacts value ∧ ∀ contact ∈ contacts, contact.Refused := by
  induction procedure with
  | done value => exact ⟨[], value, .refl, nofun⟩
  | ask action next ih =>
      have given (answer : Answer action)
          (refused : ∀ contact ∈ Contact.ofAnswer action answer, contact.Refused) :
          ∃ contacts value, Ends (.ask action next) contacts value ∧
            ∀ contact ∈ contacts, contact.Refused := by
        obtain ⟨contacts, value, ends, rest⟩ := ih answer
        exact ⟨_, value, .step answer ends, List.forall_mem_append.2 ⟨refused, rest⟩⟩
      cases refused : refusal action with
      | some answer => exact given answer (refused_of_refusal refused)
      | none =>
          cases action with
          | send frame => cases refused
          | receive => cases refused
          | close => exact given () (List.forall_mem_singleton.2 .closed)
          | note notice => exact given () (refused_of_note notice)

/-! ## The steps of operations -/

section Steps

variable {contacts : List Contact} {labels : OperationLabels}

/-- One operation after the other: the first fails, or the second goes on with its value. -/
theorem ends_then {operation : Operation α} {next : α → Operation β} {result : Except Failure β}
    (ends : Ends (operation >>= next).run contacts result) :
    (∃ failure, result = .error failure ∧ Ends operation.run contacts (.error failure)) ∨
      ∃ value first more, Ends operation.run first (.ok value) ∧ Ends (next value).run more result ∧
        contacts = first ++ more := by
  rw [ExceptT.run_bind] at ends
  obtain ⟨outcome, first, more, begun, onward, rfl⟩ := ends_bind.1 ends
  cases outcome with
  | ok value => exact .inr ⟨value, first, more, begun, onward, rfl⟩
  | error failure =>
      obtain ⟨rfl, rfl⟩ := ends_done.1 onward
      exact .inl ⟨failure, rfl, by rwa [List.append_nil]⟩

theorem ends_attempt {attempted result : Except Failure α} :
    Ends (attempt attempted).run contacts result ↔ contacts = [] ∧ result = attempted := ends_done

theorem ends_note {notice : Notice} {value : Unit} (ends : Ends (note notice) contacts value) :
    contacts = Contact.ofAnswer (.note notice) () := by
  obtain ⟨_, _, noted, rfl⟩ := ends_ask.1 ends
  obtain ⟨rfl, -⟩ := ends_done.1 noted
  exact List.append_nil _

/-- A notice that is no contact may be left out. -/
theorem ends_of_note {notice : Notice} {next : Unit → Procedure α} {value : α}
    (silent : Contact.ofAnswer (.note notice) () = [])
    (ends : Ends (note notice >>= next) contacts value) : Ends (next ()) contacts value := by
  obtain ⟨_, _, more, noted, onward, rfl⟩ := ends_bind.1 ends
  rwa [ends_note noted, silent]

theorem ends_lift {procedure : Procedure Unit} {result : Except Failure Unit}
    (ends : Ends (ExceptT.lift procedure : Operation Unit).run contacts result) :
    Ends procedure contacts () ∧ result = .ok () := by
  have unfolded : (ExceptT.lift procedure : Operation Unit).run =
      procedure >>= fun value => pure (.ok value) := ExceptT.run_lift procedure
  rw [unfolded] at ends
  obtain ⟨_, first, _, begun, onward, rfl⟩ := ends_bind.1 ends
  obtain ⟨rfl, rfl⟩ := ends_done.1 onward
  exact ⟨by rwa [List.append_nil], rfl⟩

theorem ends_countBlocks {direction : String} {blocks : Nat} {result : Except Failure Unit}
    (ends : Ends (countBlocks labels direction blocks).run contacts result) :
    contacts = [] ∧ result = .ok () := by
  obtain ⟨counted, rfl⟩ := ends_lift ends
  exact ⟨ends_note counted, rfl⟩

theorem ends_logFault {response : Response} {value : Unit}
    (ends : Ends (logFault response) contacts value) : contacts = [] := by
  cases response with
  | error fault => exact ends_note ends
  | _ => exact (ends_done.1 ends).1

theorem ends_report {level : Decimal.Binary64} {progress : Progress} {value : Unit}
    (ends : Ends (report labels level progress) contacts value) : contacts = [.told progress] :=
  ends_note (ends_of_note rfl ends)

theorem ends_send {frame : Bytes} {result : Except Failure Unit}
    (ends : Ends (send labels frame).run contacts result) :
    ∃ answer, contacts = [.sent frame answer] ∧ result = answer.mapError .connectivity := by
  rw [run_send] at ends
  obtain ⟨answer, more, answered, rfl⟩ := ends_ask.1 ends
  refine ⟨answer, ?_⟩
  cases answer with
  | error error =>
      obtain ⟨rfl, rfl⟩ := ends_done.1 answered
      exact ⟨rfl, rfl⟩
  | ok =>
      have counted := ends_of_note rfl (ends_of_note rfl answered)
      obtain ⟨rfl, rfl⟩ := ends_done.1 counted
      exact ⟨rfl, rfl⟩

/-- The contacts of a receive without a frame: one that times out closes the channel. -/
def silence : LinkError → List Contact
  | .timedOut => [.received (.error .timedOut), .closed]
  | error => [.received (.error error)]

theorem ends_receive {result : Except Failure Bytes}
    (ends : Ends (receive labels).run contacts result) :
    (∃ frame, contacts = [.received (.ok frame)] ∧ result = .ok frame) ∨
      ∃ error, contacts = silence error ∧ result = .error (.connectivity error) := by
  rw [run_receive] at ends
  obtain ⟨answer, more, answered, rfl⟩ := ends_ask.1 ends
  cases answer with
  | ok frame =>
      have counted := ends_of_note rfl (ends_of_note rfl answered)
      obtain ⟨rfl, rfl⟩ := ends_done.1 counted
      exact .inl ⟨frame, rfl, rfl⟩
  | error error =>
      refine .inr ⟨error, ?_⟩
      cases error with
      | timedOut =>
          obtain ⟨_, _, _, closing, onward, rfl⟩ := ends_bind.1 (ends_of_note rfl answered)
          obtain ⟨_, _, closed, rfl⟩ := ends_ask.1 closing
          obtain ⟨rfl, -⟩ := ends_done.1 closed
          obtain ⟨rfl, rfl⟩ := ends_done.1 onward
          exact ⟨rfl, rfl⟩
      | _ =>
          obtain ⟨rfl, rfl⟩ := ends_done.1 answered
          exact ⟨rfl, rfl⟩

/-- A response is read out of a frame without further contacts. -/
theorem ends_receiveResponse {result : Except Failure Response}
    (ends : Ends (receiveResponse labels).run contacts result) :
    ∃ answer, Ends (receive labels).run contacts answer ∧ result = answer >>= reading := by
  unfold receiveResponse at ends
  obtain ⟨failure, rfl, lost⟩ | ⟨frame, first, more, received, read, rfl⟩ := ends_then ends
  · exact ⟨_, lost, rfl⟩
  refine ⟨.ok frame, ?_⟩
  obtain ⟨failure, rfl, attempted⟩ | ⟨response, _, _, attempted, logged, rfl⟩ := ends_then read
  · obtain ⟨rfl, unread⟩ := ends_attempt.1 attempted
    rw [List.append_nil]
    exact ⟨received, unread⟩
  obtain ⟨rfl, decoded⟩ := ends_attempt.1 attempted
  obtain ⟨failure, rfl, attempted⟩ | ⟨_, _, _, lifted, returned, rfl⟩ := ends_then logged
  · cases (ends_lift attempted).2
  obtain ⟨rfl, rfl⟩ := ends_done.1 returned
  rw [ends_logFault (ends_lift lifted).1, List.append_nil, List.append_nil, List.append_nil]
  exact ⟨received, decoded⟩

/-- What is recorded of an operation is no contact. -/
theorem ends_recorded {device name : String} {body : OperationLabels → Operation α}
    {result : Except Failure α} (ends : Ends (recorded device name body).run contacts result) :
    Ends (body ⟨device, name⟩).run contacts result := by
  rw [run_recorded] at ends
  obtain ⟨outcome, first, _, own, noted, rfl⟩ := ends_bind.1 ends
  have counted := ends_of_note rfl (ends_of_note rfl noted)
  cases outcome with
  | ok value =>
      obtain ⟨rfl, rfl⟩ := ends_done.1 counted
      rwa [List.append_nil]
  | error failure =>
      have failed : Ends (pure (.error failure)) _ result := ends_of_note rfl counted
      obtain ⟨rfl, rfl⟩ := ends_done.1 failed
      rwa [List.append_nil]

end Steps

/-! ## What is seen of contacts -/

/-- What is seen of a contact, and whether the channel is closed before it and behind it. An open
channel takes up a frame, and then the frame comes through, or the transport fails with an error of
its own, or the owner closes the channel. A closed channel refuses frames, and nothing is seen of
them. -/
inductive Contact.Shows : Bool → Contact → List Event → Bool → Prop where
  | sent {frame : Bytes} : Shows false (.sent frame (.ok ())) [.sending frame, .sent frame] false
  | unsent {frame : Bytes} {error : LinkError} :
      Shows false (.sent frame (.error error)) [.sending frame] false
  | cutSending {frame : Bytes} :
      Shows false (.sent frame (.error .closed)) [.sending frame, .closed] true
  | unsendable {frame : Bytes} : Shows true (.sent frame (.error .closed)) [] true
  | received {frame : Bytes} :
      Shows false (.received (.ok frame)) [.receiving, .received frame] false
  | unreceived {error : LinkError} : Shows false (.received (.error error)) [.receiving] false
  | cutReceiving : Shows false (.received (.error .closed)) [.receiving, .closed] true
  | unreceivable : Shows true (.received (.error .closed)) [] true
  | closed : Shows false .closed [.closed] true
  | closedBefore : Shows true .closed [] true
  | told {isClosed : Bool} {progress : Progress} :
      Shows isClosed (.told progress) [.noted (.progress progress)] isClosed

/-- What is seen of contacts one after the other. -/
inductive Shown : Bool → List Contact → List Event → Bool → Prop where
  | nil {isClosed : Bool} : Shown isClosed [] [] isClosed
  | cons {before between after : Bool} {contact : Contact} {contacts : List Contact}
      {own events : List Event} : contact.Shows before own between →
      Shown between contacts events after → Shown before (contact :: contacts) (own ++ events) after

section Shown

variable {before between after : Bool} {contact : Contact} {contacts more : List Contact}
  {events later : List Event}

theorem Shown.append (shown : Shown before contacts events between)
    (onward : Shown between more later after) :
    Shown before (contacts ++ more) (events ++ later) after := by
  induction shown with
  | nil => exact onward
  | cons own _ ih =>
      rw [List.append_assoc]
      exact .cons own (ih onward)

theorem Contact.Shows.shown (shows : contact.Shows before events after) :
    Shown before [contact] events after := by
  rw [← List.append_nil events]
  exact .cons shows .nil

/-- A channel that is closed, or is closed by a contact, stays closed. -/
theorem Shown.closed (shown : Shown before contacts events after)
    (closed : before = true ∨ .closed ∈ contacts) : after = true := by
  induction shown with
  | nil => exact closed.resolve_right nofun
  | cons own _ ih =>
      apply ih
      rcases closed with rfl | member
      · cases own <;> exact .inl rfl
      rcases List.mem_cons.1 member with rfl | late
      · cases own <;> exact .inl rfl
      · exact .inr late

theorem Contact.Shows.refused (shows : contact.Shows before events after)
    (closed : before = true) : contact.Refused := by
  cases shows with
  | unsendable => exact .sent
  | unreceivable => exact .received
  | closedBefore => exact .closed
  | told => exact .told
  | _ => cases closed

/-- A closed channel refuses whatever it is asked for. -/
theorem Shown.refused (shown : Shown before contacts events after) (closed : before = true) :
    ∀ contact ∈ contacts, contact.Refused := by
  induction shown with
  | nil => exact List.forall_mem_nil _
  | cons own _ ih =>
      exact List.forall_mem_cons.2 ⟨own.refused closed, ih (own.shown.closed (.inl closed))⟩

end Shown

/-- Frames, progress and the closing of the channel, but no other notice. -/
def Event.ofContact : Event → Bool
  | .noted (.progress _) => true
  | .noted _ => false
  | _ => true

section Channels

variable {σ : Type}

/-- From one moment to another a channel has had these contacts, and these events were seen. While
its owner is away only a contact closes it. -/
structure Met (channel channel' : Channel σ) (contacts : List Contact) (events : List Event) :
    Prop where
  seen : channel'.seen = channel.seen ++ events
  shown : Shown channel.closed contacts (events.filter Event.ofContact) channel'.closed
  alone : channel.closeAt = none → channel'.closeAt = none ∧
    (channel'.closed = true → channel.closed = true ∨ .closed ∈ contacts)

theorem Met.refl (channel : Channel σ) : Met channel channel [] [] where
  seen := (List.append_nil _).symm
  shown := .nil
  alone away := ⟨away, .inl⟩

theorem Met.trans {channel middle channel' : Channel σ} {contacts more : List Contact}
    {events later : List Event} (met : Met channel middle contacts events)
    (onward : Met middle channel' more later) :
    Met channel channel' (contacts ++ more) (events ++ later) where
  seen := by rw [onward.seen, met.seen, List.append_assoc]
  shown := by
    rw [List.filter_append]
    exact met.shown.append onward.shown
  alone away := by
    obtain ⟨away, closed⟩ := met.alone away
    obtain ⟨away', closed'⟩ := onward.alone away
    refine ⟨away', fun final => ?_⟩
    rcases closed' final with before | late
    · exact (closed before).imp id (List.mem_append_left _)
    · exact .inr (List.mem_append_right _ late)

/-- An owner that is away closes nothing while a delivery is awaited. -/
theorem await_away (channel : Channel σ) (delivery : Delivery β) (arrived : β → Event)
    (away : channel.closeAt = none) :
    (channel.await delivery arrived).2.closeAt = none ∧
      (channel.await delivery arrived).2.closed = channel.closed := by
  obtain ⟨after, result⟩ := delivery
  cases after with
  | none => simp [Channel.await, Channel.wait, away]
  | some delay => cases result <;> simp [Channel.await, Channel.wait, away, Channel.happen,
      Channel.advance]

/-- What an awaited delivery shows: it comes, or the owner closes the channel first. -/
theorem met_of_await {channel taken channel' : Channel σ} {delivery : Delivery β}
    {arrived : β → Event} {result : Except LinkError β} {contact : Contact} (begin : Event)
    (isOpen : channel.closed = false) (taken_open : taken.closed = false)
    (taken_seen : taken.seen = channel.seen ++ [begin])
    (taken_closeAt : taken.closeAt = channel.closeAt)
    (visible : ∀ value, Event.ofContact (arrived value) = true)
    (begins : Event.ofContact begin = true)
    (comes : contact.Shows false (begin :: (result.toOption.map arrived).toList) false)
    (cut : result = .error .closed → contact.Shows false [begin, .closed] true)
    (awaited : taken.await delivery arrived = (some result, channel')) :
    ∃ events, Met channel channel' [contact] events := by
  have away (owner : channel.closeAt = none) :
      channel'.closeAt = none ∧ channel'.closed = false := by
    have kept := await_away taken delivery arrived (taken_closeAt.trans owner)
    rwa [awaited, taken_open] at kept
  have still (ending : List Event) (seen : channel'.seen = taken.seen ++ ending)
      (whole : ∀ event ∈ ending, event.ofContact = true)
      (shows : contact.Shows false (begin :: ending) channel'.closed) :
      Met channel channel' [contact] (begin :: ending) := by
    refine ⟨by rw [seen, taken_seen, List.append_assoc]; rfl, ?_, fun owner => ⟨(away owner).1, ?_⟩⟩
    · rw [isOpen, List.filter_eq_self.2 (List.forall_mem_cons.2 ⟨begins, whole⟩)]
      exact shows.shown
    · rw [(away owner).2]
      nofun
  obtain ⟨-, ⟨-, -, shared, seen⟩ | ⟨same, shared, seen⟩⟩ := Channel.await_cases taken_open awaited
  · have same : channel'.closed = taken.closed := congrArg Shared.closed shared
    refine ⟨_, still _ seen ?_ (by rw [same, taken_open]; exact comes)⟩
    cases result with
    | error error => exact List.forall_mem_nil _
    | ok value => exact List.forall_mem_singleton.2 (visible value)
  · have closed : channel'.closed = true := congrArg Shared.closed shared
    exact ⟨_, still _ seen (List.forall_mem_singleton.2 rfl) (closed ▸ cut same)⟩

/-- Nothing happens to a closed channel that refuses an action. -/
theorem met_of_refused {channel : Channel σ} {contact : Contact} (isClosed : channel.closed = true)
    (shows : contact.Shows true [] true) : ∃ events, Met channel channel [contact] events := by
  refine ⟨[], (List.append_nil _).symm, ?_, fun away => ⟨away, .inl⟩⟩
  rw [isClosed]
  exact shows.shown

variable [Transport σ]

/-- What an answer of a channel shows. -/
theorem met_of_answer {action : Action} {reply : Answer action} {channel channel' : Channel σ}
    (answered : channel.answer action = (some reply, channel')) :
    ∃ events, Met channel channel' (Contact.ofAnswer action reply) events := by
  cases action with
  | note notice =>
      cases answered
      refine ⟨_, Channel.seen_happen channel _, ?_, fun away => ⟨away, .inl⟩⟩
      cases notice with
      | progress progress => exact Contact.Shows.told.shown
      | _ => exact .nil
  | close =>
      cases answered
      obtain ⟨shared, -, seen⟩ := Channel.shared_close channel
      have closed : channel.close.closed = true := congrArg Shared.closed shared
      refine ⟨_, seen, ?_, fun away => ⟨?_, fun _ => .inr List.mem_cons_self⟩⟩
      · rw [closed]
        cases channel.closed with
        | false => exact Contact.Shows.closed.shown
        | true => exact Contact.Shows.closedBefore.shown
      · unfold Channel.close
        split <;> exact away
  | send frame =>
      have sent : channel.send frame = (some reply, channel') := answered
      unfold Channel.send at sent
      by_cases closed : channel.closed
      · rw [if_pos closed] at sent
        cases sent
        exact met_of_refused closed .unsendable
      · rw [if_neg closed] at sent
        have isOpen : channel.closed = false := by simpa using closed
        refine met_of_await (.sending frame) isOpen ?_ ?_ ?_ (fun _ => rfl) rfl ?_ ?_ sent
        · exact isOpen
        · exact Channel.seen_happen _ _
        · rfl
        · cases reply with
          | ok => exact .sent
          | error error => exact .unsent
        · rintro rfl
          exact .cutSending
  | receive =>
      have received : channel.receive = (some reply, channel') := answered
      unfold Channel.receive at received
      by_cases closed : channel.closed
      · rw [if_pos closed] at received
        cases received
        exact met_of_refused closed .unreceivable
      · rw [if_neg closed] at received
        have isOpen : channel.closed = false := by simpa using closed
        refine met_of_await .receiving isOpen ?_ ?_ ?_ (fun _ => rfl) rfl ?_ ?_ received
        · exact isOpen
        · exact Channel.seen_happen _ _
        · rfl
        · cases reply with
          | ok frame => exact .received
          | error error => exact .unreceived
        · rintro rfl
          exact .cutReceiving

/-- An action that a channel never answers needs the transport. -/
theorem refusal_of_unanswered {action : Action} {channel channel' : Channel σ}
    (unanswered : channel.answer action = (none, channel')) :
    ∃ answer, refusal action = some answer := by
  cases action with
  | send frame => exact ⟨_, rfl⟩
  | receive => exact ⟨_, rfl⟩
  | close => cases unanswered
  | note notice => cases unanswered

/-- The contacts of a run, with the answers that the channel gives, up to an action that it never
answers. -/
def Channel.contacts : Channel σ → Procedure α → List Contact
  | _, .done _ => []
  | channel, .ask action next =>
    match channel.answer action with
    | (some reply, channel) => Contact.ofAnswer action reply ++ channel.contacts (next reply)
    | (none, _) => []

/-- **What is seen of a run that ends is what its contacts show.** -/
theorem ends_contacts {procedure : Procedure α} {value : α} {channel channel' : Channel σ}
    (ran : channel.run procedure = (some value, channel')) :
    Ends procedure (channel.contacts procedure) value ∧
      ∃ events, Met channel channel' (channel.contacts procedure) events := by
  induction procedure generalizing channel with
  | done result =>
      cases ran
      exact ⟨.refl, [], .refl _⟩
  | ask action next ih =>
      have asked : Dialogue.run Channel.answer (.ask action next) channel =
          (some value, channel') := ran
      rw [Dialogue.run] at asked
      rw [Channel.contacts]
      cases answered : channel.answer action with
      | mk reply between =>
          rw [answered] at asked
          cases reply with
          | none => cases asked
          | some reply =>
              obtain ⟨events, met⟩ := met_of_answer answered
              obtain ⟨ends, later, onward⟩ := ih reply asked
              exact ⟨.step reply ends, _, met.trans onward⟩

/-- **A run that never ends has come to an action that its channel never answers**, through contacts
that show what was seen before. -/
theorem trail_contacts {procedure : Procedure α} {channel channel' : Channel σ}
    (ran : channel.run procedure = (none, channel')) :
    ∃ events between action next,
      Trail procedure (channel.contacts procedure) (.ask action next) ∧
      Met channel between (channel.contacts procedure) events ∧
      between.answer action = (none, channel') := by
  induction procedure generalizing channel with
  | done result => cases ran
  | ask action next ih =>
      have asked : Dialogue.run Channel.answer (.ask action next) channel = (none, channel') := ran
      rw [Dialogue.run] at asked
      rw [Channel.contacts]
      cases answered : channel.answer action with
      | mk reply between =>
          rw [answered] at asked
          cases reply with
          | none =>
              cases asked
              exact ⟨[], channel, action, next, .refl, .refl channel, answered⟩
          | some reply =>
              obtain ⟨events, met⟩ := met_of_answer answered
              obtain ⟨later, last, action', next', trail, onward, unanswered⟩ := ih reply asked
              exact ⟨_, last, action', next', .step reply trail, met.trans onward, unanswered⟩

/-- On a closed channel a procedure has refused contacts only. -/
theorem refused_contacts {channel : Channel σ} (closed : channel.closed = true)
    (procedure : Procedure α) : ∀ contact ∈ channel.contacts procedure, contact.Refused := by
  cases ran : channel.run procedure with
  | mk value channel' =>
      cases value with
      | some value =>
          obtain ⟨-, events, met⟩ := ends_contacts ran
          exact met.shown.refused closed
      | none =>
          obtain ⟨events, between, _, _, -, met, -⟩ := trail_contacts ran
          exact met.shown.refused closed

/-- **What holds of every end of a procedure holds of its runs.** A run that never ends lacks the
answer to an action; with one, and with what a closed channel answers to the rest, it would have come
to such an end. -/
theorem runs_of_ends {procedure : Procedure α} {shape : List Contact → α → Prop}
    (shaped : ∀ contacts value, Ends procedure contacts value → shape contacts value)
    (channel : Channel σ) :
    (∀ value, (channel.run procedure).1 = some value →
      (∃ events, Met channel (channel.run procedure).2 (channel.contacts procedure) events) ∧
        shape (channel.contacts procedure) value) ∧
    ((channel.run procedure).1 = none →
      ∃ events between action answer more value,
        Met channel between (channel.contacts procedure) events ∧
        between.answer action = (none, (channel.run procedure).2) ∧
        refusal action = some answer ∧
        shape (channel.contacts procedure ++ (Contact.ofAnswer action answer ++ more)) value) := by
  constructor
  · intro value ended
    obtain ⟨ends, seen⟩ := ends_contacts (Prod.ext ended rfl)
    exact ⟨seen, shaped _ value ends⟩
  · intro unending
    obtain ⟨events, between, action, next, trail, met, unanswered⟩ :=
      trail_contacts (Prod.ext unending rfl)
    obtain ⟨answer, refused⟩ := refusal_of_unanswered unanswered
    obtain ⟨more, value, ends, -⟩ := exists_ends_refused (next answer)
    have whole := shaped _ value (trail.trans (.step answer ends))
    exact ⟨events, between, action, answer, more, value, met, unanswered, refused, whole⟩

end Channels

end ControlLink.Session
