/-
# ControlLink.Proofs.Session.Turn — an operation that has the transport to itself

A `Medium` says how a transport may behave, one step at a time: it takes up an action of a caller,
answers it some time later, or is left alone by a caller that no longer waits; and things may happen
that no caller asked for. Nothing is said of how long any of it takes.

A `Turn` is an operation that has the transport. It may be suspended in each action that it asks of
the transport; whenever the channel is closed it is told so instead, also in the middle of an
action. `Turn.Run` is what a turn may do from one moment to another, while the owner of the channel
may close it at any moment.

`run_of_channel_run` shows what `Channel.run` does to be such a turn, so nothing that is said of all
turns is lost on the channels that operations run on.
-/
import ControlLink.Session.Channel

namespace ControlLink.Session

set_option autoImplicit false

/-- How a transport may behave towards its callers. -/
structure Medium (ι σ : Type) where
  /-- The transport takes up an action of a caller. -/
  takes : ι → Action → σ → σ → Prop
  /-- It answers the action that it has taken up. -/
  answers : ι → (action : Action) → σ → Answer action → σ → Prop
  /-- The caller no longer waits for the answer. -/
  drops : ι → Action → σ → σ → Prop
  /-- Something happens that no caller asked for. -/
  drifts : σ → σ → Prop

/-- The answer of a closed channel to an action that needs the transport. -/
def refusal : (action : Action) → Option (Answer action)
  | .send _ => some (.error .closed)
  | .receive => some (.error .closed)
  | .close => none
  | .note _ => none

/-- What is seen of an action when the transport takes it up. -/
def begun : Action → List Event
  | .send frame => [.sending frame]
  | .receive => [.receiving]
  | _ => []

/-- What is seen of an action when it is answered. -/
def finished : (action : Action) → Answer action → List Event
  | .send frame, .ok () => [.sent frame]
  | .receive, .ok frame => [.received frame]
  | _, _ => []

theorem finished_send (frame : Bytes) (result : Except LinkError Unit) :
    finished (.send frame) result = (result.toOption.map fun () => Event.sent frame).toList := by
  cases result <;> rfl

theorem finished_receive (result : Except LinkError Bytes) :
    finished .receive result = (result.toOption.map Event.received).toList := by
  cases result <;> rfl

/-- What is seen of a session and its callers. -/
inductive Deed (ι : Type) where
  /-- A caller gets the transport for itself. -/
  | acquired (caller : ι)
  | did (caller : ι) (event : Event)
  /-- The owner of the channel closes it. -/
  | closed

/-- The event on the channel. -/
def Deed.event? {ι : Type} : Deed ι → Option Event
  | acquired _ => none
  | did _ event => some event
  | closed => some .closed

theorem Deed.filterMap_event_did {ι : Type} (caller : ι) (events : List Event) :
    (events.map (Deed.did caller)).filterMap Deed.event? = events := by
  rw [List.filterMap_map]
  exact List.filterMap_some

/-- What callers share: the transport, and whether the channel has been closed. -/
structure Shared (σ : Type) where
  transport : σ
  closed : Bool := false

variable {ι σ α : Type}

/-- What happens to the transport and the channel without their callers. -/
inductive Shared.Stir (medium : Medium ι σ) : Shared σ → List (Deed ι) → Shared σ → Prop where
  | drift {transport transport' : σ} {closed : Bool} : medium.drifts transport transport' →
      Stir medium ⟨transport, closed⟩ [] ⟨transport', closed⟩
  | close {transport : σ} : Stir medium ⟨transport, false⟩ [.closed] ⟨transport, true⟩

/-- An operation under way. -/
structure Turn (α σ : Type) where
  rest : Procedure α
  /-- The transport has taken up the next action. -/
  busy : Bool := false
  shared : Shared σ

/-- One step of an operation that has the transport, with what is seen of it. -/
inductive Turn.Step (medium : Medium ι σ) (caller : ι) :
    Turn α σ → List Event → Turn α σ → Prop where
  | note {notice : Notice} {next : Unit → Procedure α} {shared : Shared σ} :
      Step medium caller ⟨.ask (.note notice) next, false, shared⟩ [.noted notice]
        ⟨next (), false, shared⟩
  | close {next : Unit → Procedure α} {transport : σ} {closed : Bool} :
      Step medium caller ⟨.ask .close next, false, ⟨transport, closed⟩⟩
        (if closed then [] else [.closed]) ⟨next (), false, ⟨transport, true⟩⟩
  /-- A closed channel does not touch the transport. -/
  | refuse {action : Action} {next : Answer action → Procedure α} {answer : Answer action}
      {transport : σ} : refusal action = some answer →
      Step medium caller ⟨.ask action next, false, ⟨transport, true⟩⟩ []
        ⟨next answer, false, ⟨transport, true⟩⟩
  | take {action : Action} {next : Answer action → Procedure α} {transport transport' : σ} :
      (refusal action).isSome → medium.takes caller action transport transport' →
      Step medium caller ⟨.ask action next, false, ⟨transport, false⟩⟩ (begun action)
        ⟨.ask action next, true, ⟨transport', false⟩⟩
  /-- An action is answered only as long as the channel is open. -/
  | answer {action : Action} {next : Answer action → Procedure α} {answer : Answer action}
      {transport transport' : σ} : medium.answers caller action transport answer transport' →
      Step medium caller ⟨.ask action next, true, ⟨transport, false⟩⟩ (finished action answer)
        ⟨next answer, false, ⟨transport', false⟩⟩
  /-- The channel has closed while the transport was at work. -/
  | drop {action : Action} {next : Answer action → Procedure α} {answer : Answer action}
      {transport transport' : σ} : refusal action = some answer →
      medium.drops caller action transport transport' →
      Step medium caller ⟨.ask action next, true, ⟨transport, true⟩⟩ []
        ⟨next answer, false, ⟨transport', true⟩⟩

/-- What an operation that has the transport may do, with what is seen in the meantime. -/
inductive Turn.Run (medium : Medium ι σ) (caller : ι) :
    Turn α σ → List (Deed ι) → Turn α σ → Prop where
  | refl {turn : Turn α σ} : Run medium caller turn [] turn
  | step {first turn turn' : Turn α σ} {deeds : List (Deed ι)} {events : List Event} :
      Run medium caller first deeds turn → Turn.Step medium caller turn events turn' →
      Run medium caller first (deeds ++ events.map (.did caller)) turn'
  | stir {first : Turn α σ} {rest : Procedure α} {busy : Bool} {shared shared' : Shared σ}
      {deeds more : List (Deed ι)} : Run medium caller first deeds ⟨rest, busy, shared⟩ →
      Shared.Stir medium shared more shared' →
      Run medium caller first (deeds ++ more) ⟨rest, busy, shared'⟩

namespace Turn

variable {medium : Medium ι σ} {caller : ι}

theorem Run.trans {first middle last : Turn α σ} {deeds more : List (Deed ι)}
    (run : Run medium caller first deeds middle) (onward : Run medium caller middle more last) :
    Run medium caller first (deeds ++ more) last := by
  induction onward with
  | refl => rwa [List.append_nil]
  | step _ one ih => rw [← List.append_assoc]; exact ih.step one
  | stir _ change ih => rw [← List.append_assoc]; exact ih.stir change

/-- One step is a run. -/
theorem Step.run {turn turn' : Turn α σ} {events : List Event}
    (step : Step medium caller turn events turn') :
    Run medium caller turn (events.map (.did caller)) turn' := .step .refl step

variable {action : Action} {reply : Answer action} {transport transport' transport'' : σ}

/-- An action that the transport answers. -/
theorem Run.answered (next : Answer action → Procedure α)
    (refusable : (refusal action).isSome)
    (takes : medium.takes caller action transport transport')
    (answers : medium.answers caller action transport' reply transport'') :
    Run medium caller ⟨.ask action next, false, ⟨transport, false⟩⟩
      ((begun action).map (.did caller) ++ (finished action reply).map (.did caller))
      ⟨next reply, false, ⟨transport'', false⟩⟩ :=
  .step (Step.take refusable takes).run (.answer answers)

/-- An action in the middle of which the channel is closed. -/
theorem Run.interrupted (next : Answer action → Procedure α)
    (refused : refusal action = some reply)
    (takes : medium.takes caller action transport transport')
    (drops : medium.drops caller action transport' transport'') :
    Run medium caller ⟨.ask action next, false, ⟨transport, false⟩⟩
      ((begun action).map (.did caller) ++ [.closed]) ⟨next reply, false, ⟨transport'', true⟩⟩ := by
  have taken : Run medium caller ⟨.ask action next, false, ⟨transport, false⟩⟩
      ((begun action).map (.did caller)) ⟨.ask action next, true, ⟨transport', false⟩⟩ :=
    (Step.take (by simp [refused]) takes).run
  have dropped := (taken.stir .close).step (.drop refused drops)
  rwa [List.map_nil, List.append_nil] at dropped

end Turn

/-! ## Channels run turns -/

/-- A transport and what it is about to deliver. -/
structure Underway (σ : Type) where
  transport : σ
  sending : Option (Delivery Unit) := none
  receiving : Option (Delivery Bytes) := none

/-- A transport answers an action once its delivery has come. -/
def Medium.ofTransport (ι σ : Type) [Transport σ] (timeout : Option Nat) :
    Medium ι (Underway σ) where
  takes _ action state state' :=
    match action with
    | .send frame =>
      state' = ⟨(Transport.send state.transport frame).2,
        some (Transport.send state.transport frame).1, none⟩
    | .receive =>
      state' = ⟨(Transport.receive state.transport frameLimit).2, none,
        some (Channel.limited timeout (Transport.receive state.transport frameLimit).1)⟩
    | _ => False
  answers _ action :=
    match action with
    | .send _ => fun state answer state' => ∃ delivery, state.sending = some delivery ∧
        delivery.after.isSome ∧ answer = delivery.result ∧ state' = ⟨state.transport, none, none⟩
    | .receive => fun state answer state' => ∃ delivery, state.receiving = some delivery ∧
        delivery.after.isSome ∧ answer = delivery.result ∧ state' = ⟨state.transport, none, none⟩
    | _ => fun _ _ _ => False
  drops _ _ state state' := state' = ⟨state.transport, none, none⟩
  drifts _ _ := False

namespace Channel

/-- What callers share of a channel. -/
def shared (channel : Channel σ) : Shared (Underway σ) :=
  ⟨⟨channel.transport, none, none⟩, channel.closed⟩

/-- What was seen on a channel so far, the first first. -/
def seen (channel : Channel σ) : List Event := channel.history.reverse

theorem seen_happen (channel : Channel σ) (event : Event) :
    (channel.happen event).seen = channel.seen ++ [event] := List.reverse_cons

/-- Closing touches nothing but the flag. -/
theorem shared_close (channel : Channel σ) :
    channel.close.shared = ⟨⟨channel.transport, none, none⟩, true⟩ ∧
      channel.close.timeout = channel.timeout ∧
      channel.close.seen = channel.seen ++ if channel.closed then [] else [.closed] := by
  unfold close
  by_cases closed : channel.closed
  · simp [shared, closed]
  · simp [shared, closed, seen, happen]

theorem shared_closeOn (channel : Channel σ) (moment : Nat) :
    (channel.closeOn moment).shared = ⟨⟨channel.transport, none, none⟩, true⟩ ∧
      (channel.closeOn moment).timeout = channel.timeout ∧
      (channel.closeOn moment).seen =
        channel.seen ++ if channel.closed then [] else [.closed] :=
  shared_close (channel.advance moment)

/-- A wait comes to its end, or the channel closes first. -/
theorem wait_cases {channel waited : Channel σ} {delay : Option Nat} {wait : Wait}
    (h : channel.wait delay = (wait, waited)) :
    (wait = .over ∧ delay.isSome ∧ ∃ moment, waited = channel.advance moment) ∨
      (wait = .interrupted ∧ ∃ moment, waited = channel.closeOn moment) ∨
      (wait = .endless ∧ waited = channel) := by
  unfold Channel.wait at h
  split at h
  · split at h
    · cases h; exact .inr (.inl ⟨rfl, _, rfl⟩)
    · cases h; exact .inl ⟨rfl, rfl, _, rfl⟩
  · cases h; exact .inl ⟨rfl, rfl, _, rfl⟩
  · cases h; exact .inr (.inl ⟨rfl, _, rfl⟩)
  · cases h; exact .inr (.inr ⟨rfl, rfl⟩)

/-- On an open channel an awaited delivery comes, or the channel closes first. -/
theorem await_cases {channel channel' : Channel σ} {delivery : Delivery α} {arrived : α → Event}
    {result : Except LinkError α} (isOpen : channel.closed = false)
    (h : channel.await delivery arrived = (some result, channel')) :
    channel'.timeout = channel.timeout ∧
      ((delivery.after.isSome ∧ result = delivery.result ∧ channel'.shared = channel.shared ∧
          channel'.seen = channel.seen ++ (result.toOption.map arrived).toList) ∨
        (result = .error .closed ∧ channel'.shared = ⟨⟨channel.transport, none, none⟩, true⟩ ∧
          channel'.seen = channel.seen ++ [.closed])) := by
  unfold await at h
  cases waited : channel.wait delivery.after with
  | mk wait after =>
    simp only [waited] at h
    obtain ⟨rfl, comes, moment, rfl⟩ | ⟨rfl, moment, rfl⟩ | ⟨rfl, -⟩ := wait_cases waited
    · simp only at h
      split at h
      · rename_i value ok
        cases h
        exact ⟨rfl, .inl ⟨comes, ok.symm, rfl, seen_happen _ (arrived value)⟩⟩
      · rename_i error failed
        cases h
        exact ⟨rfl, .inl ⟨comes, failed.symm, rfl, (List.append_nil _).symm⟩⟩
    · cases h
      obtain ⟨shared, timeout, seen⟩ := shared_closeOn channel moment
      simp only [isOpen, Bool.false_eq_true, if_false] at seen
      exact ⟨timeout, .inr ⟨rfl, shared, seen⟩⟩
    · cases h

/-- A delivery that never comes leaves the channel as it was. -/
theorem await_none {channel channel' : Channel σ} {delivery : Delivery α} {arrived : α → Event}
    (h : channel.await delivery arrived = (none, channel')) : channel' = channel := by
  unfold await at h
  cases waited : channel.wait delivery.after with
  | mk wait after =>
    simp only [waited] at h
    obtain ⟨rfl, -, moment, rfl⟩ | ⟨rfl, moment, rfl⟩ | ⟨rfl, rfl⟩ := wait_cases waited
    · simp only at h
      split at h <;> cases h
    · cases h
    · cases h
      rfl

variable [Transport σ] {caller : ι}

/-- An open channel whose transport takes up an action awaits its delivery as a turn does. -/
theorem run_of_await {β : Type} {action : Action} {next : Answer action → Procedure α}
    {answerOf : Except LinkError β → Answer action} {channel taken channel' : Channel σ}
    {delivery : Delivery β} {arrived : β → Event} {result : Except LinkError β} {timeout}
    {state : Underway σ} (isOpen : channel.closed = false)
    (refused : refusal action = some (answerOf (.error .closed)))
    (seen_eq : ∀ result, finished action (answerOf result) = (result.toOption.map arrived).toList)
    (takes : (Medium.ofTransport ι σ timeout).takes caller action channel.shared.transport state)
    (answers : delivery.after.isSome → (Medium.ofTransport ι σ timeout).answers caller action state
      (answerOf delivery.result) ⟨state.transport, none, none⟩)
    (taken_shared : taken.shared = ⟨⟨state.transport, none, none⟩, false⟩)
    (taken_seen : taken.seen = channel.seen ++ begun action)
    (taken_timeout : taken.timeout = timeout)
    (awaited : taken.await delivery arrived = (some result, channel')) :
    channel'.timeout = timeout ∧
      ∃ deeds, channel'.seen = channel.seen ++ deeds.filterMap Deed.event? ∧
        Turn.Run (Medium.ofTransport ι σ timeout) caller
          ⟨.ask action next, false, channel.shared⟩ deeds
          ⟨next (answerOf result), false, channel'.shared⟩ := by
  have shared_eq : channel.shared = ⟨channel.shared.transport, false⟩ := by rw [← isOpen]; rfl
  have taken_open : taken.closed = false := congrArg Shared.closed taken_shared
  obtain ⟨same, ⟨comes, rfl, shared', seen⟩ | ⟨rfl, shared', seen⟩⟩ :=
    await_cases taken_open awaited
  · have run := Turn.Run.answered next (by simp [refused]) takes (answers comes)
    rw [← shared_eq, ← taken_shared, ← shared'] at run
    refine ⟨same.trans taken_timeout, _, ?_, run⟩
    rw [seen, taken_seen, ← seen_eq, List.filterMap_append, Deed.filterMap_event_did,
      Deed.filterMap_event_did, List.append_assoc]
  · have run := Turn.Run.interrupted next refused takes rfl
    have transport_eq : taken.transport = state.transport :=
      congrArg (fun shared => shared.transport.transport) taken_shared
    rw [← shared_eq, ← transport_eq, ← shared'] at run
    refine ⟨same.trans taken_timeout, _, ?_, run⟩
    rw [seen, taken_seen, List.filterMap_append, Deed.filterMap_event_did, List.append_assoc]
    rfl

/-- A channel answers an action as a turn does. -/
theorem run_of_answer {action : Action} {reply : Answer action}
    {next : Answer action → Procedure α} {channel channel' : Channel σ}
    (answered : channel.answer action = (some reply, channel')) :
    channel'.timeout = channel.timeout ∧
      ∃ deeds, channel'.seen = channel.seen ++ deeds.filterMap Deed.event? ∧
        Turn.Run (Medium.ofTransport ι σ channel.timeout) caller
          ⟨.ask action next, false, channel.shared⟩ deeds
          ⟨next reply, false, channel'.shared⟩ := by
  have refuse (isClosed : channel.closed) (refused : refusal action = some reply) :
      Turn.Run (Medium.ofTransport ι σ channel.timeout) caller
        ⟨.ask action next, false, channel.shared⟩ [] ⟨next reply, false, channel.shared⟩ := by
    rw [shared, isClosed]
    exact (Turn.Step.refuse refused).run
  cases action with
  | note notice =>
      cases answered
      exact ⟨rfl, _, seen_happen channel _, Turn.Step.note.run⟩
  | close =>
      cases answered
      obtain ⟨shared', timeout, seen⟩ := shared_close channel
      rw [shared']
      refine ⟨timeout, _, ?_, Turn.Step.close.run⟩
      rw [seen, Deed.filterMap_event_did]
  | send frame =>
      have sent : channel.send frame = (some reply, channel') := answered
      unfold send at sent
      by_cases closed : channel.closed
      · rw [if_pos closed] at sent
        cases sent
        exact ⟨rfl, [], (List.append_nil _).symm, refuse closed rfl⟩
      · rw [if_neg closed] at sent
        have isOpen : channel.closed = false := by simpa using closed
        refine run_of_await isOpen rfl (finished_send frame) rfl
          (fun comes => ⟨_, rfl, comes, rfl, rfl⟩) ?_ ?_ ?_ sent
        · simp only [shared, happen, isOpen]
          rfl
        · exact seen_happen _ _
        · rfl
  | receive =>
      have received : channel.receive = (some reply, channel') := answered
      unfold receive at received
      by_cases closed : channel.closed
      · rw [if_pos closed] at received
        cases received
        exact ⟨rfl, [], (List.append_nil _).symm, refuse closed rfl⟩
      · rw [if_neg closed] at received
        have isOpen : channel.closed = false := by simpa using closed
        refine run_of_await isOpen rfl finished_receive rfl
          (fun comes => ⟨_, rfl, comes, rfl, rfl⟩) ?_ ?_ ?_ received
        · simp only [shared, happen, isOpen]
          rfl
        · exact seen_happen _ _
        · rfl

/-- **A channel runs a procedure as a turn does**, and sees the same of it. -/
theorem run_of_channel_run (caller : ι) {procedure : Procedure α} {value : α}
    {channel channel' : Channel σ} (ran : channel.run procedure = (some value, channel')) :
    ∃ deeds, channel'.seen = channel.seen ++ deeds.filterMap Deed.event? ∧
      Turn.Run (Medium.ofTransport ι σ channel.timeout) caller
        ⟨procedure, false, channel.shared⟩ deeds ⟨.done value, false, channel'.shared⟩ := by
  induction procedure generalizing channel with
  | done result =>
      cases ran
      exact ⟨[], (List.append_nil _).symm, .refl⟩
  | ask action next ih =>
      have asked : Dialogue.run answer (.ask action next) channel = (some value, channel') := ran
      rw [Dialogue.run] at asked
      split at asked
      · rename_i reply between answered
        obtain ⟨same, deeds, seen, first⟩ := run_of_answer answered
        obtain ⟨more, seen', rest⟩ := ih reply asked
        rw [same] at rest
        refine ⟨deeds ++ more, ?_, first.trans rest⟩
        rw [seen', seen, List.append_assoc, List.filterMap_append]
      · cases asked

end Channel

end ControlLink.Session
