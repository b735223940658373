/-
# ControlLink.Proofs.Session.Watch — callers that are watched one by one

What is said of an operation by following its dialogue is to hold of a caller among others, whatever
they do in between. A `watching` discipline is followed by the events that show what the operation
has got done. It may ask something of every notice, and of the moments at which the transport is to
do something.

`Crowd.Run.watched` says of any interleaving that the rest of each caller's operation keeps the
discipline from the state to which this caller's own events have led, and so what it asks of every
wait and of the end holds of a caller at rest (`Crowd.Run.watched_of_rests`). Nothing is lost by
looking at the callers one by one: what is seen of all of them is what is seen of each, in the order
in which they got the transport (`Crowd.Run.events_eq`).
-/
import ControlLink.Proofs.Session.Closing

namespace ControlLink.Session

set_option autoImplicit false

variable {ι σ : Type} {α : ι → Type}

/-! ## What is seen of one caller -/

/-- The event that some caller brings about. -/
def Deed.did? : Deed ι → Option Event
  | .did _ event => some event
  | _ => none

/-- The event that this caller brings about. -/
def Deed.of? [DecidableEq ι] (caller : ι) : Deed ι → Option Event
  | .did other event => if other = caller then some event else none
  | _ => none

/-- What is seen of a caller. -/
def own [DecidableEq ι] (caller : ι) (trace : List (Deed ι)) : List Event :=
  trace.filterMap (Deed.of? caller)

theorem acquired_notMem_of_stir {medium : Medium ι σ} {shared shared' : Shared σ}
    {deeds : List (Deed ι)} (stirred : Shared.Stir medium shared deeds shared') (caller : ι) :
    .acquired caller ∉ deeds := by
  cases stirred <;> simp

section Own

variable [DecidableEq ι] {caller other : ι} {trace deeds : List (Deed ι)}

theorem own_append (caller : ι) (trace deeds : List (Deed ι)) :
    own caller (trace ++ deeds) = own caller trace ++ own caller deeds := List.filterMap_append

theorem own_acquired (caller other : ι) (deeds : List (Deed ι)) :
    own caller (.acquired other :: deeds) = own caller deeds := rfl

theorem own_did (caller other : ι) (events : List Event) :
    own caller (events.map (Deed.did other)) = if other = caller then events else [] := by
  unfold own
  rw [List.filterMap_map]
  split
  · rename_i same
    have whole : Deed.of? caller ∘ Deed.did other = some := funext fun event => if_pos same
    rw [whole]
    exact List.filterMap_some
  · rename_i ne
    exact List.filterMap_eq_nil_iff.2 fun _ _ => if_neg ne

theorem own_of_stir {medium : Medium ι σ} {shared shared' : Shared σ}
    (stirred : Shared.Stir medium shared deeds shared') : own caller deeds = [] := by
  cases stirred <;> rfl

/-- Of a caller that does nothing, nothing is seen. -/
theorem own_of_notMem (away : caller ∉ deeds.filterMap Deed.doer?) : own caller deeds = [] := by
  refine List.filterMap_eq_nil_iff.2 fun deed member => ?_
  cases deed with
  | did other event =>
      refine if_neg fun same => away (List.mem_filterMap.2 ⟨_, member, ?_⟩)
      exact congrArg some same
  | _ => rfl

/-- Of a caller that alone does something, all is seen. -/
theorem own_of_alone (alone : ∀ doer ∈ deeds.filterMap Deed.doer?, doer = caller) :
    own caller deeds = deeds.filterMap Deed.did? := by
  refine List.filterMap_congr fun deed member => ?_
  cases deed with
  | did other event => exact if_pos (alone other (List.mem_filterMap.2 ⟨_, member, rfl⟩))
  | _ => rfl

/-- One more caller gets the transport and does something, the others are through. -/
theorem events_of_acquired {callers : List ι}
    (before : trace.filterMap Deed.did? = callers.flatMap fun caller => own caller trace)
    (inside : ∀ doer ∈ trace.filterMap Deed.doer?, doer ∈ callers) (fresh : caller ∉ callers)
    (alone : ∀ doer ∈ deeds.filterMap Deed.doer?, doer = caller) :
    (trace ++ .acquired caller :: deeds).filterMap Deed.did? =
      (callers ++ [caller]).flatMap fun one => own one (trace ++ .acquired caller :: deeds) := by
  have nothing : own caller trace = [] := own_of_notMem fun member => fresh (inside _ member)
  have through (other : ι) (member : other ∈ callers) :
      own other (trace ++ .acquired caller :: deeds) = own other trace := by
    have away : other ∉ deeds.filterMap Deed.doer? := by
      intro doer
      rw [alone other doer] at member
      exact fresh member
    rw [own_append, own_acquired, own_of_notMem away, List.append_nil]
  have earlier : callers.flatMap (fun other => own other (trace ++ .acquired caller :: deeds)) =
      trace.filterMap Deed.did? := by
    rw [before, List.flatMap_def, List.flatMap_def, List.map_congr_left through]
  rw [List.flatMap_append, earlier, List.flatMap_singleton, own_append, nothing, own_acquired,
    own_of_alone alone, List.filterMap_append]
  rfl

/-- In a relay, what is seen of all callers is what is seen of each, one after the other. -/
theorem events_of_relay {medium : Medium ι σ} {program : (caller : ι) → Procedure (α caller)}
    {first left : Shared σ} {served : List (Served ι α)}
    (relay : Relay medium program first served trace left)
    (nodup : (served.map Served.caller).Nodup) :
    trace.filterMap Deed.did? =
      (served.map Served.caller).flatMap fun caller => own caller trace := by
  induction relay with
  | start => rfl
  | @stir served trace deeds _ _ _ stirred ih =>
      have still (caller : ι) : own caller (trace ++ deeds) = own caller trace := by
        rw [own_append, own_of_stir stirred, List.append_nil]
      have nothing : deeds.filterMap Deed.did? = [] := by cases stirred <;> rfl
      rw [List.filterMap_append, nothing, List.append_nil, ih nodup]
      simp only [still]
  | turn one relay run ih =>
      rw [List.map_append, List.nodup_append] at nodup
      obtain ⟨before, -, apart⟩ := nodup
      have fresh := fun member => apart one.caller member one.caller List.mem_cons_self rfl
      rw [List.map_append]
      exact events_of_acquired (ih before) (doers_of_relay relay before).2 fresh
        (doers_of_turn run).1

end Own

/-! ## Disciplines that are followed by events -/

/-- A discipline that is watched by what is seen of a dialogue. It asks something of every notice,
and of every moment at which the transport is to do something. -/
def watching {S : Type} (watch : S → Event → S) (waits : S → Prop) (fair : Notice → Prop) :
    Discipline Answer S
  | .send frame, s, goal =>
    waits s ∧ ∀ answer, goal answer ((finished (.send frame) answer).foldl watch s)
  | .receive, s, goal =>
    waits s ∧ ∀ answer, goal answer ((finished .receive answer).foldl watch s)
  | .close, s, goal => goal () s
  | .note notice, s, goal => fair notice ∧ goal () (watch s (.noted notice))

/-- Nothing is made of an action that is only begun, or of the channel being closed. -/
structure Patient {S : Type} (watch : S → Event → S) : Prop where
  sending : ∀ s frame, watch s (.sending frame) = s
  receiving : ∀ s, watch s .receiving = s
  closed : ∀ s, watch s .closed = s

section Watching

variable {S β : Type} {watch : S → Event → S} {waits : S → Prop} {fair : Notice → Prop}
  {goal : β → S → Prop} {s : S}

theorem watching_monotone : (watching watch waits fair).Monotone := by
  intro action s goal goal' weaker kept
  cases action with
  | send frame => exact ⟨kept.1, fun answer => weaker _ _ (kept.2 answer)⟩
  | receive => exact ⟨kept.1, fun answer => weaker _ _ (kept.2 answer)⟩
  | close => exact weaker _ _ kept
  | note notice => exact ⟨kept.1, weaker _ _ kept.2⟩

/-- What the transport is asked may be answered in any way. -/
theorem watching_of_refusal {action : Action} {goal : Answer action → S → Prop}
    (refusable : (refusal action).isSome) (kept : watching watch waits fair action s goal) :
    waits s ∧ ∀ answer, goal answer ((finished action answer).foldl watch s) := by
  cases action with
  | send frame => exact kept
  | receive => exact kept
  | close => cases refusable
  | note notice => cases refusable

theorem foldl_begun (patient : Patient watch) (action : Action) (s : S) :
    (begun action).foldl watch s = s := by
  cases action with
  | send frame => exact patient.sending s frame
  | receive => exact patient.receiving s
  | close => rfl
  | note notice => rfl

/-- A refusal is not seen. -/
theorem finished_of_refusal {action : Action} {answer : Answer action}
    (refused : refusal action = some answer) : finished action answer = [] := by
  cases action with
  | send frame => cases refused; rfl
  | receive => cases refused; rfl
  | close => cases refused
  | note notice => cases refused

/-- **What a step of a turn keeps.** -/
theorem Turn.Step.watched {medium : Medium ι σ} {caller : ι} {turn turn' : Turn β σ}
    {events : List Event} (patient : Patient watch)
    (step : Turn.Step medium caller turn events turn') (asks : turn.busy = true → Asks turn.rest)
    (keeps : turn.rest.Keeps (watching watch waits fair) goal s) :
    turn'.rest.Keeps (watching watch waits fair) goal (events.foldl watch s) ∧
      ∀ notice, .noted notice ∈ events → fair notice := by
  cases step with
  | note =>
      refine ⟨keeps.2, fun notice member => ?_⟩
      cases List.mem_singleton.1 member
      exact keeps.1
  | @close next transport closed =>
      cases closed with
      | true => exact ⟨keeps, by simp⟩
      | false =>
          have after : (next ()).Keeps (watching watch waits fair) goal (watch s .closed) := by
            rw [patient.closed]
            exact keeps
          exact ⟨after, by simp⟩
  | @refuse action next answer transport refused =>
      have kept := (watching_of_refusal (by simp [refused]) keeps).2 answer
      rw [finished_of_refusal refused] at kept
      exact ⟨kept, by simp⟩
  | @take action next transport transport' refusable takes =>
      rw [foldl_begun patient]
      refine ⟨keeps, fun notice member => ?_⟩
      cases action <;> simp [begun] at member
  | @answer action next answer transport transport' answers =>
      obtain ⟨action', next', same, refusable⟩ := asks rfl
      cases same
      refine ⟨(watching_of_refusal refusable keeps).2 answer, fun notice member => ?_⟩
      cases action with
      | send frame => cases answer <;> simp [finished] at member
      | receive => cases answer <;> simp [finished] at member
      | close => cases refusable
      | note notice => cases refusable
  | @drop action next answer transport transport' refused drops =>
      have kept := (watching_of_refusal (by simp [refused]) keeps).2 answer
      rw [finished_of_refusal refused] at kept
      exact ⟨kept, by simp⟩

end Watching

/-! ## Every caller of a crowd -/

section Crowds

variable [DecidableEq ι] {medium : Medium ι σ} {program : (caller : ι) → Procedure (α caller)}
  {crowd crowd' : Crowd α σ} {first : Shared σ} {trace deeds : List (Deed ι)} {caller : ι}
  {S : Type} {watch : S → Event → S} {waits : S → Prop} {fair : Notice → Prop}
  {goal : α caller → S → Prop} {s : S}

namespace Crowd

/-- What a caller keeps whose own part of a step keeps it. -/
theorem watched_of_put {mover : ι} {stage : Stage (α mover)} {events : List Event}
    (keeps : ((crowd.stage caller).rest (program caller)).Keeps (watching watch waits fair) goal s)
    (stage_eq : crowd'.stage = (crowd.put mover stage).stage)
    (moved : ∀ {goal : α mover → S → Prop},
      ((crowd.stage mover).rest (program mover)).Keeps (watching watch waits fair) goal s →
      (stage.rest (program mover)).Keeps (watching watch waits fair) goal (events.foldl watch s) ∧
        ∀ notice, .noted notice ∈ events → fair notice) :
    ((crowd'.stage caller).rest (program caller)).Keeps (watching watch waits fair) goal
        ((own caller (events.map (Deed.did mover))).foldl watch s) ∧
      ∀ notice, .noted notice ∈ own caller (events.map (Deed.did mover)) → fair notice := by
  rw [stage_eq, own_did]
  by_cases same : caller = mover
  · subst same
    rw [put_stage_self, if_pos rfl]
    exact moved keeps
  · rw [put_stage_of_ne crowd stage same, if_neg (Ne.symm same)]
    exact ⟨keeps, by simp⟩

/-- A caller that comes to another stage with the same left to do keeps what it kept. -/
theorem watched_of_still {mover : ι} {stage : Stage (α mover)}
    (keeps : ((crowd.stage caller).rest (program caller)).Keeps (watching watch waits fair) goal s)
    (stage_eq : crowd'.stage = (crowd.put mover stage).stage)
    (still : (crowd.stage mover).rest (program mover) = stage.rest (program mover)) :
    ((crowd'.stage caller).rest (program caller)).Keeps (watching watch waits fair) goal s ∧
      ∀ notice, Event.noted notice ∈ [] → fair notice := by
  refine ⟨?_, by simp⟩
  rw [stage_eq]
  by_cases same : caller = mover
  · subst same
    rwa [put_stage_self, ← still]
  · rwa [put_stage_of_ne crowd stage same]

/-- **What a step of a crowd keeps for each caller.** -/
theorem Step.watched (patient : Patient watch) (refusable : crowd.Refusable)
    (step : Step medium program crowd deeds crowd')
    (keeps : ((crowd.stage caller).rest (program caller)).Keeps (watching watch waits fair)
      goal s) :
    ((crowd'.stage caller).rest (program caller)).Keeps (watching watch waits fair) goal
        ((own caller deeds).foldl watch s) ∧
      ∀ notice, .noted notice ∈ own caller deeds → fair notice := by
  cases step with
  | issue idle _ => exact watched_of_still keeps rfl (by rw [idle]; rfl)
  | settle idle done => exact watched_of_still keeps rfl (by rw [idle]; exact done)
  | acquire waits _ => exact watched_of_still keeps rfl (by rw [waits]; rfl)
  | act running step =>
      refine watched_of_put keeps rfl fun kept => ?_
      rw [running] at kept
      refine step.watched patient ?_ kept
      intro busy
      cases busy
      exact refusable _ _ running
  | release running => exact watched_of_still keeps rfl (by rw [running]; rfl)
  | stir stirred =>
      rw [own_of_stir stirred]
      exact ⟨keeps, by simp⟩

/-- **What a run of a crowd keeps for each caller**: the rest of its operation keeps the discipline
from where its own events have led, and its notices have been what the discipline asks. -/
theorem Run.watched (patient : Patient watch)
    (run : Run medium program (.start first) trace crowd)
    (keeps : (program caller).Keeps (watching watch waits fair) goal s) :
    ((crowd.stage caller).rest (program caller)).Keeps (watching watch waits fair) goal
        ((own caller trace).foldl watch s) ∧
      ∀ notice, .noted notice ∈ own caller trace → fair notice := by
  induction run with
  | refl => exact ⟨keeps, by simp [own]⟩
  | step run step ih =>
      obtain ⟨kept, noted⟩ := ih
      obtain ⟨onward, more⟩ := step.watched patient (Refusable.of_run run) kept
      rw [own_append, List.foldl_append]
      refine ⟨onward, fun notice member => ?_⟩
      exact (List.mem_append.1 member).elim (noted notice) (more notice)

/-- What is seen of all callers is what is seen of each that got the transport, one after the
other. -/
theorem Run.events_eq (run : Run medium program (.start first) trace crowd) :
    trace.filterMap Deed.did? =
      (trace.filterMap Deed.winner?).flatMap fun caller => own caller trace := by
  obtain ⟨served, before, left, deeds, rfl, serial⟩ := Serial.of_run run
  have events := events_of_relay serial.relay serial.nodup
  rw [serial.winners]
  rcases Option.eq_none_or_eq_some crowd.lock with free | ⟨holder, held⟩
  · rw [(serial.left_of_free free).1, free, Option.toList_none, List.append_nil, List.append_nil]
    exact events
  · have fresh := serial.not_served_of_lock held
    obtain ⟨rest, busy, own, -, rfl, turn⟩ := serial.running_of_lock held
    rw [held, Option.toList_some]
    exact events_of_acquired events (doers_of_relay serial.relay serial.nodup).2 fresh
      (doers_of_turn turn).1

end Crowd

/-! ## Who has got the transport -/

/-- Where a caller stands, depending on whether it has got the transport. Only one whose operation
asks for something ever waits for it. -/
def Stage.Standing {β : Type} (program : Procedure β) (acquired : Prop) : Stage β → Prop
  | .idle => ¬ acquired
  | .waiting => ¬ acquired ∧ ∃ action next, program = .ask action next
  | .running _ _ => acquired ∧ ∃ action next, program = .ask action next
  | .ended _ => acquired ↔ ∃ action next, program = .ask action next

namespace Crowd

theorem standing_of_put {mover : ι} {stage : Stage (α mover)}
    (stands : (crowd.stage caller).Standing (program caller) (.acquired caller ∈ trace))
    (stage_eq : crowd'.stage = (crowd.put mover stage).stage)
    (others : caller ≠ mover → .acquired caller ∉ deeds)
    (moved : (crowd.stage mover).Standing (program mover) (.acquired mover ∈ trace) →
      stage.Standing (program mover) (.acquired mover ∈ trace ++ deeds)) :
    (crowd'.stage caller).Standing (program caller) (.acquired caller ∈ trace ++ deeds) := by
  rw [stage_eq]
  by_cases same : caller = mover
  · subst same
    rw [put_stage_self]
    exact moved stands
  · have away := others same
    rw [put_stage_of_ne crowd stage same]
    simpa only [List.mem_append, away, or_false] using stands

theorem Step.standing (step : Step medium program crowd deeds crowd')
    (stands : (crowd.stage caller).Standing (program caller) (.acquired caller ∈ trace)) :
    (crowd'.stage caller).Standing (program caller) (.acquired caller ∈ trace ++ deeds) := by
  cases step with
  | issue idle asks =>
      refine standing_of_put stands rfl (by simp) fun stands => ?_
      rw [idle] at stands
      rw [List.append_nil]
      exact ⟨stands, _, _, asks⟩
  | settle idle done =>
      refine standing_of_put stands rfl (by simp) fun stands => ?_
      rw [idle] at stands
      rw [List.append_nil]
      simpa [Stage.Standing, done] using stands
  | acquire waits _ =>
      refine standing_of_put stands rfl (fun ne => by simpa using ne) fun stands => ?_
      rw [waits] at stands
      exact ⟨by simp, stands.2⟩
  | act running step =>
      refine standing_of_put stands rfl (by simp) fun stands => ?_
      rw [running] at stands
      exact ⟨List.mem_append_left _ stands.1, stands.2⟩
  | release running =>
      refine standing_of_put stands rfl (by simp) fun stands => ?_
      rw [running] at stands
      exact iff_of_true (List.mem_append_left _ stands.1) stands.2
  | stir stirred =>
      have away := acquired_notMem_of_stir stirred caller
      simpa only [List.mem_append, away, or_false] using stands

/-- **Where a caller stands after a run.** -/
theorem Run.standing (run : Run medium program (.start first) trace crowd) (caller : ι) :
    (crowd.stage caller).Standing (program caller) (.acquired caller ∈ trace) := by
  induction run with
  | refl => exact List.not_mem_nil
  | step _ step ih => exact step.standing ih

/-- Of a caller that has not got the transport, nothing is seen. -/
theorem Run.own_of_unacquired (run : Run medium program (.start first) trace crowd)
    (away : .acquired caller ∉ trace) : own caller trace = [] := by
  induction run with
  | refl => rfl
  | step run step ih =>
      rw [List.mem_append, not_or] at away
      rw [own_append, ih away.1, List.nil_append]
      cases step with
      | @act mover _ _ _ _ _ _ running _ =>
          rw [own_did]
          refine if_neg fun same => away.1 ?_
          have stands := run.standing caller
          rw [← same, running] at stands
          exact same ▸ stands.1
      | stir stirred => exact own_of_stir stirred
      | _ => rfl

/-! ## Callers at rest -/

/-- If the caller has the transport, it has come to something that the transport is to do, or to its
end. -/
def Rests (crowd : Crowd α σ) (caller : ι) : Prop :=
  ∀ rest busy, crowd.stage caller = .running rest busy → Asks rest ∨ ∃ value, rest = .done value

/-- **What holds of every caller at rest**: what holds before an operation, whenever it waits for the
transport, and at its end. -/
theorem Run.watched_of_rests (Holds : S → Prop) (patient : Patient watch)
    (run : Run medium program (.start first) trace crowd)
    (keeps : (program caller).Keeps (watching watch waits fair) goal s) (before : Holds s)
    (waiting : ∀ s, waits s → Holds s) (ended : ∀ value s, goal value s → Holds s)
    (rests : crowd.Rests caller) : Holds ((own caller trace).foldl watch s) := by
  obtain ⟨kept, -⟩ := run.watched patient keeps
  have stands := run.standing caller
  cases stage : crowd.stage caller with
  | idle =>
      rw [stage] at stands
      rw [run.own_of_unacquired stands]
      exact before
  | waiting =>
      rw [stage] at stands
      rw [run.own_of_unacquired stands.1]
      exact before
  | running rest busy =>
      rw [stage] at kept
      obtain ⟨action, next, rfl, refusable⟩ | ⟨value, rfl⟩ := rests rest busy stage
      · exact waiting _ (watching_of_refusal refusable kept).1
      · exact ended _ _ kept
  | ended value =>
      rw [stage] at kept
      exact ended _ _ kept

end Crowd

end Crowds

end ControlLink.Session
