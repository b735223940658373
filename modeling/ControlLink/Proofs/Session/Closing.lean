/-
# ControlLink.Proofs.Session.Closing — closing is final

A channel is closed by its owner or by the caller whose receive has timed out (`Step.closes`), and
from then on nothing opens it again. `Sealed` is what callers can still do: they get the transport
one after the other, give notices, and have every send and receive refused; the transport is only
left alone. A single step keeps all of this (`Step.sealed`), and so does a run (`Sealed.of_run`).

Nobody is left waiting: whatever a caller is suspended in can be refused at once
(`Crowd.refuse`), and every caller can come to its end (`Crowd.returns`). `closing_final` puts this
together for the operations of a session and says what they return.
-/
import ControlLink.Proofs.Session.Crowd
import ControlLink.Proofs.Session.Debt
import Mathlib.Logic.Relation

namespace ControlLink.Session

set_option autoImplicit false

open Wire

/-! ## What a closed channel leaves to its callers -/

/-- A caller gets its turn or gives a notice. -/
inductive Deed.Quiet {ι : Type} : Deed ι → Prop where
  | acquired {caller : ι} : Quiet (.acquired caller)
  | noted {caller : ι} {notice : Notice} : Quiet (.did caller (.noted notice))

/-- A send or a receive that is refused because the channel is closed. -/
inductive Contact.Denied : Contact → Prop where
  | sent {frame : Bytes} : Denied (.sent frame (.error .closed))
  | received : Denied (.received (.error .closed))

/-- What is left of the operation of a caller. -/
def Stage.rest {α : Type} (program : Procedure α) : Stage α → Procedure α
  | .idle => program
  | .waiting => program
  | .running rest _ => rest
  | .ended value => .done value

variable {ι σ : Type} {α : ι → Type}

/-- No action is taken up or answered by the transport between these moments. -/
def Untouched (medium : Medium ι σ) : σ → σ → Prop :=
  Relation.ReflTransGen fun transport transport' => medium.drifts transport transport' ∨
    ∃ caller action, medium.drops caller action transport transport'

theorem Untouched.refl {medium : Medium ι σ} (transport : σ) :
    Untouched medium transport transport := Relation.ReflTransGen.refl

/-- What may come to pass on a channel that is closed. -/
structure Sealed (medium : Medium ι σ) (program : (caller : ι) → Procedure (α caller))
    (crowd : Crowd α σ) (later : List (Deed ι)) (crowd' : Crowd α σ) : Prop where
  closed : crowd'.shared.closed = true
  quiet : ∀ deed ∈ later, deed.Quiet
  untouched : Untouched medium crowd.shared.transport crowd'.shared.transport
  refused : ∀ caller, ∃ contacts,
    Trail ((crowd.stage caller).rest (program caller)) contacts
      ((crowd'.stage caller).rest (program caller)) ∧ ∀ contact ∈ contacts, contact.Refused

section Steps

variable {medium : Medium ι σ} {program : (caller : ι) → Procedure (α caller)}
  {crowd crowd' crowd'' : Crowd α σ} {deeds later more : List (Deed ι)} {caller : ι}

/-- What a caller does in a step, and what it is answered. -/
theorem Turn.Step.trail {β : Type} {turn turn' : Turn β σ} {events : List Event}
    (step : Turn.Step medium caller turn events turn') :
    ∃ contacts, Trail turn.rest contacts turn'.rest ∧
      (turn.shared.closed = true → ∀ contact ∈ contacts, contact.Refused) := by
  cases step with
  | note => exact ⟨_, Trail.single _, fun _ => refused_of_note _⟩
  | @close next _ _ =>
      have closing : Trail (.ask .close next) (Contact.ofAnswer .close () ++ []) (next ()) :=
        .step () .refl
      exact ⟨[.closed], closing, fun _ => List.forall_mem_singleton.2 .closed⟩
  | refuse refused => exact ⟨_, Trail.single _, fun _ => refused_of_refusal refused⟩
  | take _ _ => exact ⟨[], .refl, nofun⟩
  | answer _ => exact ⟨_, Trail.single _, nofun⟩
  | drop refused _ => exact ⟨_, Trail.single _, fun _ => refused_of_refusal refused⟩

/-- What a caller can do on a closed channel. -/
theorem Turn.Step.sealed {β : Type} {turn turn' : Turn β σ} {events : List Event}
    (step : Turn.Step medium caller turn events turn') (closed : turn.shared.closed = true) :
    turn'.shared.closed = true ∧ (∀ event ∈ events, ∃ notice, event = .noted notice) ∧
      Untouched medium turn.shared.transport turn'.shared.transport := by
  cases step with
  | note => exact ⟨closed, List.forall_mem_singleton.2 ⟨_, rfl⟩, Untouched.refl _⟩
  | close =>
      cases closed
      exact ⟨rfl, List.forall_mem_nil _, Untouched.refl _⟩
  | refuse _ => exact ⟨rfl, List.forall_mem_nil _, Untouched.refl _⟩
  | take _ _ => cases closed
  | answer _ => cases closed
  | drop _ drops =>
      exact ⟨rfl, List.forall_mem_nil _, Relation.ReflTransGen.single (.inr ⟨_, _, drops⟩)⟩

/-- The procedure is at an action that the transport can take up, and a closed channel refuses. -/
def Asks {β : Type} (rest : Procedure β) : Prop :=
  ∃ action next, rest = .ask action next ∧ (refusal action).isSome

/-- Only what can be refused is ever taken up. -/
theorem Turn.Step.asks {β : Type} {turn turn' : Turn β σ} {events : List Event}
    (step : Turn.Step medium caller turn events turn') (busy : turn'.busy = true) :
    Asks turn'.rest := by
  cases step with
  | take refused _ => exact ⟨_, _, rfl, refused⟩
  | _ => cases busy

/-- What can happen on a closed channel without its callers. -/
theorem Shared.Stir.sealed {shared shared' : Shared σ}
    (stirred : Shared.Stir medium shared deeds shared') (closed : shared.closed = true) :
    deeds = [] ∧ shared'.closed = true ∧ Untouched medium shared.transport shared'.transport := by
  cases stirred with
  | drift drifts => exact ⟨rfl, closed, Relation.ReflTransGen.single (.inl drifts)⟩
  | close => cases closed

theorem Sealed.trans (first : Sealed medium program crowd later crowd')
    (onward : Sealed medium program crowd' more crowd'') :
    Sealed medium program crowd (later ++ more) crowd'' where
  closed := onward.closed
  quiet := List.forall_mem_append.2 ⟨first.quiet, onward.quiet⟩
  untouched := Relation.ReflTransGen.trans first.untouched onward.untouched
  refused caller := by
    obtain ⟨contacts, trail, refused⟩ := first.refused caller
    obtain ⟨others, trail', refused'⟩ := onward.refused caller
    exact ⟨_, trail.trans trail', List.forall_mem_append.2 ⟨refused, refused'⟩⟩

variable [DecidableEq ι]

namespace Crowd

/-- One caller moves on, the others stay where they are. -/
theorem trail_of_put {stage : Stage (α caller)}
    (stage_eq : crowd'.stage = (crowd.put caller stage).stage)
    (moved : ∃ contacts, Trail ((crowd.stage caller).rest (program caller)) contacts
      (stage.rest (program caller)) ∧
        (crowd.shared.closed = true → ∀ contact ∈ contacts, contact.Refused)) (other : ι) :
    ∃ contacts, Trail ((crowd.stage other).rest (program other)) contacts
      ((crowd'.stage other).rest (program other)) ∧
        (crowd.shared.closed = true → ∀ contact ∈ contacts, contact.Refused) := by
  rw [stage_eq]
  by_cases same : other = caller
  · subst same
    rwa [put_stage_self]
  · rw [put_stage_of_ne crowd stage same]
    exact ⟨[], .refl, nofun⟩

theorem Step.trail (step : Step medium program crowd deeds crowd') (other : ι) :
    ∃ contacts, Trail ((crowd.stage other).rest (program other)) contacts
      ((crowd'.stage other).rest (program other)) ∧
        (crowd.shared.closed = true → ∀ contact ∈ contacts, contact.Refused) := by
  cases step with
  | issue idle _ =>
      refine trail_of_put rfl ⟨[], ?_, nofun⟩ other
      rw [idle]
      exact .refl
  | settle idle done =>
      refine trail_of_put rfl ⟨[], ?_, nofun⟩ other
      rw [idle]
      show Trail (program _) [] (.done _)
      rw [done]
      exact .refl
  | acquire waits _ =>
      refine trail_of_put rfl ⟨[], ?_, nofun⟩ other
      rw [waits]
      exact .refl
  | act running step =>
      refine trail_of_put rfl ?_ other
      rw [running]
      exact step.trail
  | release running =>
      refine trail_of_put rfl ⟨[], ?_, nofun⟩ other
      rw [running]
      exact .refl
  | stir _ => exact ⟨[], .refl, nofun⟩

/-- **What a step on a closed channel can do.** -/
theorem Step.sealed (step : Step medium program crowd deeds crowd')
    (closed : crowd.shared.closed = true) : Sealed medium program crowd deeds crowd' := by
  have refused (caller : ι) : ∃ contacts,
      Trail ((crowd.stage caller).rest (program caller)) contacts
        ((crowd'.stage caller).rest (program caller)) ∧ ∀ contact ∈ contacts, contact.Refused := by
    obtain ⟨contacts, trail, refused⟩ := step.trail caller
    exact ⟨contacts, trail, refused closed⟩
  cases step with
  | issue _ _ => exact ⟨closed, List.forall_mem_nil _, Untouched.refl _, refused⟩
  | settle _ _ => exact ⟨closed, List.forall_mem_nil _, Untouched.refl _, refused⟩
  | acquire _ _ =>
      exact ⟨closed, List.forall_mem_singleton.2 .acquired, Untouched.refl _, refused⟩
  | act _ step =>
      obtain ⟨closed', notices, untouched⟩ := step.sealed closed
      refine ⟨closed', ?_, untouched, refused⟩
      intro deed member
      obtain ⟨event, inside, rfl⟩ := List.mem_map.1 member
      obtain ⟨notice, rfl⟩ := notices event inside
      exact .noted
  | release _ => exact ⟨closed, List.forall_mem_nil _, Untouched.refl _, refused⟩
  | stir stirred =>
      obtain ⟨rfl, closed', untouched⟩ := stirred.sealed closed
      exact ⟨closed', List.forall_mem_nil _, untouched, refused⟩

end Crowd

/-- **What any run on a closed channel can do.** -/
theorem Sealed.of_run (run : Crowd.Run medium program crowd later crowd')
    (closed : crowd.shared.closed = true) : Sealed medium program crowd later crowd' := by
  induction run with
  | refl =>
      exact ⟨closed, List.forall_mem_nil _, Untouched.refl _, fun caller => ⟨[], .refl, nofun⟩⟩
  | step _ step ih => exact ih.trans (step.sealed ih.closed)

namespace Crowd

/-- What a caller has had to do with the channel in a run. -/
theorem Run.trail (run : Run medium program crowd later crowd') (caller : ι) :
    ∃ contacts, Trail ((crowd.stage caller).rest (program caller)) contacts
      ((crowd'.stage caller).rest (program caller)) := by
  induction run with
  | refl => exact ⟨[], .refl⟩
  | step _ step ih =>
      obtain ⟨contacts, trail⟩ := ih
      obtain ⟨more, onward, -⟩ := step.trail caller
      exact ⟨_, trail.trans onward⟩

/-- A step that closes an open channel is one of its owner, or of a caller that asks for it. -/
theorem Step.closes (step : Step medium program crowd deeds crowd')
    (isOpen : crowd.shared.closed = false) (closed : crowd'.shared.closed = true) :
    (deeds = [.closed] ∧ crowd'.stage = crowd.stage) ∨
      ∃ caller next, crowd.stage caller = .running (.ask .close next) false ∧
        deeds = [.did caller .closed] ∧ crowd'.stage caller = .running (next ()) false := by
  have unchanged {crowd' : Crowd α σ} (same : crowd'.shared = crowd.shared)
      (closed : crowd'.shared.closed = true) : False := by
    rw [same, isOpen] at closed
    cases closed
  cases step with
  | issue _ _ => exact (unchanged rfl closed).elim
  | settle _ _ => exact (unchanged rfl closed).elim
  | acquire _ _ => exact (unchanged rfl closed).elim
  | release _ => exact (unchanged rfl closed).elim
  | @act caller _ _ _ _ _ _ running step =>
      cases shared_eq : crowd.shared with
      | mk transport flag =>
          rw [shared_eq] at step isOpen
          cases isOpen
          cases step with
          | note => cases closed
          | close => exact .inr ⟨caller, _, running, rfl, put_stage_self ..⟩
          | take _ _ => cases closed
          | answer _ => cases closed
  | stir stirred =>
      cases shared_eq : crowd.shared with
      | mk transport flag =>
          rw [shared_eq] at stirred isOpen
          cases isOpen
          cases stirred with
          | drift _ => cases closed
          | close => exact .inl ⟨rfl, rfl⟩

/-! ## Nobody is left waiting -/

theorem Run.trans (run : Run medium program crowd later crowd')
    (onward : Run medium program crowd' more crowd'') :
    Run medium program crowd (later ++ more) crowd'' := by
  induction onward with
  | refl => rwa [List.append_nil]
  | step _ step ih =>
      rw [← List.append_assoc]
      exact ih.step step

/-- A caller is suspended only in actions that can be refused. -/
def Refusable (crowd : Crowd α σ) : Prop :=
  ∀ caller rest, crowd.stage caller = .running rest true → Asks rest

theorem Refusable.put (refusable : crowd.Refusable) {stage : Stage (α caller)}
    (stage_eq : crowd'.stage = (crowd.put caller stage).stage)
    (moved : ∀ rest, stage = .running rest true → Asks rest) : crowd'.Refusable := by
  intro other rest running
  rw [stage_eq] at running
  by_cases same : other = caller
  · subst same
    rw [put_stage_self] at running
    exact moved rest running
  · rw [put_stage_of_ne crowd stage same] at running
    exact refusable other rest running

theorem Refusable.step (refusable : crowd.Refusable)
    (step : Step medium program crowd deeds crowd') : crowd'.Refusable := by
  cases step with
  | issue _ _ => exact refusable.put rfl nofun
  | settle _ _ => exact refusable.put rfl nofun
  | acquire _ _ => exact refusable.put rfl nofun
  | act _ step =>
      refine refusable.put rfl ?_
      rintro _ ⟨⟩
      exact step.asks rfl
  | release _ => exact refusable.put rfl nofun
  | stir _ => exact refusable

theorem Refusable.of_run {first : Shared σ} (run : Run medium program (.start first) later crowd) :
    crowd.Refusable := by
  induction run with
  | refl => exact nofun
  | step _ step ih => exact ih.step step

variable (yields : ∀ caller action transport, ∃ transport',
  medium.drops caller action transport transport')

include yields

/-- On a closed channel whatever a caller is about to do, or suspended in, can be refused. -/
theorem refuse {action : Action} {next : Answer action → Procedure (α caller)} {busy : Bool}
    {answer : Answer action} (closed : crowd.shared.closed = true)
    (running : crowd.stage caller = .running (.ask action next) busy)
    (refused : refusal action = some answer) :
    ∃ transport, Step medium program crowd []
      { crowd.put caller (.running (next answer) false) with shared := ⟨transport, true⟩ } := by
  obtain ⟨stage, lock, transport, flag⟩ := crowd
  cases closed
  cases busy with
  | false => exact ⟨transport, .act running (.refuse refused)⟩
  | true =>
      obtain ⟨transport', drops⟩ := yields caller action transport
      exact ⟨transport', .act running (.drop refused drops)⟩

/-- On a closed channel a caller that has the transport can come to its end and leave it. -/
theorem finish {rest : Procedure (α caller)} {busy : Bool} (closed : crowd.shared.closed = true)
    (running : crowd.stage caller = .running rest busy)
    (refusable : busy = true → Asks rest) :
    ∃ later value transport, Run medium program crowd later
      { crowd.put caller (.ended value) with lock := none, shared := ⟨transport, true⟩ } := by
  induction rest generalizing crowd busy with
  | done value =>
      obtain ⟨stage, lock, transport, flag⟩ := crowd
      cases closed
      cases busy with
      | false => exact ⟨_, value, transport, Run.refl.step (.release running)⟩
      | true =>
          obtain ⟨_, _, same, -⟩ := refusable rfl
          cases same
  | ask action next ih =>
      have onward {answer : Answer action} {deeds : List (Deed ι)} {transport : σ}
          (step : Step medium program crowd deeds
            { crowd.put caller (.running (next answer) false) with shared := ⟨transport, true⟩ }) :
          ∃ later value transport, Run medium program crowd later
            { crowd.put caller (.ended value) with
              lock := none, shared := ⟨transport, true⟩ } := by
        have moved := put_stage_self crowd caller (.running (next answer) false)
        let between : Crowd α σ :=
          { crowd.put caller (.running (next answer) false) with shared := ⟨transport, true⟩ }
        have isClosed : between.shared.closed = true := rfl
        obtain ⟨later, value, transport', run⟩ := ih answer isClosed moved nofun
        simp only [between, put, Function.update_idem] at run step ⊢
        exact ⟨_, value, transport', (Run.refl.step step).trans run⟩
      cases refused : refusal action with
      | some answer =>
          obtain ⟨transport, step⟩ := refuse yields closed running refused
          exact onward step
      | none =>
          cases busy with
          | true =>
              obtain ⟨_, _, same, needs⟩ := refusable rfl
              cases same
              rw [refused] at needs
              cases needs
          | false =>
              obtain ⟨stage, lock, transport, flag⟩ := crowd
              cases closed
              cases action with
              | send frame => cases refused
              | receive => cases refused
              | close => exact onward (.act running .close)
              | note notice => exact onward (.act running .note)

/-- On a closed channel a caller that waits for the transport can get it and come to its end. -/
theorem returns_of_waiting {first : Shared σ} (run : Run medium program (.start first) later crowd)
    (closed : crowd.shared.closed = true) (waiting : crowd.stage caller = .waiting) :
    ∃ more crowd' value, Run medium program crowd more crowd' ∧
      crowd'.stage caller = .ended value := by
  have served {crowd : Crowd α σ} (closed : crowd.shared.closed = true)
      (waiting : crowd.stage caller = .waiting) (free : crowd.lock = none) :
      ∃ more crowd' value, Run medium program crowd more crowd' ∧
        crowd'.stage caller = .ended value := by
    let holding : Crowd α σ :=
      { crowd.put caller (.running (program caller) false) with lock := some caller }
    have isClosed : holding.shared.closed = true := closed
    have running : holding.stage caller = .running (program caller) false := put_stage_self ..
    obtain ⟨more, value, transport, ending⟩ := finish yields isClosed running nofun
    exact ⟨_, _, value, (Run.refl.step (.acquire waiting free)).trans ending, put_stage_self ..⟩
  rcases Option.eq_none_or_eq_some crowd.lock with free | ⟨holder, held⟩
  · exact served closed waiting free
  · -- The holder comes to its end first, and the caller still waits then.
    obtain ⟨_, _, _, _, rfl, serial⟩ := Serial.of_run run
    obtain ⟨rest, busy, _, running, -, -⟩ := serial.running_of_lock held
    have refusable (suspended : busy = true) : Asks rest :=
      Refusable.of_run run holder rest (suspended ▸ running)
    obtain ⟨first, value, transport, ending⟩ := finish yields closed running refusable
    have other : caller ≠ holder := by
      rintro rfl
      rw [waiting] at running
      cases running
    let freed : Crowd α σ :=
      { crowd.put holder (.ended value) with lock := none, shared := ⟨transport, true⟩ }
    have isClosed : freed.shared.closed = true := rfl
    have waiting' : freed.stage caller = .waiting :=
      (put_stage_of_ne crowd _ other).trans waiting
    obtain ⟨more, crowd', value', onward, ended⟩ := served isClosed waiting' rfl
    exact ⟨_, crowd', value', ending.trans onward, ended⟩

/-- **On a closed channel every caller can come to its end.** -/
theorem returns {first : Shared σ} (run : Run medium program (.start first) later crowd)
    (closed : crowd.shared.closed = true) (caller : ι) :
    ∃ more crowd' value, Run medium program crowd more crowd' ∧
      crowd'.stage caller = .ended value := by
  cases stage_eq : crowd.stage caller with
  | idle =>
      cases asks : program caller with
      | done value =>
          exact ⟨_, _, value, Run.refl.step (.settle stage_eq asks), put_stage_self ..⟩
      | ask action next =>
          have issued : Step medium program crowd [] (crowd.put caller .waiting) :=
            .issue stage_eq asks
          obtain ⟨more, crowd', value, onward, ended⟩ :=
            returns_of_waiting yields (run.step issued) closed (put_stage_self ..)
          exact ⟨_, crowd', value, (Run.refl.step issued).trans onward, ended⟩
  | waiting => exact returns_of_waiting yields run closed stage_eq
  | running rest busy =>
      have refusable (suspended : busy = true) : Asks rest :=
        Refusable.of_run run caller rest (suspended ▸ stage_eq)
      obtain ⟨more, value, transport, ending⟩ := finish yields closed stage_eq refusable
      exact ⟨_, _, value, ending, put_stage_self ..⟩
  | ended value => exact ⟨[], crowd, value, .refl, stage_eq⟩

end Crowd

end Steps

/-! ## What operations return -/

section Results

variable {β : Type} {unfit : Option RequestError} {result : Except Failure β}
  {contacts earlier : List Contact}

theorem failure_of_traded_refused {frame : Bytes} {frames : List Bytes}
    {answer : Except Failure Bytes} (traded : Traded (frame :: frames) contacts answer)
    (refused : ∀ contact ∈ contacts, contact.Refused) :
    answer = .error (.connectivity .closed) := by
  cases traded with
  | unsent =>
      cases refused _ List.mem_cons_self
      rfl
  | sent _ => cases refused _ List.mem_cons_self

/-- An operation that is refused everything fails its own check, or for the closed channel. -/
theorem result_of_refused (conduct : Conduct unfit contacts result)
    (refused : ∀ contact ∈ contacts, contact.Refused) :
    result = .error (unfit.elim (.connectivity .closed) .validation) := by
  have unanswered {frame sent : Bytes} {frames : List Bytes} {before more : List Contact}
      (refused : ∀ contact ∈ before ++ more, contact.Refused) :
      ¬ Traded (sent :: frames) before (.ok frame) := by
    intro traded
    cases failure_of_traded_refused traded (List.forall_mem_append.1 refused).1
  cases conduct with
  | refused => rfl
  | traded judge _ _ traded =>
      rw [failure_of_traded_refused traded refused]
      rfl
  | fetched judge fetched =>
      cases fetched with
      | lost traded =>
          cases failure_of_traded_refused traded refused
          rfl
      | refused traded _ => cases failure_of_traded_refused traded refused
      | broken traded _ _ => exact absurd traded (unanswered refused)
      | whole traded _ _ => exact absurd traded (unanswered refused)
  | updated judge updated =>
      cases updated with
      | lost traded =>
          cases failure_of_traded_refused traded refused
          rfl
      | refused traded _ => cases failure_of_traded_refused traded refused
      | complete traded _ _ => exact absurd traded (unanswered refused)
      | broken traded _ _ => exact absurd traded (unanswered refused)
      | aborted traded _ _ _ _ =>
          rw [List.append_assoc] at refused
          exact absurd traded (unanswered refused)

theorem Contact.Denied.unsound {contact : Contact} (denied : contact.Denied) :
    ¬ contact.Sound := by
  intro sound
  cases denied with
  | sent => cases sound
  | received => cases sound

theorem Halts.closed_of_denied {exchange : Exchange} {error : LinkError} {contact : Contact}
    (halts : Halts exchange contacts error) (inside : contact ∈ contacts)
    (denied : contact.Denied) : error = .closed := by
  cases halts with
  | unsent passes _ =>
      cases List.mem_singleton.1 (mem_of_unsound passes.sound denied.unsound inside)
      cases denied
      rfl
  | silent passes _ =>
      have last := mem_of_unsound passes.sound denied.unsound inside
      cases error with
      | closed => rfl
      | timedOut =>
          rcases List.mem_cons.1 last with rfl | closing
          · cases denied
          · cases List.mem_singleton.1 closing
            cases denied
      | _ =>
          cases List.mem_singleton.1 last
          cases denied

/-- An operation that is denied a send or a receive fails for the closed channel, unless it is only
the abort of an update that has failed before. -/
theorem failure_of_denied (conduct : Conduct unfit contacts result)
    (denied : ∃ contact ∈ contacts, contact.Denied) :
    ∃ failure, result = .error failure ∧
      (failure = .connectivity .closed ∨ Aborting contacts failure) := by
  obtain ⟨contact, inside, denied⟩ := denied
  obtain ⟨error, failure, same, halts, reason⟩ := halts_of_unsound conduct denied.unsound inside
  cases halts.closed_of_denied inside denied
  exact ⟨failure, same, reason⟩

/-- An operation that closes the channel does so as its last contact, after a receive that has timed
out. -/
theorem failure_of_closing (conduct : Conduct unfit (earlier ++ .closed :: contacts) result) :
    contacts = [] ∧ (∃ before, earlier = before ++ [.received (.error .timedOut)]) ∧
      ∃ failure, result = .error failure ∧ (failure = .connectivity .timedOut ∨
        Aborting (earlier ++ [.closed]) failure) := by
  have closing : Contact.closed ∈ earlier ++ .closed :: contacts := by simp
  obtain ⟨error, failure, same, halts, reason⟩ :=
    halts_of_unsound conduct not_sound_closed closing
  obtain ⟨rfl, before, split, sound⟩ := halts.timedOut_of_closed closing
  have front : Contact.closed ∉ before ++ [.received (.error .timedOut)] := fun member => by
    cases List.mem_singleton.1 (mem_of_unsound sound not_sound_closed member)
  have last : earlier ++ .closed :: contacts =
      before ++ [.received (.error .timedOut)] ++ [.closed] := by
    rw [split, List.append_assoc]
    rfl
  obtain ⟨rfl, rfl⟩ : earlier = before ++ [.received (.error .timedOut)] ∧ contacts = [] := by
    rcases List.append_eq_append_iff.1 last with ⟨middle, whole, rest⟩ | ⟨middle, whole, rest⟩
    · cases middle with
      | nil => exact ⟨by rw [whole, List.append_nil], (List.cons.inj rest).2⟩
      | cons head middle =>
          cases (List.cons.inj rest).1
          exact absurd (whole ▸ List.mem_append_right _ List.mem_cons_self) front
    · cases middle with
      | nil => exact ⟨by rw [whole, List.append_nil], (List.cons.inj rest).2.symm⟩
      | cons head middle => cases middle <;> cases (List.cons.inj rest).2
  exact ⟨rfl, ⟨before, rfl⟩, failure, same, reason⟩

end Results

/-! ## Closing is final -/

/-- What has become of the callers of a session since its channel was closed. -/
structure Final [DecidableEq ι] (medium : Medium ι σ) (device : String) (service : ι → Service)
    (crowd : Crowd (fun caller => Except Failure (service caller).Value) σ) (later : List (Deed ι))
    (crowd' : Crowd (fun caller => Except Failure (service caller).Value) σ) : Prop where
  sealed : Sealed medium (fun caller => (service caller).procedure device) crowd later crowd'
  /-- An operation that had not got the transport by then fails without a word to it. -/
  late : ∀ caller, crowd.stage caller = .idle ∨ crowd.stage caller = .waiting →
    ∀ value, crowd'.stage caller = .ended value →
      value = .error ((service caller).unfit?.elim (.connectivity .closed) .validation)
  /-- All that an operation asks since then is refused, and if that is a send or a receive, it fails
  for it, unless it is only the abort of an update that has failed before. -/
  caught : ∀ caller, ∃ earlier contacts,
    Trail ((service caller).procedure device) earlier
      ((crowd.stage caller).rest ((service caller).procedure device)) ∧
    Trail ((crowd.stage caller).rest ((service caller).procedure device)) contacts
      ((crowd'.stage caller).rest ((service caller).procedure device)) ∧
    (∀ contact ∈ contacts, contact.Refused) ∧
    ∀ value, crowd'.stage caller = .ended value → (∃ contact ∈ contacts, contact.Denied) →
      ∃ failure, value = .error failure ∧
        (failure = .connectivity .closed ∨ Aborting (earlier ++ contacts) failure)
  /-- Whatever an operation asks of the transport, or is suspended in, can be refused at once. -/
  refusable : ∀ caller action (next : Answer action → Procedure _) busy answer,
    crowd'.stage caller = .running (.ask action next) busy → refusal action = some answer →
    ∃ transport, Crowd.Step medium (fun caller => (service caller).procedure device) crowd' []
      { crowd'.put caller (.running (next answer) false) with shared := ⟨transport, true⟩ }
  /-- Every operation can come to its end. -/
  returns : ∀ caller, ∃ more crowd'' value,
    Crowd.Run medium (fun caller => (service caller).procedure device) crowd' more crowd'' ∧
      crowd''.stage caller = .ended value

/-- **Closing is final.** Take any callers, any transport that lets go of an action, and any
interleaving. The channel is closed by its owner, or by one caller whose receive has timed out and
who is told so; and from that moment on no more comes to pass than `Final` says. -/
theorem closing_final [DecidableEq ι] {medium : Medium ι σ}
    (yields : ∀ caller action transport, ∃ transport',
      medium.drops caller action transport transport')
    (device : String) (service : ι → Service) {first : Shared σ}
    {trace deeds later : List (Deed ι)}
    {before crowd crowd' : Crowd (fun caller => Except Failure (service caller).Value) σ}
    (run : Crowd.Run medium (fun caller => (service caller).procedure device) (.start first)
      trace before)
    (isOpen : before.shared.closed = false)
    (closing : Crowd.Step medium (fun caller => (service caller).procedure device) before deeds
      crowd)
    (closed : crowd.shared.closed = true)
    (onward : Crowd.Run medium (fun caller => (service caller).procedure device) crowd later
      crowd') :
    ((deeds = [.closed] ∧ crowd.stage = before.stage) ∨
      ∃ closer earlier next, deeds = [.did closer .closed] ∧
        before.stage closer = .running (.ask .close next) false ∧
        Trail ((service closer).procedure device) (earlier ++ [.received (.error .timedOut)])
          (.ask .close next) ∧
        ∀ value, crowd'.stage closer = .ended value → ∃ failure, value = .error failure ∧
          (failure = .connectivity .timedOut ∨ Aborting (earlier ++ silence .timedOut) failure)) ∧
    Final medium device service crowd later crowd' := by
  have sealed := Sealed.of_run onward closed
  have reached := (run.step closing).trans onward
  refine ⟨?_, sealed, ?_, ?_, ?_, Crowd.returns yields reached sealed.closed⟩
  · rcases closing.closes isOpen closed with owner | ⟨closer, next, running, rfl, moved⟩
    · exact .inl owner
    · obtain ⟨earlier, trail⟩ := run.trail closer
      obtain ⟨contacts, onward, -⟩ := sealed.refused closer
      rw [running] at trail
      rw [moved] at onward
      change Trail (next ()) contacts _ at onward
      -- However the caller goes on, its contacts are those of an operation.
      have conduct {more : List Contact} {value : Except Failure (service closer).Value}
          (ends : Ends ((crowd'.stage closer).rest ((service closer).procedure device)) more
            value) :=
        procedure_conduct device (service closer)
          (trail.trans (.step () (onward.trans ends)))
      obtain ⟨_, _, ends, -⟩ :=
        exists_ends_refused ((crowd'.stage closer).rest ((service closer).procedure device))
      obtain ⟨-, ⟨before, rfl⟩, -⟩ := failure_of_closing (conduct ends)
      refine .inr ⟨closer, before, next, rfl, running, trail, fun value ended => ?_⟩
      rw [ended] at conduct
      obtain ⟨-, -, failure, same, reason⟩ := failure_of_closing (conduct .refl)
      rw [List.append_assoc] at reason
      exact ⟨failure, same, reason⟩
  · intro caller waits value ended
    obtain ⟨contacts, trail, refused⟩ := sealed.refused caller
    have begins : (crowd.stage caller).rest ((service caller).procedure device) =
        (service caller).procedure device := by
      rcases waits with idle | waiting
      · rw [idle]
        rfl
      · rw [waiting]
        rfl
    rw [begins, ended] at trail
    exact result_of_refused (procedure_conduct device (service caller) trail) refused
  · intro caller
    obtain ⟨earlier, begun⟩ := (run.step closing).trail caller
    obtain ⟨contacts, trail, refused⟩ := sealed.refused caller
    refine ⟨earlier, contacts, begun, trail, refused, fun value ended denied => ?_⟩
    rw [ended] at trail
    obtain ⟨contact, inside, denied⟩ := denied
    exact failure_of_denied (procedure_conduct device (service caller) (begun.trans trail))
      ⟨contact, List.mem_append_right _ inside, denied⟩
  · intro caller action next busy answer running refused
    exact Crowd.refuse yields sealed.closed running refused

/-- The owner may close the channel while one caller is suspended in its send, and another that
comes later is refused. -/
theorem closing_final_suspended :
    ∃ (trace later : List (Deed Bool))
      (before crowd crowd' : Crowd (fun _ => Except Failure Unit) (Underway Script)),
      Crowd.Run (Medium.ofTransport Bool Script none) (fun _ => Service.reboot.procedure "device")
        (.start obliging.shared) trace before ∧
      (∃ next, before.stage true = .running (.ask (.send Command.reboot.encode) next) true) ∧
      Crowd.Step (Medium.ofTransport Bool Script none)
        (fun _ => Service.reboot.procedure "device") before [.closed] crowd ∧
      Crowd.Run (Medium.ofTransport Bool Script none) (fun _ => Service.reboot.procedure "device")
        crowd later crowd' ∧
      (∀ deed ∈ later, deed.Quiet) ∧
      crowd'.stage false = .ended (.error (.connectivity .closed)) := by
  have yields (caller : Bool) (action : Action) (transport : Underway Script) : ∃ transport',
      (Medium.ofTransport Bool Script none).drops caller action transport transport' := ⟨_, rfl⟩
  have issued : Crowd.Run (Medium.ofTransport Bool Script none)
      (fun _ => Service.reboot.procedure "device") (.start obliging.shared) _
      ((Crowd.start obliging.shared).put true .waiting) := Crowd.Run.refl.step (.issue rfl rfl)
  have acquired := issued.step (.acquire (Crowd.put_stage_self ..) rfl)
  have taken := acquired.step (.act (Crowd.put_stage_self ..) (.take rfl rfl))
  obtain ⟨-, final⟩ :=
    closing_final yields "device" (fun _ => .reboot) taken rfl (.stir .close) rfl .refl
  obtain ⟨later, crowd', value, onward, ended⟩ := final.returns false
  obtain ⟨-, final'⟩ :=
    closing_final yields "device" (fun _ => .reboot) taken rfl (.stir .close) rfl onward
  have refused := final'.late false (.inl rfl) value ended
  exact ⟨_, later, _, _, crowd', taken, ⟨_, rfl⟩, .stir .close, onward,
    final'.sealed.quiet, refused ▸ ended⟩

end ControlLink.Session
