/-
# ControlLink.Proofs.Session.Attribution — whose reply a caller receives

Frames carry no request numbers, so a caller that took the reply to another's command would never
know. `attribution` says that none does, whatever the callers, the line, its device and the owner of
the channel do: every frame that a caller receives answers a frame of its own, every frame comes to
the device when the device expects it, and between operations nothing is on the way or owed, unless
the channel is closed or the line has failed.

An operation is `orderly`, so as long as it is under way its view of the exchange agrees with the
line (`InTurn`); a step of the turn or a movement on the line keeps this or closes the channel
(`Kept.step`, `Kept.stir`). A turn ends between exchanges, and the next one begins where it ended.
-/
import ControlLink.Proofs.Session.Crowd
import ControlLink.Proofs.Session.Line

namespace ControlLink.Session

set_option autoImplicit false

open Wire

variable {ι α : Type}

namespace Line

/-- What is still to come to the device, whatever else happens. -/
def ahead (line : Line ι) : List Bytes :=
  line.outbound.map Parcel.frame ++
    if line.failed then [] else (line.leaving.map Parcel.frame).toList

/-- What holds of a line at any moment. -/
structure Sound (line : Line ι) : Prop where
  attributed : ∀ receipt ∈ line.handed, receipt.reply.asker = some receipt.receiver
  expected : ∀ arrival ∈ line.arrived, arrival.exchange.Expects arrival.frame
  ahead : ∃ last, line.exchange.Takes line.ahead last

/-- Nothing is on the way and nothing is owed. -/
structure Idle (line : Line ι) : Prop where
  resting : line.exchange = .resting
  outbound : line.outbound = []
  inbound : line.inbound = []
  leaving : line.leaving = none

variable {line line' : Line ι}

namespace Sound

/-- A line that accepts no more of what its callers send. -/
theorem cut (sound : line.Sound) {leaving : Option (Parcel ι)} {inbound : List (Reply ι)}
    {failed : Bool} (less : failed = true ∨ leaving = none) :
    Line.Sound { line with leaving, inbound, failed } where
  attributed := sound.attributed
  expected := sound.expected
  ahead := by
    obtain ⟨last, takes⟩ := sound.ahead
    obtain ⟨between, first⟩ := Exchange.Takes.take_left takes
    refine ⟨between, ?_⟩
    rcases less with rfl | rfl
    · simpa [Line.ahead] using first
    · simpa [Line.ahead] using first

theorem drift (sound : line.Sound) (drifts : line.Drifts line') : line'.Sound := by
  obtain ⟨attributed, expected, last, takes⟩ := sound
  cases drifts with
  | depart works leaving =>
      refine ⟨attributed, expected, last, ?_⟩
      simpa [Line.ahead, works, leaving] using takes
  | @arrive parcel parcels next outbound follows =>
      have split : line.ahead =
          parcel.frame :: Line.ahead { line with outbound := parcels } := by
        simp [Line.ahead, outbound]
      rw [split] at takes
      cases takes with
      | cons first taken rest =>
          cases follows _ taken
          refine ⟨attributed, fun arrival member => ?_, last, rest⟩
          rcases List.mem_append.1 member with before | now
          · exact expected arrival before
          · rw [List.mem_singleton.1 now]
            exact first
  | @emit next frame fits given =>
      refine ⟨attributed, expected, next, ?_⟩
      have none : line.ahead = [] := by
        cases ahead : line.ahead with
        | nil => rfl
        | cons frame frames =>
            rw [ahead] at takes
            cases takes with
            | cons first _ _ =>
                have owes := Exchange.owes_of_give given
                exact absurd first (Exchange.not_expects_of_owes owes frame)
      have same : Line.ahead { line with
          exchange := next, inbound := line.inbound ++ [⟨line.asker, frame⟩] } = [] := none
      rw [same]
      exact .nil
  | fail => exact cut ⟨attributed, expected, last, takes⟩ (.inl rfl)

end Sound

theorem Idle.drift (idle : line.Idle) (drifts : line.Drifts line')
    (works : line'.failed = false) : line'.Idle := by
  cases drifts with
  | depart _ leaving => rw [idle.leaving] at leaving; cases leaving
  | arrive _ outbound _ => rw [idle.outbound] at outbound; cases outbound
  | emit _ _ given => rw [idle.resting] at given; cases given
  | fail => cases works

end Line

/-! ## A turn on the line -/

/-- How an orderly operation stands, with its view of the exchange and what it has given to the line
and the line has not accepted. It has no view once a receive has come too late. -/
inductive Stance (caller : ι) :
    Procedure α → Bool → Option Exchange → Option (Parcel ι) → Prop where
  | ready {rest : Procedure α} {view : Option Exchange} : rest.Keeps orderly settled view →
      Stance caller rest false view none
  | receiving {next : Answer .receive → Procedure α} {view : Exchange} :
      (Dialogue.ask .receive next).Keeps orderly settled (some view) →
      Stance caller (.ask .receive next) true (some view) none
  | sending {frame : Bytes} {next : Answer (.send frame) → Procedure α} {view : Exchange} :
      (Dialogue.ask (.send frame) next).Keeps orderly settled (some view) →
      Stance caller (.ask (.send frame) next) true (some view) (some ⟨caller, frame⟩)
  /-- The line has accepted the frame and has not said so. -/
  | sent {frame : Bytes} {next : Answer (.send frame) → Procedure α} {view : Exchange} :
      (next (.ok ())).Keeps orderly settled (some view) →
      Stance caller (.ask (.send frame) next) true (some view) none

/-- An orderly operation under way, whose view agrees with the line. -/
def InTurn (caller : ι) (rest : Procedure α) (busy : Bool) (line : Line ι) : Prop :=
  ∃ view, Stance caller rest busy view line.leaving ∧ ∀ exchange ∈ view, line.Agrees caller exchange

namespace InTurn

variable {caller : ι} {rest : Procedure α} {busy : Bool} {line line' : Line ι}

theorem drift (inTurn : InTurn caller rest busy line) (drifts : line.Drifts line')
    (works : line'.failed = false) : InTurn caller rest busy line' := by
  obtain ⟨view, stance, agrees⟩ := inTurn
  cases drifts with
  | depart _ leaving =>
      rw [leaving] at stance
      cases stance with
      | sending keeps =>
          obtain ⟨expected, after⟩ := keeps
          obtain ⟨next, taken⟩ := Exchange.take_of_expects expected
          refine ⟨some next, .sent (after next taken), ?_⟩
          rintro _ ⟨⟩
          exact (agrees _ rfl).depart expected taken
  | arrive next outbound follows =>
      exact ⟨view, stance, fun exchange known => (agrees exchange known).arrive outbound follows _⟩
  | emit frame fits given =>
      exact ⟨view, stance, fun exchange known => (agrees exchange known).emit given fits⟩
  | fail => cases works

/-- Between its actions an operation has nothing left to give to the line. -/
theorem keeps (inTurn : InTurn caller rest false line) :
    line.leaving = none ∧ ∃ view, rest.Keeps orderly settled view ∧
      ∀ exchange ∈ view, line.Agrees caller exchange := by
  obtain ⟨view, stance, agrees⟩ := inTurn
  generalize line.leaving = parcel at stance
  cases stance with
  | ready keeps => exact ⟨rfl, view, keeps, agrees⟩

theorem of_keeps {view : Option Exchange} (keeps : rest.Keeps orderly settled view)
    (none : line.leaving = none) (agrees : ∀ exchange ∈ view, line.Agrees caller exchange) :
    InTurn caller rest false line :=
  ⟨view, by rw [none]; exact .ready keeps, agrees⟩

theorem receiving {next : Answer .receive → Procedure α}
    (inTurn : InTurn caller (.ask .receive next) true line) :
    line.leaving = none ∧ ∃ view, (Dialogue.ask .receive next).Keeps orderly settled (some view) ∧
      line.Agrees caller view := by
  obtain ⟨view, stance, agrees⟩ := inTurn
  generalize line.leaving = parcel at stance
  cases stance with
  | receiving keeps => exact ⟨rfl, _, keeps, agrees _ rfl⟩

/-- The end of an operation leaves the line idle. -/
theorem idle {value : α} (inTurn : InTurn caller (.done value) false line) : line.Idle := by
  obtain ⟨none, view, keeps, agrees⟩ := inTurn.keeps
  obtain ⟨resting, outbound, inbound⟩ := (agrees .resting keeps).quiet
  exact ⟨resting, outbound, inbound, none⟩

theorem of_idle (keeps : rest.Keeps orderly settled (some .resting)) (idle : line.Idle) :
    InTurn caller rest false line := by
  apply of_keeps keeps idle.leaving
  rintro _ ⟨⟩
  exact .of_quiet idle.resting idle.outbound idle.inbound

end InTurn

/-- What holds of a turn on a line at any moment. -/
structure Kept (caller : ι) (turn : Turn α (Line ι)) : Prop where
  sound : turn.shared.transport.Sound
  inTurn : turn.shared.closed = false → turn.shared.transport.failed = false →
    InTurn caller turn.rest turn.busy turn.shared.transport

namespace Kept

variable {caller : ι} {turn turn' : Turn α (Line ι)} {events : List Event}

theorem stir {rest : Procedure α} {busy : Bool} {shared shared' : Shared (Line ι)}
    {deeds : List (Deed ι)} (kept : Kept caller ⟨rest, busy, shared⟩)
    (stirred : shared.Stir Line.medium deeds shared') : Kept caller ⟨rest, busy, shared'⟩ := by
  cases stirred with
  | @drift transport transport' closed drifts =>
      refine ⟨kept.sound.drift drifts, ?_⟩
      intro isOpen works
      have before : transport.failed = false := by
        cases drifts with
        | fail => cases works
        | _ => exact works
      exact (kept.inTurn isOpen before).drift drifts works
  | close => exact ⟨kept.sound, nofun⟩

/-- The line takes up an action. What a caller sends is what the device is going to expect. -/
theorem take {action : Action} {next : Answer action → Procedure α} {line line' : Line ι}
    (kept : Kept caller ⟨.ask action next, false, ⟨line, false⟩⟩)
    (takes : Line.Takes caller action line line') :
    Kept caller ⟨.ask action next, true, ⟨line', false⟩⟩ := by
  obtain ⟨sound, inTurn⟩ := kept
  cases takes with
  | @send frame =>
      by_cases failed : line.failed
      · refine ⟨sound.cut (.inl failed), ?_⟩
        intro _ works
        exact absurd (failed.symm.trans works) nofun
      · have works : line.failed = false := by simpa using failed
        obtain ⟨-, view, keeps, agrees⟩ := (inTurn rfl works).keeps
        cases view with
        | none => cases keeps
        | some view =>
            have agree := agrees view rfl
            have expected := keeps.1
            obtain ⟨next, taken⟩ := Exchange.take_of_expects expected
            obtain ⟨-, before⟩ := agree.takes_of_expects expected
            refine ⟨⟨sound.attributed, sound.expected, next, ?_⟩, ?_⟩
            · simpa [Line.ahead, works] using before.append (.cons expected taken .nil)
            · intro _ _
              refine ⟨some view, .sending keeps, ?_⟩
              rintro _ ⟨⟩
              exact ⟨agree.sent, agree.replied, agree.asked, agree.along⟩
  | receive =>
      refine ⟨sound, ?_⟩
      intro isOpen works
      obtain ⟨none, view, keeps, agrees⟩ := (inTurn isOpen works).keeps
      cases view with
      | none => cases keeps
      | some view => exact ⟨some view, by rw [none]; exact .receiving keeps, agrees⟩

/-- The line answers an action. What a caller receives is what the device emitted for it. -/
theorem answer {action : Action} {next : Answer action → Procedure α} {line line' : Line ι}
    {reply : Answer action} (kept : Kept caller ⟨.ask action next, true, ⟨line, false⟩⟩)
    (answers : Line.Answers caller action line reply line') :
    Kept caller ⟨next reply, false, ⟨line', false⟩⟩ := by
  obtain ⟨sound, inTurn⟩ := kept
  cases answers with
  | sent works none =>
      refine ⟨sound, ?_⟩
      intro _ _
      obtain ⟨view, stance, agrees⟩ := inTurn rfl works
      rw [none] at stance
      cases stance with
      | sent keeps => exact .of_keeps keeps none agrees
  | unsent => exact ⟨sound.cut (.inl rfl), nofun⟩
  | @received _ reply replies works inbound =>
      obtain ⟨none, view, keeps, agrees⟩ := (inTurn rfl works).receiving
      obtain ⟨mine, fits, next, given, agree⟩ := agrees.collect inbound
        (line.handed ++ [⟨caller, reply⟩])
      refine ⟨⟨?_, sound.expected, sound.ahead⟩, ?_⟩
      · intro receipt member
        rcases List.mem_append.1 member with before | now
        · exact sound.attributed receipt before
        · rw [List.mem_singleton.1 now]
          exact mine
      · intro _ _
        refine .of_keeps (keeps.2.1 reply.frame next fits given) none ?_
        rintro _ ⟨⟩
        exact agree
  | late lost =>
      refine ⟨⟨sound.attributed, sound.expected, sound.ahead⟩, ?_⟩
      intro _ works
      obtain ⟨none, view, keeps, -⟩ := (inTurn rfl works).receiving
      exact .of_keeps keeps.2.2 none nofun
  | broken _ => exact ⟨sound.cut (.inl rfl), nofun⟩

theorem step (kept : Kept caller turn) (step : Turn.Step Line.medium caller turn events turn') :
    Kept caller turn' := by
  cases step with
  | note =>
      refine ⟨kept.sound, ?_⟩
      intro isOpen works
      obtain ⟨none, view, keeps, agrees⟩ := (kept.inTurn isOpen works).keeps
      exact .of_keeps keeps none agrees
  | close => exact ⟨kept.sound, nofun⟩
  | refuse _ => exact ⟨kept.sound, nofun⟩
  | take _ takes => exact kept.take takes
  | answer answers => exact kept.answer answers
  | drop _ drops =>
      obtain ⟨lost, rfl⟩ := drops
      exact ⟨kept.sound.cut (.inr rfl), nofun⟩

theorem run {first last : Turn α (Line ι)} {deeds : List (Deed ι)}
    (run : Turn.Run Line.medium caller first deeds last) (kept : Kept caller first) :
    Kept caller last := by
  induction run with
  | refl => exact kept
  | step _ step ih => exact ih.step step
  | stir _ stirred ih => exact ih.stir stirred

end Kept

/-! ## Turns one after the other -/

/-- What holds of a line while no caller has it. -/
structure AtRest (shared : Shared (Line ι)) : Prop where
  sound : shared.transport.Sound
  idle : shared.closed = false → shared.transport.failed = false → shared.transport.Idle

namespace AtRest

variable {α : ι → Type} {program : (caller : ι) → Procedure (α caller)}
  {first shared shared' : Shared (Line ι)} {served : List (Served ι α)} {deeds : List (Deed ι)}

theorem start : AtRest (⟨{}, false⟩ : Shared (Line ι)) where
  sound := ⟨nofun, nofun, _, .nil⟩
  idle _ _ := ⟨rfl, rfl, rfl, rfl⟩

theorem stir (rests : AtRest shared) (stirred : shared.Stir Line.medium deeds shared') :
    AtRest shared' := by
  cases stirred with
  | @drift transport transport' closed drifts =>
      refine ⟨rests.sound.drift drifts, ?_⟩
      intro isOpen works
      have before : transport.failed = false := by
        cases drifts with
        | fail => cases works
        | _ => exact works
      exact (rests.idle isOpen before).drift drifts works
  | close => exact ⟨rests.sound, nofun⟩

theorem begins {α : Type} {rest : Procedure α} (rests : AtRest shared) (caller : ι)
    (keeps : rest.Keeps orderly settled (some .resting)) : Kept caller ⟨rest, false, shared⟩ :=
  ⟨rests.sound, fun isOpen works => .of_idle keeps (rests.idle isOpen works)⟩

theorem ends {α : Type} {value : α} {caller : ι}
    (kept : Kept caller ⟨.done value, false, shared⟩) : AtRest shared :=
  ⟨kept.sound, fun isOpen works => (kept.inTurn isOpen works).idle⟩

theorem relay (keeps : ∀ caller, (program caller).Keeps orderly settled (some .resting))
    (relay : Relay Line.medium program first served deeds shared) (rests : AtRest first) :
    AtRest shared := by
  induction relay with
  | start => exact rests
  | stir _ stirred ih => exact ih.stir stirred
  | turn one _ run ih => exact ends (Kept.run run (ih.begins one.caller (keeps one.caller)))

end AtRest

/-! ## What callers receive -/

/-- A frame that a caller receives. -/
def Deed.receipt? : Deed ι → Option (ι × Bytes)
  | .did caller (.received frame) => some (caller, frame)
  | _ => none

/-- Who has received which frame so far. -/
def Line.receipts (line : Line ι) : List (ι × Bytes) :=
  line.handed.map fun receipt => (receipt.receiver, receipt.reply.frame)

section Receipts

variable {caller : ι} {deeds : List (Deed ι)}

theorem receipts_of_stir {shared shared' : Shared (Line ι)}
    (stirred : shared.Stir Line.medium deeds shared') :
    shared'.transport.receipts = shared.transport.receipts ++ deeds.filterMap Deed.receipt? := by
  cases stirred with
  | drift drifts => cases drifts <;> exact (List.append_nil _).symm
  | close => exact (List.append_nil _).symm

theorem receipts_of_step {turn turn' : Turn α (Line ι)} {events : List Event}
    (step : Turn.Step Line.medium caller turn events turn') :
    turn'.shared.transport.receipts = turn.shared.transport.receipts ++
      (events.map (Deed.did caller)).filterMap Deed.receipt? := by
  cases step with
  | note => exact (List.append_nil _).symm
  | @close _ _ closed => cases closed <;> exact (List.append_nil _).symm
  | refuse _ => exact (List.append_nil _).symm
  | take _ takes => cases takes <;> exact (List.append_nil _).symm
  | answer answers =>
      cases answers with
      | received _ _ => simp [Line.receipts, finished, Deed.receipt?]
      | _ => exact (List.append_nil _).symm
  | drop _ drops =>
      obtain ⟨_, rfl⟩ := drops
      exact (List.append_nil _).symm

theorem receipts_of_turn {first last : Turn α (Line ι)}
    (run : Turn.Run Line.medium caller first deeds last) :
    last.shared.transport.receipts =
      first.shared.transport.receipts ++ deeds.filterMap Deed.receipt? := by
  induction run with
  | refl => exact (List.append_nil _).symm
  | step _ step ih => rw [receipts_of_step step, ih, List.filterMap_append, List.append_assoc]
  | stir _ stirred ih =>
      rw [receipts_of_stir stirred, ih, List.filterMap_append, List.append_assoc]

theorem receipts_of_relay {α : ι → Type} {program : (caller : ι) → Procedure (α caller)}
    {first shared : Shared (Line ι)} {served : List (Served ι α)}
    (relay : Relay Line.medium program first served deeds shared) :
    shared.transport.receipts =
      first.transport.receipts ++ deeds.filterMap Deed.receipt? := by
  induction relay with
  | start => exact (List.append_nil _).symm
  | stir _ stirred ih =>
      rw [receipts_of_stir stirred, ih, List.filterMap_append, List.append_assoc]
  | turn one _ run ih =>
      rw [receipts_of_turn run, ih, List.filterMap_append, List.append_assoc]
      rfl

end Receipts

/-- A command is expected when no exchange is under way, and a block when one is due. -/
theorem Exchange.cases_of_expects {exchange : Exchange} {frame : Bytes}
    (expected : exchange.Expects frame) :
    (exchange = .resting ∧ ∃ command : Command, frame = command.encode) ∨
      ((∃ left reading, exchange = .asked (left + 1) reading) ∧
        ∃ block : Block, frame = block.bytes) := by
  match exchange with
  | .answered 0 => exact .inl ⟨rfl, expected⟩
  | .asked (left + 1) reading => exact .inr ⟨⟨left, reading, rfl⟩, expected⟩

section Crowds

variable {α : ι → Type} {program : (caller : ι) → Procedure (α caller)} {crowd : Crowd α (Line ι)}
  {served : List (Served ι α)} {before deeds : List (Deed ι)} {first left : Shared (Line ι)}

theorem Serial.sound (serial : Serial Line.medium program first crowd served before left deeds)
    (keeps : ∀ caller, (program caller).Keeps orderly settled (some .resting))
    (rests : AtRest first) : crowd.shared.transport.Sound := by
  have left_rests := AtRest.relay keeps serial.relay rests
  rcases Option.eq_none_or_eq_some crowd.lock with free | ⟨holder, held⟩
  · rw [(serial.left_of_free free).2]
    exact left_rests.sound
  · obtain ⟨rest, busy, own, -, -, run⟩ := serial.running_of_lock held
    exact (Kept.run run (left_rests.begins holder (keeps holder))).sound

theorem Serial.receipts (serial : Serial Line.medium program first crowd served before left deeds) :
    crowd.shared.transport.receipts =
      first.transport.receipts ++ (before ++ deeds).filterMap Deed.receipt? := by
  rw [List.filterMap_append, ← List.append_assoc, ← receipts_of_relay serial.relay]
  rcases Option.eq_none_or_eq_some crowd.lock with free | ⟨holder, held⟩
  · obtain ⟨rfl, same⟩ := serial.left_of_free free
    rw [same, List.filterMap_nil, List.append_nil]
  · obtain ⟨rest, busy, own, -, rfl, run⟩ := serial.running_of_lock held
    exact receipts_of_turn run

end Crowds

/-- **Every caller receives the replies to its own frames.** Whatever callers, line, device and
owner do in whatever order: a frame that a caller receives was emitted in answer to that caller; a
command comes to the device when no exchange is under way, and a block or packet when one is due;
and while no caller has the line, nothing is on the way or owed, unless the channel is closed or the
line has failed. -/
theorem attribution [DecidableEq ι] (device : String) (service : ι → Service)
    {trace : List (Deed ι)}
    {crowd : Crowd (fun caller => Except Failure (service caller).Value) (Line ι)}
    (run : Crowd.Run Line.medium (fun caller => (service caller).procedure device)
      (.start ⟨{}, false⟩) trace crowd) :
    crowd.shared.transport.receipts = trace.filterMap Deed.receipt? ∧
      (∀ receipt ∈ crowd.shared.transport.handed,
        receipt.reply.asker = some receipt.receiver) ∧
      (∀ arrival ∈ crowd.shared.transport.arrived,
        (arrival.exchange = .resting ∧ ∃ command : Command, arrival.frame = command.encode) ∨
          ((∃ left reading, arrival.exchange = .asked (left + 1) reading) ∧
            ∃ block : Block, arrival.frame = block.bytes)) ∧
      (crowd.lock = none → crowd.shared.closed = false → crowd.shared.transport.failed = false →
        crowd.shared.transport.exchange = .resting ∧ crowd.shared.transport.outbound = [] ∧
          crowd.shared.transport.inbound = []) := by
  obtain ⟨served, before, left, deeds, rfl, serial⟩ := Serial.of_run run
  have keeps := fun caller => procedure_orderly device (service caller)
  have sound := serial.sound keeps .start
  refine ⟨serial.receipts, sound.attributed, ?_, ?_⟩
  · exact fun arrival member => Exchange.cases_of_expects (sound.expected arrival member)
  · intro free isOpen works
    have same := (serial.left_of_free free).2
    have idle := (AtRest.relay keeps serial.relay .start).idle
    rw [← same] at idle
    obtain ⟨resting, outbound, inbound, -⟩ := idle isOpen works
    exact ⟨resting, outbound, inbound⟩

/-- On a quiet line a caller may commit the configuration: its command arrives, and the
acknowledgement comes back. -/
theorem exists_commit (caller : ι) {line : Line ι} (idle : line.Idle)
    (works : line.failed = false) :
    ∃ deeds line', Turn.Run Line.medium caller
        ⟨Service.commitConfig.procedure "device", false, ⟨line, false⟩⟩ deeds
        ⟨.done (.ok ()), false, ⟨line', false⟩⟩ ∧
      line'.Idle ∧ line'.failed = false ∧
      deeds.filterMap Deed.receipt? = [(caller, Response.ok.encode)] := by
  obtain ⟨exchange, asker, leaving, outbound, inbound, failed, arrived, handed⟩ := line
  obtain ⟨rfl, rfl, rfl, rfl⟩ := idle
  cases works
  have begun : Turn.Run Line.medium caller
      ⟨Service.commitConfig.procedure "device", false, ⟨{ asker, arrived, handed }, false⟩⟩ []
      ⟨Service.commitConfig.procedure "device", false, ⟨{ asker, arrived, handed }, false⟩⟩ := .refl
  have sending := begun.step (.take rfl .send)
  have departed := sending.stir (.drift (.depart rfl rfl))
  have sent := departed.step (.answer (.sent rfl rfl))
  have counted := (sent.step .note).step .note
  have arrived := counted.stir (.drift (.arrive (.asked 0 false) rfl (by rintro _ ⟨⟩; rfl)))
  have replied := arrived.stir (.drift (.emit Response.ok.encode (by decide) rfl))
  have receiving := replied.step (.take rfl .receive)
  have received := receiving.step (.answer (.received rfl rfl))
  have recorded := (((received.step .note).step .note).step .note).step .note
  exact ⟨_, _, recorded, ⟨rfl, rfl, rfl, rfl⟩, rfl, rfl⟩

/-- Two callers want to commit the configuration at the same time. Each of them receives the
acknowledgement of its own command. -/
theorem attribution_commit :
    ∃ (trace : List (Deed Bool)) (crowd : Crowd (fun _ => Except Failure Unit) (Line Bool)),
      Crowd.Run Line.medium (fun _ => Service.commitConfig.procedure "device") (.start ⟨{}, false⟩)
        trace crowd ∧
      (∀ caller, crowd.stage caller = .ended (.ok ())) ∧
      trace.filterMap Deed.receipt? = [(true, Response.ok.encode), (false, Response.ok.encode)] ∧
      crowd.shared.transport.receipts = trace.filterMap Deed.receipt? ∧
      (∀ receipt ∈ crowd.shared.transport.handed, receipt.reply.asker = some receipt.receiver) ∧
      crowd.shared.transport.exchange = .resting := by
  have start : Crowd.Run Line.medium (fun _ : Bool => Service.commitConfig.procedure "device")
      (.start ⟨{}, false⟩) [] (.start ⟨{}, false⟩) := .refl
  have both := (start.issue true rfl rfl).issue false rfl rfl
  obtain ⟨deeds, line, turn, idle, works, received⟩ :=
    exists_commit true (⟨rfl, rfl, rfl, rfl⟩ : Line.Idle {}) rfl
  obtain ⟨more, line', turn', idle', -, received'⟩ := exists_commit false idle works
  have once := both.attend rfl rfl turn
  have twice := once.attend rfl rfl turn'
  obtain ⟨receipts, attributed, -⟩ := attribution "device" (fun _ => .commitConfig) twice
  refine ⟨_, _, twice, ?_, ?_, receipts, attributed, idle'.resting⟩
  · rintro (_ | _) <;> rfl
  · calc (deeds ++ .acquired false :: more).filterMap Deed.receipt?
      _ = deeds.filterMap Deed.receipt? ++ more.filterMap Deed.receipt? := List.filterMap_append
      _ = [(true, Response.ok.encode), (false, Response.ok.encode)] := by
        rw [received, received']
        rfl

end ControlLink.Session
