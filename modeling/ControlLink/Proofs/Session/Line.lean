/-
# ControlLink.Proofs.Session.Line — a device at the other end of a line

A line carries frames in order, and takes as long as it likes. The device at its end emits exactly
the frames that it owes: one reply to a command and what the command announces, and the blocks that
a reply to a request for the configuration announces. Any receive may come too late, and any other
failure of the line is final. Frames carry no numbers; who sent them, and whom the device is
answering, is kept here for the statements only.

What a caller knows of its exchange (its view) and how far the device has come differ by the frames
on the way, either all towards the device or all towards the caller (`Agrees`). Every movement on
the line keeps this (`Agrees.arrive`, `Agrees.emit`, `Agrees.depart`, `Agrees.collect`), and between
exchanges it leaves nothing on the way (`Agrees.quiet`).
-/
import ControlLink.Proofs.Session.Exchange
import ControlLink.Proofs.Session.Turn

namespace ControlLink.Session

set_option autoImplicit false

/-! ## Frames one after the other -/

namespace Exchange

/-- The exchange takes these frames, each of which it expects. -/
inductive Takes : Exchange → List Bytes → Exchange → Prop where
  | nil {exchange : Exchange} : Takes exchange [] exchange
  | cons {exchange next last : Exchange} {frame : Bytes} {frames : List Bytes} :
      exchange.Expects frame → exchange.take frame = some next → Takes next frames last →
      Takes exchange (frame :: frames) last

/-- The exchange gives these frames. -/
inductive Gives : Exchange → List Bytes → Exchange → Prop where
  | nil {exchange : Exchange} : Gives exchange [] exchange
  | cons {exchange next last : Exchange} {frame : Bytes} {frames : List Bytes} :
      exchange.give frame = some next → Gives next frames last →
      Gives exchange (frame :: frames) last

variable {exchange next last : Exchange} {frame : Bytes} {frames more : List Bytes}

theorem takes_nil (takes : exchange.Takes [] last) : exchange = last := by
  cases takes
  rfl

theorem gives_nil (gives : exchange.Gives [] last) : exchange = last := by
  cases gives
  rfl

theorem Takes.append (takes : exchange.Takes frames next) (onward : next.Takes more last) :
    exchange.Takes (frames ++ more) last := by
  induction takes with
  | nil => exact onward
  | cons expected taken _ ih => exact .cons expected taken (ih onward)

theorem Takes.take_left (takes : exchange.Takes (frames ++ more) last) :
    ∃ between, exchange.Takes frames between := by
  induction frames generalizing exchange with
  | nil => exact ⟨exchange, .nil⟩
  | cons frame frames ih =>
      cases takes with
      | cons expected taken rest =>
          obtain ⟨between, first⟩ := ih rest
          exact ⟨between, .cons expected taken first⟩

theorem Gives.snoc (gives : exchange.Gives frames next) (given : next.give frame = some last) :
    exchange.Gives (frames ++ [frame]) last := by
  induction gives with
  | nil => exact .cons given .nil
  | cons first _ ih => exact .cons first (ih given)

/-- Once a frame has been taken, an exchange is under way. -/
theorem take_ne_resting (taken : exchange.take frame = some next) : next ≠ .resting := by
  match exchange with
  | .answered 0 =>
      cases taken
      unfold opened
      split <;> exact nofun
  | .asked (left + 1) reading =>
      cases taken
      exact nofun

theorem takes_resting (takes : exchange.Takes frames .resting) :
    frames = [] ∧ exchange = .resting := by
  induction frames generalizing exchange with
  | nil => exact ⟨rfl, takes_nil takes⟩
  | cons frame frames ih =>
      cases takes with
      | cons _ taken rest => exact absurd (ih rest).2 (take_ne_resting taken)

theorem gives_resting (gives : Gives .resting frames last) : frames = [] ∧ last = .resting := by
  cases gives with
  | nil => exact ⟨rfl, rfl⟩
  | cons given _ => cases given

end Exchange

/-! ## The line and its device -/

/-- A frame on its way to the device. -/
structure Parcel (ι : Type) where
  sender : ι
  frame : Bytes

/-- A frame on its way from the device. -/
structure Reply (ι : Type) where
  /-- The caller whose frame the device had taken last. -/
  asker : Option ι
  frame : Bytes

/-- A reply in the hands of a caller. -/
structure Receipt (ι : Type) where
  receiver : ι
  reply : Reply ι

/-- A frame that has come to the device, and how far the exchange was then. -/
structure Arrival where
  exchange : Exchange
  frame : Bytes

structure Line (ι : Type) where
  /-- How far the device has come. -/
  exchange : Exchange := .resting
  asker : Option ι := none
  /-- A frame that the line has not accepted yet. -/
  leaving : Option (Parcel ι) := none
  outbound : List (Parcel ι) := []
  inbound : List (Reply ι) := []
  failed : Bool := false
  /-- What has come to the device so far. -/
  arrived : List Arrival := []
  /-- What callers have received so far. -/
  handed : List (Receipt ι) := []

namespace Line

variable {ι : Type} {caller : ι} {view exchange next : Exchange} {line line' : Line ι}
  {parcel : Parcel ι} {parcels : List (Parcel ι)} {reply : Reply ι} {replies : List (Reply ι)}
  {frame : Bytes}

/-- A caller wants to send or to receive. -/
inductive Takes (caller : ι) : Action → Line ι → Line ι → Prop where
  | send {frame : Bytes} {line : Line ι} :
      Takes caller (.send frame) line { line with leaving := some ⟨caller, frame⟩ }
  | receive {line : Line ι} : Takes caller .receive line line

/-- How the line answers a caller. -/
inductive Answers (caller : ι) : (action : Action) → Line ι → Answer action → Line ι → Prop where
  | sent {frame : Bytes} {line : Line ι} : line.failed = false → line.leaving = none →
      Answers caller (.send frame) line (.ok ()) line
  | unsent {frame : Bytes} {line : Line ι} {error : LinkError} :
      Answers caller (.send frame) line (.error error) { line with leaving := none, failed := true }
  | received {line : Line ι} {reply : Reply ι} {replies : List (Reply ι)} :
      line.failed = false → line.inbound = reply :: replies →
      Answers caller .receive line (.ok reply.frame)
        { line with inbound := replies, handed := line.handed ++ [⟨caller, reply⟩] }
  /-- What was on the way may be lost to a receive that comes too late. -/
  | late {line : Line ι} (lost : Nat) :
      Answers caller .receive line (.error .timedOut)
        { line with inbound := line.inbound.drop lost }
  | broken {line : Line ι} {error : LinkError} : error ≠ .timedOut →
      Answers caller .receive line (.error error) { line with failed := true }

/-- What happens on the line and at its end in a time of their own. -/
inductive Drifts : Line ι → Line ι → Prop where
  | depart {line : Line ι} {parcel : Parcel ι} : line.failed = false →
      line.leaving = some parcel →
      Drifts line { line with leaving := none, outbound := line.outbound ++ [parcel] }
  /-- The device takes a frame. If it expects none, no more is said of what it does. -/
  | arrive {line : Line ι} {parcel : Parcel ι} {parcels : List (Parcel ι)} (next : Exchange) :
      line.outbound = parcel :: parcels →
      (∀ expected, line.exchange.take parcel.frame = some expected → next = expected) →
      Drifts line { line with
        exchange := next
        asker := some parcel.sender
        outbound := parcels
        arrived := line.arrived ++ [⟨line.exchange, parcel.frame⟩] }
  | emit {line : Line ι} {next : Exchange} (frame : Bytes) : frame.length ≤ frameLimit →
      line.exchange.give frame = some next →
      Drifts line { line with
        exchange := next
        inbound := line.inbound ++ [⟨line.asker, frame⟩] }
  | fail {line : Line ι} : Drifts line { line with failed := true }

/-- The line as a transport. A caller that no longer waits leaves nothing behind. -/
def medium : Medium ι (Line ι) where
  takes := Takes
  answers := Answers
  drops _ _ line line' := ∃ lost, line' =
    { line with leaving := none, inbound := line.inbound.drop lost }
  drifts := Drifts

/-- The view of the caller that has the line agrees with the device up to the frames on the way. -/
structure Agrees (caller : ι) (view : Exchange) (line : Line ι) : Prop where
  sent : ∀ parcel ∈ line.outbound, parcel.sender = caller
  replied : ∀ reply ∈ line.inbound, reply.asker = some caller ∧ reply.frame.length ≤ frameLimit
  asked : line.exchange.Owes → line.asker = some caller
  along : line.inbound = [] ∧ line.exchange.Takes (line.outbound.map Parcel.frame) view ∨
    line.outbound = [] ∧ view.Gives (line.inbound.map Reply.frame) line.exchange

namespace Agrees

/-- Between exchanges nothing is on the way. -/
theorem quiet (agrees : Agrees caller .resting line) :
    line.exchange = .resting ∧ line.outbound = [] ∧ line.inbound = [] := by
  rcases agrees.along with ⟨inbound, takes⟩ | ⟨outbound, gives⟩
  · obtain ⟨none, resting⟩ := Exchange.takes_resting takes
    exact ⟨resting, List.map_eq_nil_iff.1 none, inbound⟩
  · obtain ⟨none, resting⟩ := Exchange.gives_resting gives
    exact ⟨resting, outbound, List.map_eq_nil_iff.1 none⟩

theorem of_quiet (resting : line.exchange = .resting) (outbound : line.outbound = [])
    (inbound : line.inbound = []) : Agrees caller .resting line where
  sent parcel member := by simp [outbound] at member
  replied reply member := by simp [inbound] at member
  asked owes := by rw [resting] at owes; cases owes
  along := .inl ⟨inbound, by rw [outbound, resting]; exact .nil⟩

/-- A caller that may send has no reply on the way. -/
theorem takes_of_expects (agrees : Agrees caller view line) (expected : view.Expects frame) :
    line.inbound = [] ∧ line.exchange.Takes (line.outbound.map Parcel.frame) view := by
  rcases agrees.along with along | ⟨outbound, gives⟩
  · exact along
  · cases replies : line.inbound with
    | nil =>
        rw [replies] at gives
        have same := Exchange.gives_nil gives
        exact ⟨rfl, by rw [outbound, same]; exact .nil⟩
    | cons reply rest =>
        rw [replies] at gives
        cases gives with
        | cons given _ =>
            exact absurd expected (Exchange.not_expects_of_owes (Exchange.owes_of_give given) frame)

/-- The line accepts a frame of the caller. -/
theorem depart (agrees : Agrees caller view line) (expected : view.Expects frame)
    (taken : view.take frame = some next) :
    Agrees caller next
      { line with leaving := none, outbound := line.outbound ++ [⟨caller, frame⟩] } := by
  obtain ⟨none, takes⟩ := agrees.takes_of_expects expected
  refine ⟨?_, agrees.replied, agrees.asked, .inl ⟨none, ?_⟩⟩
  · intro parcel member
    rcases List.mem_append.1 member with before | now
    · exact agrees.sent parcel before
    · rw [List.mem_singleton.1 now]
  · rw [List.map_append]
    exact takes.append (.cons expected taken .nil)

/-- The device takes a frame. -/
theorem arrive (agrees : Agrees caller view line) (outbound : line.outbound = parcel :: parcels)
    (follows : ∀ expected, line.exchange.take parcel.frame = some expected → next = expected)
    (arrived : List Arrival) :
    Agrees caller view { line with
      exchange := next, asker := some parcel.sender, outbound := parcels, arrived } := by
  rcases agrees.along with ⟨inbound, takes⟩ | ⟨none, -⟩
  · rw [outbound, List.map_cons] at takes
    cases takes with
    | cons _ taken rest =>
        cases follows _ taken
        refine ⟨?_, ?_, ?_, .inl ⟨inbound, rest⟩⟩
        · intro later member
          exact agrees.sent later (by rw [outbound]; exact List.mem_cons_of_mem _ member)
        · exact agrees.replied
        · intro _
          exact congrArg some (agrees.sent parcel (by rw [outbound]; exact List.mem_cons_self ..))
  · rw [outbound] at none
    cases none

/-- The device emits a frame. It is the caller that it answers. -/
theorem emit (agrees : Agrees caller view line) (given : line.exchange.give frame = some next)
    (fits : frame.length ≤ frameLimit) :
    Agrees caller view
      { line with exchange := next, inbound := line.inbound ++ [⟨line.asker, frame⟩] } := by
  have owes := Exchange.owes_of_give given
  have asker := agrees.asked owes
  obtain ⟨outbound, gives⟩ : line.outbound = [] ∧
      view.Gives (line.inbound.map Reply.frame) line.exchange := by
    rcases agrees.along with ⟨inbound, takes⟩ | along
    · cases outbound : line.outbound with
      | nil =>
          rw [outbound] at takes
          have same := Exchange.takes_nil takes
          exact ⟨rfl, by rw [inbound, same]; exact .nil⟩
      | cons parcel parcels =>
          rw [outbound] at takes
          cases takes with
          | cons expected _ _ => exact absurd expected (Exchange.not_expects_of_owes owes _)
    · exact along
  refine ⟨agrees.sent, ?_, fun _ => asker, .inr ⟨outbound, ?_⟩⟩
  · intro reply member
    rcases List.mem_append.1 member with before | now
    · exact agrees.replied reply before
    · rw [List.mem_singleton.1 now]
      exact ⟨asker, fits⟩
  · rw [List.map_append]
    exact gives.snoc given

/-- The caller receives a frame: one that the device emitted for it. -/
theorem collect (agrees : Agrees caller view line) (inbound : line.inbound = reply :: replies)
    (handed : List (Receipt ι)) :
    reply.asker = some caller ∧ reply.frame.length ≤ frameLimit ∧
      ∃ next, view.give reply.frame = some next ∧
        Agrees caller next { line with inbound := replies, handed } := by
  obtain ⟨asker, fits⟩ := agrees.replied reply (by rw [inbound]; exact List.mem_cons_self ..)
  rcases agrees.along with ⟨none, -⟩ | ⟨outbound, gives⟩
  · rw [inbound] at none
    cases none
  · rw [inbound, List.map_cons] at gives
    cases gives with
    | @cons _ next _ _ _ given rest =>
        refine ⟨asker, fits, next, given, agrees.sent, fun later member => ?_, agrees.asked,
          .inr ⟨outbound, rest⟩⟩
        exact agrees.replied later (by rw [inbound]; exact List.mem_cons_of_mem _ member)

end Agrees

end Line

end ControlLink.Session
