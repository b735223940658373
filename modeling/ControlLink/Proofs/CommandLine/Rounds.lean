/-
# ControlLink.Proofs.CommandLine.Rounds — jobs that go round by round

In a round frames are sent one after another and a reply is awaited, which is accepted or not
(`Round`). Nothing of a round is sent before every earlier one has passed: all its frames are sent
and the reply is accepted. `Gated` promises that of contacts and a result alone. A job that goes
round by round (`Advances`), one step after the other, keeps this promise (`gated_of_proceeds`).
-/
import ControlLink.Proofs.CommandLine.Course
import ControlLink.Proofs.Session.Configuration

namespace ControlLink.CommandLine

set_option autoImplicit false

open Session

/-! ## Rounds -/

/-- Frames that are sent one after another, and which replies to them are accepted. -/
structure Round where
  frames : List Bytes
  Accepts : Bytes → Prop

/-- The contacts in which rounds pass one after another. -/
inductive Passed : List Round → List Contact → Prop where
  | none : Passed [] []
  | next {round : Round} {rounds : List Round} {reply : Bytes} {contacts : List Contact} :
      round.Accepts reply → Passed rounds contacts →
      Passed (round :: rounds) (departures round.frames ++ .received (.ok reply) :: contacts)

/-- What rounds promise of the contacts of a job and of its result. -/
structure Gated (rounds : List Round) (contacts : List Contact) (result : Except Failure Unit) :
    Prop where
  /-- What is attempted to be sent is a beginning of the frames of the rounds. -/
  sends : attempts contacts <+: rounds.flatMap Round.frames
  /-- Before a frame is attempted, all earlier rounds have passed and all earlier frames of its own
  round are sent, and there was nothing else. -/
  gate : ∀ before frame answer after, contacts = before ++ .sent frame answer :: after →
    ∃ done round rest passed sent more, rounds = done ++ round :: rest ∧ Passed done passed ∧
      round.frames = sent ++ frame :: more ∧ before = passed ++ departures sent
  /-- The job succeeds exactly if all rounds pass. -/
  ok_iff : result = .ok () ↔ Passed rounds contacts
  /-- It fails only if a frame cannot be sent, a reply does not come, or one is not accepted. -/
  blames : ∀ failure, result = .error failure →
    (∃ frame error, .sent frame (.error error) ∈ contacts) ∨
    (∃ error, .received (.error error) ∈ contacts) ∨
    ∃ done round rest passed reply, rounds = done ++ round :: rest ∧ Passed done passed ∧
      ¬ round.Accepts reply ∧
      contacts = passed ++ departures round.frames ++ [.received (.ok reply)]

/-- The contacts of a job that goes round by round, and whether all rounds pass. -/
inductive Proceeds : List Round → List Contact → Bool → Prop where
  | through : Proceeds [] [] true
  | passed {round : Round} {rounds : List Round} {reply : Bytes} {contacts : List Contact}
      {all : Bool} : round.Accepts reply → Proceeds rounds contacts all →
      Proceeds (round :: rounds) (departures round.frames ++ .received (.ok reply) :: contacts) all
  | unsent {round : Round} {rounds : List Round} {sent more : List Bytes} {frame : Bytes}
      {error : LinkError} : round.frames = sent ++ frame :: more →
      Proceeds (round :: rounds) (departures sent ++ [.sent frame (.error error)]) false
  | unanswered {round : Round} {rounds : List Round} {error : LinkError} :
      Proceeds (round :: rounds) (departures round.frames ++ silence error) false
  | refused {round : Round} {rounds : List Round} {reply : Bytes} : ¬ round.Accepts reply →
      Proceeds (round :: rounds) (departures round.frames ++ [.received (.ok reply)]) false

section Rounds

variable {rounds more : List Round} {contacts later before after : List Contact} {all : Bool}

/-- A frame stands among those that are sent first, or behind all of them. -/
theorem split_departures {frames : List Bytes} {tail : List Contact} {frame : Bytes}
    {answer : Except LinkError Unit}
    (same : departures frames ++ tail = before ++ .sent frame answer :: after) :
    (∃ sent more, frames = sent ++ frame :: more ∧ before = departures sent) ∨
      ∃ between, before = departures frames ++ between ∧
        tail = between ++ .sent frame answer :: after := by
  induction frames generalizing before with
  | nil => exact .inr ⟨before, rfl, same⟩
  | cons first frames ih =>
      cases before with
      | nil =>
          cases (List.cons.inj same).1
          exact .inl ⟨[], frames, rfl, rfl⟩
      | cons contact before =>
          obtain ⟨rfl, rest⟩ := List.cons.inj same
          obtain ⟨sent, more, rfl, rfl⟩ | ⟨between, rfl, behind⟩ := ih rest
          · exact .inl ⟨first :: sent, more, rfl, rfl⟩
          · exact .inr ⟨between, rfl, behind⟩

theorem Proceeds.append (proceeds : Proceeds rounds contacts true)
    (onward : Proceeds more later all) : Proceeds (rounds ++ more) (contacts ++ later) all := by
  generalize passed : true = whole at proceeds
  induction proceeds with
  | through => exact onward
  | passed accepted _ ih =>
      rw [List.append_assoc]
      exact .passed accepted (ih passed)
  | _ => cases passed

/-- Rounds that come later do not matter once one has failed. -/
theorem Proceeds.left (proceeds : Proceeds rounds contacts false) :
    Proceeds (rounds ++ more) contacts false := by
  generalize failed : false = whole at proceeds
  induction proceeds with
  | through => cases failed
  | passed accepted _ ih => exact .passed accepted (ih failed)
  | unsent split => exact .unsent split
  | unanswered => exact .unanswered
  | refused unaccepted => exact .refused unaccepted

theorem sends_of_proceeds (proceeds : Proceeds rounds contacts all) :
    attempts contacts <+: rounds.flatMap Round.frames := by
  induction proceeds with
  | through => exact List.nil_prefix
  | passed _ _ ih =>
      rw [attempts_append, attempts_departures, List.flatMap_cons]
      exact (List.prefix_append_right_inj _).2 ih
  | unsent split =>
      rw [attempts_append, attempts_departures, List.flatMap_cons, split, List.append_assoc]
      exact (List.prefix_append_right_inj _).2 (List.cons_prefix_cons.2 ⟨rfl, List.nil_prefix⟩)
  | unanswered =>
      rw [attempts_append, attempts_departures, attempts_silence, List.append_nil]
      exact List.prefix_append ..
  | refused =>
      rw [attempts_append, attempts_departures]
      exact (List.prefix_append_right_inj _).2 List.nil_prefix

theorem gate_of_proceeds (proceeds : Proceeds rounds contacts all) {frame : Bytes}
    {answer : Except LinkError Unit} (same : contacts = before ++ .sent frame answer :: after) :
    ∃ done round rest passed sent more, rounds = done ++ round :: rest ∧ Passed done passed ∧
      round.frames = sent ++ frame :: more ∧ before = passed ++ departures sent := by
  -- A frame of the first round comes before everything else.
  have first {round : Round} {rounds : List Round} {sent more : List Bytes}
      (split : round.frames = sent ++ frame :: more) :
      ∃ done other rest passed sent' more', round :: rounds = done ++ other :: rest ∧
        Passed done passed ∧ other.frames = sent' ++ frame :: more' ∧
        departures sent = passed ++ departures sent' :=
    ⟨[], round, rounds, [], sent, more, rfl, .none, split, rfl⟩
  induction proceeds generalizing before with
  | through => simp at same
  | passed accepted _ ih =>
      obtain ⟨sent, more, split, rfl⟩ | ⟨between, rfl, behind⟩ := split_departures same
      · exact first split
      · cases between with
        | nil => cases (List.cons.inj behind).1
        | cons reply between =>
            obtain ⟨rfl, onward⟩ := List.cons.inj behind
            obtain ⟨done, round, rest, passed, sent, more, rfl, through, split, rfl⟩ := ih onward
            refine ⟨_ :: done, round, rest, _, sent, more, rfl, .next accepted through, split, ?_⟩
            rw [List.append_assoc]
            rfl
  | @unsent round rounds sent more other error split =>
      obtain ⟨early, late, rfl, rfl⟩ | ⟨between, rfl, behind⟩ := split_departures same
      · rw [List.append_assoc] at split
        exact first split
      · obtain ⟨rfl, ⟨rfl, -⟩, -⟩ :
            between = [] ∧ (frame = other ∧ answer = .error error) ∧ after = [] := by
          simpa [List.singleton_eq_append_iff] using behind
        rw [List.append_nil]
        exact first split
  | @unanswered round rounds error =>
      obtain ⟨sent, more, split, rfl⟩ | ⟨between, -, behind⟩ := split_departures same
      · exact first split
      · have inside : .sent frame answer ∈ silence error := by simp [behind]
        simp at inside
  | refused _ =>
      obtain ⟨sent, more, split, rfl⟩ | ⟨between, -, behind⟩ := split_departures same
      · exact first split
      · simp [List.singleton_eq_append_iff] at behind

theorem passed_of_proceeds (proceeds : Proceeds rounds contacts true) : Passed rounds contacts := by
  generalize whole : true = all at proceeds
  induction proceeds with
  | through => exact .none
  | passed accepted _ ih => exact .next accepted (ih whole)
  | _ => cases whole

/-- What passes has not failed. -/
theorem all_of_passed (passed : Passed rounds contacts) (proceeds : Proceeds rounds contacts all) :
    all = true := by
  induction passed generalizing all with
  | none =>
      cases proceeds
      rfl
  | @next round rounds reply contacts accepted _ ih =>
      generalize same : departures round.frames ++ .received (.ok reply) :: contacts = both
        at proceeds
      cases proceeds with
      | passed _ onward =>
          cases List.append_cancel_left same
          exact ih onward
      | unsent split =>
          obtain ⟨between, -, tail⟩ := split_behind received_notMem_departures same.symm
          simp [List.singleton_eq_append_iff] at tail
      | @unanswered _ _ error =>
          cases error <;> cases List.append_cancel_left same
      | refused unaccepted =>
          cases List.append_cancel_left same
          exact absurd accepted unaccepted

theorem blamed_of_proceeds (proceeds : Proceeds rounds contacts false) :
    (∃ frame error, .sent frame (.error error) ∈ contacts) ∨
    (∃ error, .received (.error error) ∈ contacts) ∨
    ∃ done round rest passed reply, rounds = done ++ round :: rest ∧ Passed done passed ∧
      ¬ round.Accepts reply ∧
      contacts = passed ++ departures round.frames ++ [.received (.ok reply)] := by
  generalize failed : false = all at proceeds
  induction proceeds with
  | through => cases failed
  | passed accepted _ ih =>
      rcases ih failed with ⟨frame, error, lost⟩ | ⟨error, lost⟩ |
        ⟨done, round, rest, passed, reply, rfl, through, unaccepted, rfl⟩
      · exact .inl ⟨frame, error, by simp [lost]⟩
      · exact .inr (.inl ⟨error, by simp [lost]⟩)
      · refine .inr (.inr ⟨_ :: done, round, rest, _, reply, rfl, .next accepted through,
          unaccepted, ?_⟩)
        simp
  | @unsent _ _ _ _ frame error _ => exact .inl ⟨frame, error, by simp⟩
  | @unanswered _ _ error => exact .inr (.inl ⟨error, by simp⟩)
  | refused unaccepted => exact .inr (.inr ⟨[], _, _, [], _, rfl, .none, unaccepted, by simp⟩)

/-- **Whatever goes round by round keeps the promise of its rounds.** -/
theorem gated_of_proceeds {result : Except Failure Unit}
    (proceeds : Proceeds rounds contacts result.isOk) : Gated rounds contacts result where
  sends := sends_of_proceeds proceeds
  gate _ _ _ _ same := gate_of_proceeds proceeds same
  ok_iff := by
    constructor
    · rintro rfl
      exact passed_of_proceeds proceeds
    · intro passed
      have good := all_of_passed passed proceeds
      cases result with
      | ok => rfl
      | error => cases good
  blames failure failed := by
    rw [failed] at proceeds
    exact blamed_of_proceeds proceeds

end Rounds

/-! ## Jobs that go round by round -/

/-- However a job comes to its end, these rounds have passed, or the first of them that failed was
its last. -/
def Advances {α : Type} (files : Files) (job : Job α) (rounds : List Round) : Prop :=
  ∀ contacts result left, Yields files job contacts result left →
    Proceeds rounds contacts result.isOk

section Advancing

variable {α β : Type} {files : Files} {rounds more : List Round}

theorem advances_then {job : Job α} {next : α → Job β} (advances : Advances files job rounds)
    (onward : ∀ value left, Advances left (next value) more) :
    Advances files (job >>= next) (rounds ++ more) := by
  intro contacts result left yields
  obtain ⟨failure, rfl, lost⟩ | ⟨value, between, first, later, begun, rest, rfl⟩ :=
    yields_then yields
  · exact (advances _ _ _ lost).left
  · exact (advances _ _ _ begun).append (onward _ _ _ _ _ rest)

/-- A step without a round may come after others. -/
theorem advances_then_silent {job : Job α} {next : α → Job β} (advances : Advances files job rounds)
    (silent : ∀ value left, Advances left (next value) []) :
    Advances files (job >>= next) rounds := by
  have both := advances_then advances silent
  rwa [List.append_nil] at both

theorem advances_of_known {job : Job Unit} (known : Known files job (.ok ())) :
    Advances files job [] := by
  intro contacts result left yields
  obtain ⟨rfl, rfl, -⟩ := known _ _ _ yields
  exact .through

/-- A round of which all frames are sent accepts the replies that are judged to be good. -/
theorem proceeds_of_judged {round : Round} {judge : Bytes → Except Failure α}
    (judged : ∀ reply, (judge reply).isOk = true ↔ round.Accepts reply) (reply : Bytes) :
    Proceeds [round] (departures round.frames ++ [.received (.ok reply)]) (judge reply).isOk := by
  by_cases accepted : round.Accepts reply
  · rw [(judged reply).2 accepted]
    exact .passed accepted .through
  · rw [Bool.eq_false_iff.2 fun good => accepted ((judged reply).1 good)]
    exact .refused accepted

/-- Frames that are traded for a reply are what is left of a round. -/
theorem proceeds_of_traded {frames : List Bytes} {judge : Bytes → Except Failure α}
    {accepts : Bytes → Prop} (judged : ∀ reply, (judge reply).isOk = true ↔ accepts reply)
    {contacts : List Contact} {answer : Except Failure Bytes}
    (traded : Traded frames contacts answer) (sent : List Bytes) :
    Proceeds [⟨sent ++ frames, accepts⟩] (departures sent ++ contacts)
      (answer >>= judge).isOk := by
  induction traded generalizing sent with
  | @answered reply =>
      rw [List.append_nil]
      exact proceeds_of_judged judged reply
  | unanswered =>
      rw [List.append_nil]
      exact .unanswered
  | unsent => exact .unsent rfl
  | @sent frame frames contacts answer _ ih =>
      have shifted := ih (sent ++ [frame])
      rwa [departures, List.map_append, List.append_assoc, List.append_assoc] at shifted

theorem advances_operate {operation : Operation α} {frames : List Bytes}
    {judge : Bytes → Except Failure α} {accepts : Bytes → Prop}
    (trades : Trades operation frames judge)
    (judged : ∀ reply, (judge reply).isOk = true ↔ accepts reply) :
    Advances files (operate operation) [⟨frames, accepts⟩] := by
  intro contacts result left yields
  obtain ⟨ends, -⟩ := yields_operate yields
  obtain ⟨answer, traded, rfl⟩ := trades _ _ ends
  exact proceeds_of_traded judged traded []

end Advancing

end ControlLink.CommandLine
