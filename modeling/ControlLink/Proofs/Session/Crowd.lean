/-
# ControlLink.Proofs.Session.Crowd — callers that share a session

Any number of callers each want one operation of a session. An operation first waits until it has
the transport for itself, keeps it to its end, and then leaves it to another; one that is refused
without a word to the transport never waits for it. `Crowd.Step` interleaves the callers, the
transport and the owner of the channel in any order.

`serialized` says that nothing of this interleaving can be seen: the callers have served themselves
one after the other, in the order in which they got the transport, and each of them as if it were
alone (`Relay`). The argument is that only the caller that holds the lock is under way
(`Serial.exclusive`), so whatever is done to the transport is a step of the holder's own turn.
-/
import ControlLink.Proofs.Session.Service
import ControlLink.Proofs.Session.Turn
import ControlLink.Session.Script
import Mathlib.Data.List.Nodup
import Mathlib.Logic.Function.Basic

namespace ControlLink.Session

set_option autoImplicit false

/-- How far a caller has come. -/
inductive Stage (α : Type) where
  | idle
  /-- It waits for the transport. -/
  | waiting
  | running (rest : Procedure α) (busy : Bool)
  | ended (value : α)

/-- Callers with operations of their own, and what they share. -/
structure Crowd {ι : Type} (α : ι → Type) (σ : Type) where
  stage : (caller : ι) → Stage (α caller)
  /-- The caller that has the transport. -/
  lock : Option ι := none
  shared : Shared σ

variable {ι σ : Type} {α : ι → Type}

namespace Crowd

/-- No caller has begun. -/
def start (shared : Shared σ) : Crowd α σ where
  stage _ := .idle
  shared := shared

variable [DecidableEq ι]

/-- A caller comes to a stage. -/
def put (crowd : Crowd α σ) (caller : ι) (stage : Stage (α caller)) : Crowd α σ :=
  { crowd with stage := Function.update crowd.stage caller stage }

@[simp] theorem put_stage_self (crowd : Crowd α σ) (caller : ι) (stage : Stage (α caller)) :
    (crowd.put caller stage).stage caller = stage := Function.update_self ..

theorem put_stage_of_ne (crowd : Crowd α σ) {caller other : ι} (stage : Stage (α caller))
    (ne : other ≠ caller) : (crowd.put caller stage).stage other = crowd.stage other :=
  Function.update_of_ne ne ..

@[simp] theorem put_lock (crowd : Crowd α σ) (caller : ι) (stage : Stage (α caller)) :
    (crowd.put caller stage).lock = crowd.lock := rfl

/-- One step of one caller, of the transport, or of the owner of the channel. -/
inductive Step (medium : Medium ι σ) (program : (caller : ι) → Procedure (α caller)) :
    Crowd α σ → List (Deed ι) → Crowd α σ → Prop where
  | issue {crowd : Crowd α σ} {caller : ι} {action : Action}
      {next : Answer action → Procedure (α caller)} :
      crowd.stage caller = .idle → program caller = .ask action next →
      Step medium program crowd [] (crowd.put caller .waiting)
  /-- An operation that asks for nothing ends without the transport. -/
  | settle {crowd : Crowd α σ} {caller : ι} {value : α caller} :
      crowd.stage caller = .idle → program caller = .done value →
      Step medium program crowd [] (crowd.put caller (.ended value))
  | acquire {crowd : Crowd α σ} {caller : ι} :
      crowd.stage caller = .waiting → crowd.lock = none →
      Step medium program crowd [.acquired caller]
        { crowd.put caller (.running (program caller) false) with lock := some caller }
  | act {crowd : Crowd α σ} {caller : ι} {rest rest' : Procedure (α caller)} {busy busy' : Bool}
      {events : List Event} {shared : Shared σ} :
      crowd.stage caller = .running rest busy →
      Turn.Step medium caller ⟨rest, busy, crowd.shared⟩ events ⟨rest', busy', shared⟩ →
      Step medium program crowd (events.map (.did caller))
        { crowd.put caller (.running rest' busy') with shared }
  | release {crowd : Crowd α σ} {caller : ι} {value : α caller} :
      crowd.stage caller = .running (.done value) false →
      Step medium program crowd [] { crowd.put caller (.ended value) with lock := none }
  | stir {crowd : Crowd α σ} {deeds : List (Deed ι)} {shared : Shared σ} :
      Shared.Stir medium crowd.shared deeds shared →
      Step medium program crowd deeds { crowd with shared }

/-- Any steps in any order, with all that is seen of them. -/
inductive Run (medium : Medium ι σ) (program : (caller : ι) → Procedure (α caller))
    (first : Crowd α σ) : List (Deed ι) → Crowd α σ → Prop where
  | refl : Run medium program first [] first
  | step {crowd crowd' : Crowd α σ} {trace deeds : List (Deed ι)} :
      Run medium program first trace crowd → Step medium program crowd deeds crowd' →
      Run medium program first (trace ++ deeds) crowd'

end Crowd

/-! ## One after the other -/

/-- An operation that has come to its end, with what was seen while it had the transport. -/
structure Served (ι : Type) (α : ι → Type) where
  caller : ι
  deeds : List (Deed ι)
  value : α caller

/-- Operations one after the other, each of them alone with the transport as it finds it. -/
inductive Relay (medium : Medium ι σ) (program : (caller : ι) → Procedure (α caller))
    (first : Shared σ) : List (Served ι α) → List (Deed ι) → Shared σ → Prop where
  | start : Relay medium program first [] [] first
  | stir {served : List (Served ι α)} {trace deeds : List (Deed ι)} {shared shared' : Shared σ} :
      Relay medium program first served trace shared → Shared.Stir medium shared deeds shared' →
      Relay medium program first served (trace ++ deeds) shared'
  | turn {served : List (Served ι α)} {trace : List (Deed ι)} {shared shared' : Shared σ}
      (one : Served ι α) : Relay medium program first served trace shared →
      Turn.Run medium one.caller ⟨program one.caller, false, shared⟩ one.deeds
        ⟨.done one.value, false, shared'⟩ →
      Relay medium program first (served ++ [one]) (trace ++ .acquired one.caller :: one.deeds)
        shared'

/-- What the caller that has the transport, if there is one, has done so far: its own operation
alone, with the transport as it was left to it. -/
def Crowd.Alone (medium : Medium ι σ) (program : (caller : ι) → Procedure (α caller))
    (crowd : Crowd α σ) (left : Shared σ) (deeds : List (Deed ι)) : Prop :=
  match crowd.lock with
  | none => deeds = [] ∧ crowd.shared = left
  | some caller => ∃ rest busy own, crowd.stage caller = .running rest busy ∧
      deeds = .acquired caller :: own ∧
      Turn.Run medium caller ⟨program caller, false, left⟩ own ⟨rest, busy, crowd.shared⟩

/-- The caller that gets the transport. -/
def Deed.winner? : Deed ι → Option ι
  | .acquired caller => some caller
  | _ => none

/-- The caller that does something. -/
def Deed.doer? : Deed ι → Option ι
  | .did caller _ => some caller
  | _ => none

/-- Nobody comes between two deeds of another. -/
def Contiguous (doers : List ι) : Prop := ∀ one other, [one, other, one].Sublist doers → other = one

section Interleaving

variable {medium : Medium ι σ} {program : (caller : ι) → Procedure (α caller)}
  {first left : Shared σ} {crowd crowd' : Crowd α σ} {served : List (Served ι α)}
  {trace deeds more : List (Deed ι)} {caller : ι}

/-- The callers of a crowd have served themselves one after the other. -/
structure Serial (medium : Medium ι σ) (program : (caller : ι) → Procedure (α caller))
    (first : Shared σ) (crowd : Crowd α σ) (served : List (Served ι α)) (trace : List (Deed ι))
    (left : Shared σ) (deeds : List (Deed ι)) : Prop where
  relay : Relay medium program first served trace left
  alone : crowd.Alone medium program left deeds
  exclusive : ∀ caller rest busy, crowd.stage caller = .running rest busy →
    crowd.lock = some caller
  ended : ∀ one ∈ served, crowd.stage one.caller = .ended one.value
  accounted : ∀ caller value, crowd.stage caller = .ended value →
    program caller = .done value ∨ ∃ deeds, ⟨caller, deeds, value⟩ ∈ served
  nodup : (served.map Served.caller).Nodup

namespace Serial

theorem start : Serial medium program first (Crowd.start first : Crowd α σ) [] [] first [] where
  relay := .start
  alone := ⟨rfl, rfl⟩
  exclusive _ _ _ running := nomatch running
  ended _ member := nomatch member
  accounted _ _ ended := nomatch ended
  nodup := .nil

theorem left_of_free (serial : Serial medium program first crowd served trace left deeds)
    (free : crowd.lock = none) : deeds = [] ∧ crowd.shared = left := by
  have alone := serial.alone
  rwa [Crowd.Alone, free] at alone

theorem running_of_lock (serial : Serial medium program first crowd served trace left deeds)
    (held : crowd.lock = some caller) :
    ∃ rest busy own, crowd.stage caller = .running rest busy ∧ deeds = .acquired caller :: own ∧
      Turn.Run medium caller ⟨program caller, false, left⟩ own ⟨rest, busy, crowd.shared⟩ := by
  have alone := serial.alone
  rwa [Crowd.Alone, held] at alone

theorem not_served (serial : Serial medium program first crowd served trace left deeds)
    (going : ∀ value, crowd.stage caller ≠ .ended value) : caller ∉ served.map Served.caller := by
  intro member
  obtain ⟨one, inside, rfl⟩ := List.mem_map.1 member
  exact going one.value (serial.ended one inside)

/-- What happens without the callers happens to the holder, or between two turns. -/
theorem stir (serial : Serial medium program first crowd served trace left deeds)
    {shared : Shared σ} (stirred : Shared.Stir medium crowd.shared more shared) :
    ∃ trace' left' deeds', trace' ++ deeds' = trace ++ deeds ++ more ∧
      Serial medium program first { crowd with shared } served trace' left' deeds' := by
  rcases Option.eq_none_or_eq_some crowd.lock with free | ⟨holder, held⟩
  · obtain ⟨rfl, rfl⟩ := serial.left_of_free free
    refine ⟨trace ++ more, shared, [], by simp, serial.relay.stir stirred, ?_, serial.exclusive,
      serial.ended, serial.accounted, serial.nodup⟩
    simp only [Crowd.Alone, free, and_self]
  · obtain ⟨rest, busy, own, running, rfl, run⟩ := serial.running_of_lock held
    refine ⟨trace, left, .acquired holder :: (own ++ more), by simp, serial.relay, ?_,
      serial.exclusive, serial.ended, serial.accounted, serial.nodup⟩
    simp only [Crowd.Alone, held]
    exact ⟨rest, busy, own ++ more, running, rfl, run.stir stirred⟩

variable [DecidableEq ι]

/-- One caller moves on to another stage. -/
theorem move (serial : Serial medium program first crowd served trace left deeds)
    {served' : List (Served ι α)} {trace' deeds' : List (Deed ι)} {left' : Shared σ}
    {stage : Stage (α caller)} (fresh : caller ∉ served.map Served.caller)
    (stage_eq : crowd'.stage = (crowd.put caller stage).stage)
    (holder : ∀ other, other ≠ caller → crowd.lock = some other → crowd'.lock = some other)
    (holds : ∀ rest busy, stage = .running rest busy → crowd'.lock = some caller)
    (more : served ⊆ served')
    (ended : ∀ one ∈ served', one ∈ served ∨ crowd'.stage one.caller = .ended one.value)
    (accounted : ∀ value, stage = .ended value →
      program caller = .done value ∨ ∃ deeds, ⟨caller, deeds, value⟩ ∈ served')
    (relay : Relay medium program first served' trace' left')
    (alone : crowd'.Alone medium program left' deeds')
    (nodup : (served'.map Served.caller).Nodup) :
    Serial medium program first crowd' served' trace' left' deeds' := by
  have itself : crowd'.stage caller = stage := by rw [stage_eq, Crowd.put_stage_self]
  have others (other : ι) (ne : other ≠ caller) : crowd'.stage other = crowd.stage other := by
    rw [stage_eq, Crowd.put_stage_of_ne crowd stage ne]
  refine ⟨relay, alone, ?_, ?_, ?_, nodup⟩
  · intro other rest busy running
    by_cases same : other = caller
    · subst same
      exact holds rest busy (itself.symm.trans running)
    · rw [others other same] at running
      exact holder other same (serial.exclusive other rest busy running)
  · intro one member
    rcases ended one member with before | now
    · have ne : one.caller ≠ caller := fun same => fresh (same ▸ List.mem_map_of_mem before)
      rw [others one.caller ne, serial.ended one before]
    · exact now
  · intro other value finished
    by_cases same : other = caller
    · subst same
      exact accounted value (itself.symm.trans finished)
    · rw [others other same] at finished
      exact (serial.accounted other value finished).imp id fun ⟨deeds, member⟩ =>
        ⟨deeds, more member⟩

/-- A caller that has not begun does something that needs no transport. -/
theorem put (serial : Serial medium program first crowd served trace left deeds)
    (idle : crowd.stage caller = .idle) {stage : Stage (α caller)}
    (halted : ∀ rest busy, stage ≠ .running rest busy)
    (refused : ∀ value, stage = .ended value → program caller = .done value) :
    Serial medium program first (crowd.put caller stage) served trace left deeds := by
  have alone : (crowd.put caller stage).Alone medium program left deeds := by
    unfold Crowd.Alone
    rw [Crowd.put_lock]
    cases held : crowd.lock with
    | none =>
        have alone := serial.alone
        rw [Crowd.Alone, held] at alone
        exact alone
    | some holder =>
        obtain ⟨rest, busy, own, running, same, run⟩ := serial.running_of_lock held
        have ne : holder ≠ caller := by
          rintro rfl
          rw [idle] at running
          cases running
        exact ⟨rest, busy, own, by rw [Crowd.put_stage_of_ne crowd stage ne, running], same, run⟩
  exact serial.move (serial.not_served (by simp [idle])) rfl (fun _ _ held => held)
    (fun rest busy running => absurd running (halted rest busy)) (List.Subset.refl served)
    (fun _ member => .inl member) (fun value finished => .inl (refused value finished))
    serial.relay alone serial.nodup

theorem acquire (serial : Serial medium program first crowd served trace left deeds)
    (waits : crowd.stage caller = .waiting) (free : crowd.lock = none) :
    Serial medium program first
      { crowd.put caller (.running (program caller) false) with lock := some caller }
      served trace left (deeds ++ [.acquired caller]) := by
  obtain ⟨rfl, rfl⟩ := serial.left_of_free free
  refine serial.move (serial.not_served (by simp [waits])) rfl ?_ (fun _ _ _ => rfl)
    (List.Subset.refl served) (fun _ member => .inl member) nofun serial.relay ?_ serial.nodup
  · intro other _ held
    rw [free] at held
    cases held
  · exact ⟨_, _, [], Crowd.put_stage_self .., rfl, .refl⟩

theorem act (serial : Serial medium program first crowd served trace left deeds)
    {rest rest' : Procedure (α caller)} {busy busy' : Bool} {events : List Event}
    {shared : Shared σ} (running : crowd.stage caller = .running rest busy)
    (step : Turn.Step medium caller ⟨rest, busy, crowd.shared⟩ events ⟨rest', busy', shared⟩) :
    Serial medium program first { crowd.put caller (.running rest' busy') with shared }
      served trace left (deeds ++ events.map (.did caller)) := by
  have held := serial.exclusive caller rest busy running
  obtain ⟨_, _, own, same, rfl, run⟩ := serial.running_of_lock held
  cases running.symm.trans same
  refine serial.move (serial.not_served (by simp [running])) rfl (fun _ _ held => held)
    (fun _ _ _ => held) (List.Subset.refl served) (fun _ member => .inl member) nofun
    serial.relay ?_ serial.nodup
  rw [Crowd.Alone]
  simp only [Crowd.put_lock, held]
  exact ⟨rest', busy', _, Crowd.put_stage_self .., rfl, run.step step⟩

theorem release (serial : Serial medium program first crowd served trace left deeds)
    {value : α caller} (running : crowd.stage caller = .running (.done value) false) :
    ∃ own, Serial medium program first { crowd.put caller (.ended value) with lock := none }
      (served ++ [⟨caller, own, value⟩]) (trace ++ deeds) crowd.shared [] := by
  have held := serial.exclusive caller _ _ running
  obtain ⟨_, _, own, same, rfl, run⟩ := serial.running_of_lock held
  cases running.symm.trans same
  have fresh : caller ∉ served.map Served.caller := serial.not_served (by simp [running])
  refine ⟨own, serial.move fresh rfl ?_ nofun (List.subset_append_left ..) ?_ ?_
    (serial.relay.turn ⟨caller, own, value⟩ run) ⟨rfl, rfl⟩ ?_⟩
  · intro other ne held'
    exact absurd (Option.some.inj (held'.symm.trans held)) ne
  · intro one member
    rcases List.mem_append.1 member with before | now
    · exact .inl before
    · cases List.mem_singleton.1 now
      exact .inr (Crowd.put_stage_self ..)
  · rintro _ ⟨⟩
    exact .inr ⟨own, by simp⟩
  · rw [List.map_append, List.nodup_append]
    refine ⟨serial.nodup, List.nodup_singleton _, ?_⟩
    rintro other before _ now rfl
    cases List.mem_singleton.1 now
    exact fresh before

/-- What a step of a crowd preserves. -/
theorem step (serial : Serial medium program first crowd served trace left deeds)
    (step : Crowd.Step medium program crowd more crowd') :
    ∃ served' trace' left' deeds', trace' ++ deeds' = trace ++ deeds ++ more ∧
      Serial medium program first crowd' served' trace' left' deeds' := by
  cases step with
  | issue idle asks =>
      exact ⟨served, trace, left, deeds, by simp, serial.put idle nofun nofun⟩
  | settle idle done =>
      refine ⟨served, trace, left, deeds, by simp, serial.put idle nofun ?_⟩
      rintro _ ⟨⟩
      exact done
  | acquire waits free =>
      exact ⟨served, trace, left, _, (List.append_assoc ..).symm, serial.acquire waits free⟩
  | act running step =>
      exact ⟨served, trace, left, _, (List.append_assoc ..).symm, serial.act running step⟩
  | release running =>
      obtain ⟨own, serial'⟩ := serial.release running
      exact ⟨_, _, _, _, by simp, serial'⟩
  | stir stirred =>
      obtain ⟨trace', left', deeds', same, serial'⟩ := serial.stir stirred
      exact ⟨served, trace', left', deeds', same, serial'⟩

theorem of_run (run : Crowd.Run medium program (.start first) trace crowd) :
    ∃ served before left deeds, trace = before ++ deeds ∧
      Serial medium program first crowd served before left deeds := by
  induction run with
  | refl => exact ⟨[], [], first, [], rfl, .start⟩
  | step _ step ih =>
      obtain ⟨served, before, left, deeds, rfl, serial⟩ := ih
      obtain ⟨served', before', left', deeds', same, serial'⟩ := serial.step step
      exact ⟨served', before', left', deeds', same.symm, serial'⟩

end Serial

/-! ## What is seen of a relay -/

/-- Whoever joins for the first time comes behind all others. -/
theorem contiguous_append {before own : List ι} (contiguous : Contiguous before)
    (fresh : caller ∉ before) (same : ∀ doer ∈ own, doer = caller) :
    Contiguous (before ++ own) := by
  intro one other inside
  obtain ⟨front, back, split, inBefore, inOwn⟩ := List.sublist_append_iff.1 inside
  cases front with
  | nil =>
      rw [List.nil_append] at split
      subst split
      rw [same one (inOwn.subset (by simp)), same other (inOwn.subset (by simp))]
  | cons head front =>
      obtain ⟨rfl, rest⟩ := List.cons.inj split
      have earlier : one ∈ before := inBefore.subset (by simp)
      rcases List.eq_nil_or_concat back with rfl | ⟨back, last, rfl⟩
      · have whole : front = [other, one] := by simpa using rest.symm
        subst whole
        exact contiguous one other inBefore
      · have last_eq : last = one := by
          have ends := congrArg List.getLast? rest
          simpa using ends.symm
        have own_one : one = caller := same one (inOwn.subset (by simp [last_eq]))
        exact absurd (own_one ▸ earlier) fresh

theorem doers_of_stir {shared shared' : Shared σ}
    (stirred : Shared.Stir medium shared deeds shared') :
    deeds.filterMap Deed.doer? = [] ∧ deeds.filterMap Deed.winner? = [] := by
  cases stirred <;> exact ⟨rfl, rfl⟩

theorem doers_of_did (caller : ι) (events : List Event) :
    (events.map (Deed.did caller)).filterMap Deed.doer? = events.map (fun _ => caller) ∧
      (events.map (Deed.did caller)).filterMap Deed.winner? = [] := by
  rw [List.filterMap_map, List.filterMap_map]
  constructor
  · rw [← List.filterMap_eq_map]
    rfl
  · exact List.filterMap_eq_nil_iff.2 fun _ _ => rfl

/-- All that is done in a turn is done by its caller. -/
theorem doers_of_turn {β : Type} {turn turn' : Turn β σ}
    (run : Turn.Run medium caller turn deeds turn') :
    (∀ doer ∈ deeds.filterMap Deed.doer?, doer = caller) ∧ deeds.filterMap Deed.winner? = [] := by
  induction run with
  | refl => exact ⟨nofun, rfl⟩
  | @step _ _ _ events _ _ ih =>
      obtain ⟨did, won⟩ := doers_of_did caller events
      rw [List.filterMap_append, List.filterMap_append, did, won, ih.2]
      refine ⟨fun doer member => ?_, rfl⟩
      rcases List.mem_append.1 member with before | now
      · exact ih.1 doer before
      · obtain ⟨_, _, rfl⟩ := List.mem_map.1 now
        rfl
  | stir _ stirred ih =>
      obtain ⟨did, won⟩ := doers_of_stir stirred
      rwa [List.filterMap_append, List.filterMap_append, did, won, List.append_nil,
        List.append_nil]

theorem winners_of_relay (relay : Relay medium program first served trace left) :
    trace.filterMap Deed.winner? = served.map Served.caller := by
  induction relay with
  | start => rfl
  | stir _ stirred ih =>
      rw [List.filterMap_append, (doers_of_stir stirred).2, List.append_nil, ih]
  | turn one _ run ih =>
      rw [List.filterMap_append, ih, List.map_append,
        List.filterMap_cons_some (show Deed.winner? (.acquired one.caller) = _ from rfl),
        (doers_of_turn run).2]
      rfl

/-- In a relay nobody comes between two deeds of another, and only those act that are served. -/
theorem doers_of_relay (relay : Relay medium program first served trace left)
    (nodup : (served.map Served.caller).Nodup) :
    Contiguous (trace.filterMap Deed.doer?) ∧
      ∀ doer ∈ trace.filterMap Deed.doer?, doer ∈ served.map Served.caller := by
  induction relay with
  | start => exact ⟨nofun, nofun⟩
  | stir _ stirred ih =>
      rw [List.filterMap_append, (doers_of_stir stirred).1, List.append_nil]
      exact ih nodup
  | @turn served trace _ _ one _ run ih =>
      rw [List.map_append, List.nodup_append] at nodup
      obtain ⟨before, -, apart⟩ := nodup
      obtain ⟨contiguous, inside⟩ := ih before
      have doers : (trace ++ .acquired one.caller :: one.deeds).filterMap Deed.doer? =
          trace.filterMap Deed.doer? ++ one.deeds.filterMap Deed.doer? := List.filterMap_append
      rw [doers, List.map_append]
      refine ⟨contiguous_append contiguous ?_ (doers_of_turn run).1, ?_⟩
      · intro member
        exact apart _ (inside _ member) _ (by simp) rfl
      · intro doer member
        rcases List.mem_append.1 member with earlier | now
        · exact List.mem_append_left _ (inside doer earlier)
        · rw [(doers_of_turn run).1 doer now]
          exact List.mem_append_right _ (by simp)

namespace Serial

theorem not_served_of_lock (serial : Serial medium program first crowd served trace left deeds)
    (held : crowd.lock = some caller) : caller ∉ served.map Served.caller := by
  obtain ⟨rest, busy, -, running, -, -⟩ := serial.running_of_lock held
  exact serial.not_served (by simp [running])

/-- The transport went from one served caller to the next and then to its holder. -/
theorem winners (serial : Serial medium program first crowd served trace left deeds) :
    (trace ++ deeds).filterMap Deed.winner? = served.map Served.caller ++ crowd.lock.toList := by
  rw [List.filterMap_append, winners_of_relay serial.relay]
  rcases Option.eq_none_or_eq_some crowd.lock with free | ⟨holder, held⟩
  · rw [(serial.left_of_free free).1, free]
    rfl
  · obtain ⟨rest, busy, own, -, rfl, run⟩ := serial.running_of_lock held
    rw [List.filterMap_cons_some (show Deed.winner? (.acquired holder) = _ from rfl),
      (doers_of_turn run).2, held]
    rfl

theorem nodup_winners (serial : Serial medium program first crowd served trace left deeds) :
    ((trace ++ deeds).filterMap Deed.winner?).Nodup := by
  rw [serial.winners]
  rcases Option.eq_none_or_eq_some crowd.lock with free | ⟨holder, held⟩
  · rw [free, Option.toList_none, List.append_nil]
    exact serial.nodup
  · rw [held, Option.toList_some, List.nodup_append]
    refine ⟨serial.nodup, List.nodup_singleton _, ?_⟩
    rintro other before _ now rfl
    cases List.mem_singleton.1 now
    exact serial.not_served_of_lock held before

theorem contiguous (serial : Serial medium program first crowd served trace left deeds) :
    Contiguous ((trace ++ deeds).filterMap Deed.doer?) := by
  obtain ⟨before, inside⟩ := doers_of_relay serial.relay serial.nodup
  rw [List.filterMap_append]
  rcases Option.eq_none_or_eq_some crowd.lock with free | ⟨holder, held⟩
  · rw [(serial.left_of_free free).1, List.filterMap_nil, List.append_nil]
    exact before
  · obtain ⟨rest, busy, own, -, rfl, run⟩ := serial.running_of_lock held
    have fresh := serial.not_served_of_lock held
    exact contiguous_append before (fun member => fresh (inside holder member))
      (doers_of_turn run).1

end Serial

/-! ## Channels serve crowds -/

namespace Crowd

variable [DecidableEq ι]

/-- A holder may go through its turn while all others wait. -/
theorem Run.turn {origin : Crowd α σ} {begins ends : Turn (α caller) σ}
    (run : Run medium program origin trace
      { crowd.put caller (.running begins.rest begins.busy) with
        lock := some caller, shared := begins.shared })
    (turn : Turn.Run medium caller begins deeds ends) :
    Run medium program origin (trace ++ deeds)
      { crowd.put caller (.running ends.rest ends.busy) with
        lock := some caller, shared := ends.shared } := by
  induction turn with
  | refl => rwa [List.append_nil]
  | @step middle ends deeds events _ step ih =>
      have next := ih.step (.act (put_stage_self crowd caller _) step)
      rw [List.append_assoc] at next
      simp only [put, Function.update_idem] at next
      exact next
  | stir _ stirred ih =>
      have next := ih.step (.stir stirred)
      rwa [List.append_assoc] at next

/-- A caller that has not begun may wait for the transport. -/
theorem Run.issue {origin : Crowd α σ} (run : Run medium program origin trace crowd) (caller : ι)
    {action : Action} {next : Answer action → Procedure (α caller)}
    (idle : crowd.stage caller = .idle) (asks : program caller = .ask action next) :
    Run medium program origin trace (crowd.put caller .waiting) := by
  have waiting := run.step (.issue idle asks)
  rwa [List.append_nil] at waiting

/-- A caller that waits for the transport may get it and keep it to its end. -/
theorem Run.attend {origin : Crowd α σ} {value : α caller} {shared : Shared σ}
    (run : Run medium program origin trace crowd) (waits : crowd.stage caller = .waiting)
    (free : crowd.lock = none)
    (turn : Turn.Run medium caller ⟨program caller, false, crowd.shared⟩ deeds
      ⟨.done value, false, shared⟩) :
    Run medium program origin (trace ++ .acquired caller :: deeds)
      { crowd.put caller (.ended value) with shared } := by
  have acquired := run.step (.acquire waits free)
  have served := (Run.turn acquired turn).step (.release (put_stage_self crowd caller _))
  rw [List.append_nil, List.append_assoc] at served
  simp only [put, Function.update_idem, free] at served ⊢
  exact served

/-- A caller may be served from the first moment to the last while all others wait. -/
theorem Run.serve {origin : Crowd α σ} {action : Action}
    {next : Answer action → Procedure (α caller)} {value : α caller} {shared : Shared σ}
    (run : Run medium program origin trace crowd) (idle : crowd.stage caller = .idle)
    (free : crowd.lock = none) (asks : program caller = .ask action next)
    (turn : Turn.Run medium caller ⟨program caller, false, crowd.shared⟩ deeds
      ⟨.done value, false, shared⟩) :
    Run medium program origin (trace ++ .acquired caller :: deeds)
      { crowd.put caller (.ended value) with shared } := by
  have waiting := run.issue caller idle asks
  have served := waiting.attend (put_stage_self crowd caller _) free turn
  simp only [put, Function.update_idem] at served ⊢
  exact served

/-- What a channel does for a caller, a crowd may do for one of its callers. -/
theorem Run.channel {τ : Type} [Transport τ] (channel : Channel τ)
    {crowd origin : Crowd α (Underway τ)} (caller : ι) {action : Action}
    {next : Answer action → Procedure (α caller)} {value : α caller}
    (run : Run (Medium.ofTransport ι τ channel.timeout) program origin trace crowd)
    (shared : crowd.shared = channel.shared) (idle : crowd.stage caller = .idle)
    (free : crowd.lock = none) (asks : program caller = .ask action next)
    (ends : (channel.run (program caller)).1 = some value) :
    ∃ trace, Run (Medium.ofTransport ι τ channel.timeout) program origin trace
      { crowd.put caller (.ended value) with
        shared := (channel.run (program caller)).2.shared } := by
  obtain ⟨deeds, -, turn⟩ := Channel.run_of_channel_run caller (Prod.ext ends rfl)
  rw [← shared] at turn
  exact ⟨_, run.serve idle free asks turn⟩

end Crowd

/-! ## The interleaving cannot be seen -/

/-- **Callers are served one after the other.** Whatever the callers, the transport and the owner of
the channel do in whatever order, all that is seen is a relay: the operations that have come to an
end, in the order in which they got the transport and with their own results, each of them alone
with the transport as the one before left it; and then what the caller that has the transport has
done so far. -/
theorem serialized [DecidableEq ι] (device : String) (service : ι → Service) {trace : List (Deed ι)}
    {crowd : Crowd (fun caller => Except Failure (service caller).Value) σ}
    (run : Crowd.Run medium (fun caller => (service caller).procedure device) (.start first)
      trace crowd) :
    ∃ served before left deeds,
      Relay medium (fun caller => (service caller).procedure device) first served before left ∧
      crowd.Alone medium (fun caller => (service caller).procedure device) left deeds ∧
      trace = before ++ deeds ∧
      trace.filterMap Deed.winner? = served.map Served.caller ++ crowd.lock.toList ∧
      (trace.filterMap Deed.winner?).Nodup ∧
      Contiguous (trace.filterMap Deed.doer?) ∧
      (∀ one ∈ served, crowd.stage one.caller = .ended one.value) ∧
      ∀ caller value, crowd.stage caller = .ended value →
        (service caller).procedure device = .done value ∨
          ∃ deeds, ⟨caller, deeds, value⟩ ∈ served := by
  obtain ⟨served, before, left, deeds, rfl, serial⟩ := Serial.of_run run
  exact ⟨served, before, left, deeds, serial.relay, serial.alone, rfl, serial.winners,
    serial.nodup_winners, serial.contiguous, serial.ended, serial.accounted⟩

end Interleaving

/-- A channel to a device that acknowledges two commands. -/
def obliging : Channel Script :=
  { transport := { incoming := [⟨some 0, .ok Wire.Response.ok.encode⟩,
      ⟨some 0, .ok Wire.Response.ok.encode⟩] } }

/-- Two callers that are both served on such a channel are so one after the other. -/
theorem serialized_obliging :
    ∃ (trace : List (Deed Bool)) (crowd : Crowd (fun _ => Except Failure Unit) (Underway Script)),
      Crowd.Run (Medium.ofTransport Bool Script none)
        (fun _ => Service.commitConfig.procedure "device") (.start obliging.shared) trace crowd ∧
      (∀ caller, crowd.stage caller = .ended (.ok ())) ∧
      (trace.filterMap Deed.winner?).Nodup ∧ Contiguous (trace.filterMap Deed.doer?) := by
  have start : Crowd.Run (Medium.ofTransport Bool Script none)
      (fun _ => Service.commitConfig.procedure "device") (.start obliging.shared) []
      (.start obliging.shared) := .refl
  let between := (obliging.run (Service.commitConfig.procedure "device")).2
  obtain ⟨_, once⟩ := Crowd.Run.channel obliging true start rfl rfl rfl rfl rfl
  obtain ⟨_, twice⟩ := Crowd.Run.channel between false once rfl rfl rfl rfl rfl
  obtain ⟨_, _, _, _, -, -, -, -, nodup, contiguous, -⟩ :=
    serialized "device" (fun _ => .commitConfig) twice
  refine ⟨_, _, twice, ?_, nodup, contiguous⟩
  rintro (_ | _) <;> rfl

end ControlLink.Session
