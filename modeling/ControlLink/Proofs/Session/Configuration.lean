/-
# ControlLink.Proofs.Session.Configuration — the configuration read and written, frame by frame

A read sends one frame and then only receives: a header, and the blocks that it announces. A write
sends its header and its blocks and then receives one frame, the verdict. `ReadContract` and
`WriteContract` say what comes of that in contacts and results alone, without the transfers that the
operations keep.

`read_sequence` and `write_sequence` say that every run keeps its contract, on any channel and
whenever that closes. A run that never ends is the beginning of contacts that keep it.
-/
import ControlLink.Proofs.Device.Store
import ControlLink.Proofs.Session.Update

namespace ControlLink.Session

set_option autoImplicit false

open Wire Transfer

/-! ## Contacts one after another -/

/-- Frames that are sent one after another. -/
def departures (frames : List Bytes) : List Contact := frames.map fun frame => .sent frame (.ok ())

/-- What is not in the first part of a list stands behind it. -/
theorem split_behind {α : Type} {quiet tail before after : List α} {item : α}
    (outside : item ∉ quiet) (same : quiet ++ tail = before ++ item :: after) :
    ∃ between, before = quiet ++ between ∧ tail = between ++ item :: after := by
  obtain ⟨between, rfl, rfl⟩ | ⟨early, rfl, later⟩ := List.append_eq_append_iff.1 same
  · exact ⟨between, rfl, rfl⟩
  cases early with
  | nil => exact ⟨[], by simp, by simpa using later.symm⟩
  | cons first early =>
      -- The item would stand in the first part.
      obtain ⟨rfl, -⟩ := List.cons.inj later
      exact absurd (List.mem_append_right _ List.mem_cons_self) outside

section Contacts

variable {frames : List Bytes} {before after : List Contact} {answer : Except LinkError Bytes}
  {error : LinkError}

theorem attempts_departures (frames : List Bytes) : attempts (departures frames) = frames := by
  induction frames with
  | nil => rfl
  | cons frame frames ih => exact congrArg (frame :: ·) ih

theorem arrivals_inj {others : List Bytes} (same : arrivals frames = arrivals others) :
    frames = others := by
  have apart (frame other : Bytes)
      (same : Contact.received (.ok frame) = .received (.ok other)) : frame = other := by
    cases same
    rfl
  exact (List.map_inj_right apart).1 same

theorem attempts_arrivals (frames : List Bytes) : attempts (arrivals frames) = [] := by
  induction frames with
  | nil => rfl
  | cons frame frames ih => exact ih

@[simp] theorem received_notMem_departures : .received answer ∉ departures frames := by
  simp [departures]

@[simp] theorem unsent_notMem_departures {frame : Bytes} :
    .sent frame (.error error) ∉ departures frames := by
  simp [departures]

@[simp] theorem lost_notMem_arrivals : .received (.error error) ∉ arrivals frames := by
  simp [arrivals]

@[simp] theorem mem_silence {contact : Contact} :
    contact ∈ silence error ↔
      contact = .received (.error error) ∨ error = .timedOut ∧ contact = .closed := by
  cases error <;> simp [silence]

/-- A frame that does not come is the only one that is asked for, and the channel may close then. -/
theorem split_silence {quiet : List Contact} (outside : .received answer ∉ quiet)
    (same : quiet ++ silence error = before ++ .received answer :: after) :
    before = quiet ∧ answer = .error error ∧ ∀ contact ∈ after, contact = .closed := by
  obtain ⟨between, rfl, tail⟩ := split_behind outside same
  have alone : between = [] ∧ answer = .error error ∧ ∀ contact ∈ after, contact = .closed := by
    cases between with
    | nil => cases error <;> cases tail <;> simp
    | cons first between => cases error <;> simp [silence, List.cons_eq_append_iff] at tail
  obtain ⟨rfl, rest⟩ := alone
  exact ⟨List.append_nil _, rest⟩

end Contacts

/-! ## Reads -/

/-- As many frames as a header announces blocks, which are at most 64, and none of them too long for
a block. -/
def Announces (header : Bytes) (frames : List Bytes) : Prop :=
  ∃ blocks, Response.decode header = .ok (.config blocks) ∧ blocks.toNat ≤ 64 ∧
    frames.length = blocks.toNat ∧ ∀ frame ∈ frames, frame.length ≤ 64

/-- The contacts in which a read takes a header and these frames. -/
def takings (header : Bytes) (frames : List Bytes) : List Contact :=
  .sent [0x72] (.ok ()) :: arrivals (header :: frames)

/-- What a read of the configuration promises of its contacts and its result. -/
structure ReadContract (contacts : List Contact) (result : Except Failure Bytes) : Prop where
  /-- It attempts to send one frame, and no other. -/
  asks : attempts contacts = [[0x72]]
  /-- It succeeds exactly if this is sent and a header and all that it announces are received. The
  payload is what the frames carry up to the first byte that is zero or above 0xF4. -/
  ok_iff : ∀ payload, result = .ok payload ↔
    ∃ header frames, Announces header frames ∧ takings header frames <+: contacts ∧
      payload = (frames.flatMap (Bytes.padTo 64)).takeWhile fun byte => byte != 0 && byte ≤ 0xF4
  /-- Then there is nothing else that it receives. -/
  whole : ∀ header frames, Announces header frames → takings header frames <+: contacts →
    contacts = takings header frames
  /-- It fails only if its frame cannot be sent, a frame does not come, the answer is no header of a
  configuration that fits, or a frame is too long for a block. -/
  blames : ∀ failure, result = .error failure →
    (∃ error, contacts = [.sent [0x72] (.error error)]) ∨
    (∃ error, .received (.error error) ∈ contacts) ∨
    (∃ header, contacts = takings header [] ∧
      ∀ blocks, Response.decode header = .ok (.config blocks) → 64 < blocks.toNat) ∨
    ∃ header frames frame, contacts = takings header (frames ++ [frame]) ∧ 64 < frame.length
  /-- If a frame does not come, that is its result, whatever came before, and it receives nothing
  more. -/
  fails : ∀ before error after, contacts = before ++ .received (.error error) :: after →
    result = .error (.connectivity error) ∧ ∀ contact ∈ after, contact = .closed

section Reads

variable {contacts : List Contact} {result : Except Failure Bytes}

/-- A read begins with its frame and sends no other. -/
theorem begins_of_collected (collected : Collected contacts result) :
    ∃ answer rest, contacts = .sent [0x72] answer :: rest ∧ attempts rest = [] := by
  cases collected with
  | unsent => exact ⟨_, _, rfl, rfl⟩
  | unanswered => exact ⟨_, _, rfl, attempts_silence _⟩
  | refused _ => exact ⟨_, _, rfl, rfl⟩
  | @broken header _ frames last _ _ _ _ missed =>
      have silent : attempts last = [] := by
        cases missed with
        | silent => exact attempts_silence _
        | oversize => rfl
      refine ⟨_, arrivals (header :: frames) ++ last, rfl, ?_⟩
      rw [attempts_append, attempts_arrivals, silent, List.nil_append]
  | whole => exact ⟨_, _, rfl, attempts_arrivals _⟩

/-- Whatever a read has done, it has attempted to send its frame. -/
theorem asked_of_collected {more : List Contact} (collected : Collected (contacts ++ more) result)
    (some_done : contacts ≠ []) : attempts contacts = [[0x72]] := by
  obtain ⟨answer, rest, same, silent⟩ := begins_of_collected collected
  cases contacts with
  | nil => exact absurd rfl some_done
  | cons first others =>
      obtain ⟨rfl, tail⟩ := List.cons.inj same
      have both : attempts (others ++ more) = [] := (congrArg attempts tail).trans silent
      rw [attempts_append, List.append_eq_nil_iff] at both
      exact congrArg ([0x72] :: ·) both.1

/-- A row of blocks that ends early does not begin with a longer row. -/
theorem arrivals_ne_of_missed {frames others : List Bytes} {more last : List Contact}
    {failure : Failure} (early : others.length < frames.length)
    (small : ∀ frame ∈ frames, frame.length ≤ blockSize) (missed : Missed last failure) :
    arrivals frames ++ more ≠ arrivals others ++ last := by
  intro same
  induction frames generalizing others with
  | nil => cases early
  | cons frame frames ih =>
      obtain ⟨fits, small⟩ := List.forall_mem_cons.1 small
      cases others with
      | nil =>
          have next : .received (.ok frame) :: (arrivals frames ++ more) = last := same
          cases missed with
          | @silent error => cases error <;> cases next
          | oversize long =>
              cases (List.cons.inj next).1
              omega
      | cons other others =>
          exact ih (Nat.lt_of_succ_lt_succ early) small (List.cons.inj same).2

/-- A read that has taken all that was announced takes no more and succeeds. -/
theorem complete_of_collected {header : Bytes} {frames : List Bytes} {more : List Contact}
    (announces : Announces header frames)
    (collected : Collected (takings header frames ++ more) result) :
    more = [] ∧
      result = .ok (payloadOf (frames.flatMap fun frame => (Block.ofBytes frame).bytes)) := by
  obtain ⟨blocks, decoded, fits, full, small⟩ := announces
  have announced : ReadTransfer.announced header = .ok ⟨blocks.toNat, fits⟩ :=
    ReadTransfer.announced_eq_ok_iff.2 ⟨blocks, decoded, rfl⟩
  have shape : takings header frames ++ more =
      .sent [0x72] (.ok ()) :: .received (.ok header) :: (arrivals frames ++ more) := rfl
  generalize takings header frames ++ more = contacts at collected shape
  cases collected with
  | unsent => cases shape
  | @unanswered error => cases error <;> cases shape
  | refused refused =>
      cases (List.cons.inj (List.tail_eq_of_cons_eq shape)).1
      rw [refused] at announced
      cases announced
  | broken announced' early _ missed =>
      obtain ⟨equal, behind⟩ := List.cons.inj (List.tail_eq_of_cons_eq shape)
      cases equal
      cases announced'.symm.trans announced
      -- What ended the row early would be one of the frames that came.
      exact absurd behind.symm (arrivals_ne_of_missed (full ▸ early) small missed)
  | @whole _ count others announced' full' _ =>
      obtain ⟨equal, behind⟩ := List.cons.inj (List.tail_eq_of_cons_eq shape)
      cases equal
      cases announced'.symm.trans announced
      have rows : arrivals others ++ [] = arrivals frames ++ more :=
        (List.append_nil _).trans behind
      have lengths : (arrivals others).length = (arrivals frames).length := by
        rw [arrivals, arrivals, List.length_map, List.length_map, full', full]
      obtain ⟨equal, rfl⟩ := List.append_inj rows lengths
      rw [arrivals_inj equal]
      exact ⟨rfl, rfl⟩

/-- What a read that fails has met with. -/
theorem blamed_of_collected {failure : Failure} (collected : Collected contacts (.error failure)) :
    (∃ error, contacts = [.sent [0x72] (.error error)]) ∨
    (∃ error, .received (.error error) ∈ contacts) ∨
    (∃ header, contacts = takings header [] ∧
      ∀ blocks, Response.decode header = .ok (.config blocks) → 64 < blocks.toNat) ∨
    ∃ header frames frame, contacts = takings header (frames ++ [frame]) ∧ 64 < frame.length := by
  cases collected with
  | @unsent error => exact .inl ⟨error, rfl⟩
  | @unanswered error => exact .inr (.inl ⟨error, by simp⟩)
  | @refused header _ refused =>
      refine .inr (.inr (.inl ⟨header, rfl, ?_⟩))
      intro blocks decoded
      by_contra few
      have fits : blocks.toNat ≤ 64 := Nat.le_of_not_lt few
      have announced : ReadTransfer.announced header = .ok ⟨blocks.toNat, fits⟩ :=
        ReadTransfer.announced_eq_ok_iff.2 ⟨blocks, decoded, rfl⟩
      rw [refused] at announced
      cases announced
  | @broken header _ frames last _ _ _ _ missed =>
      cases missed with
      | @silent error => exact .inr (.inl ⟨error, by simp⟩)
      | @oversize frame long =>
          have behind : arrivals (header :: frames) ++ [.received (.ok frame)] =
              arrivals (header :: (frames ++ [frame])) := by simp [arrivals]
          refine .inr (.inr (.inr ⟨header, frames, frame, ?_, long⟩))
          exact congrArg (Contact.sent [0x72] (.ok ()) :: ·) behind

theorem contract_of_collected (collected : Collected contacts result) :
    ReadContract contacts result where
  asks := by
    obtain ⟨answer, rest, rfl, silent⟩ := begins_of_collected collected
    exact congrArg ([0x72] :: ·) silent
  ok_iff := by
    intro payload
    constructor
    · rintro rfl
      cases collected with
      | @whole header count frames announced full small =>
          obtain ⟨blocks, decoded, counted⟩ := ReadTransfer.announced_eq_ok_iff.1 announced
          have fits : blocks.toNat ≤ 64 := counted ▸ count.le_limit
          exact ⟨header, frames, ⟨blocks, decoded, fits, full.trans counted, small⟩,
            List.prefix_rfl, payloadOf_frames small⟩
    · rintro ⟨header, frames, announces, ⟨more, rfl⟩, rfl⟩
      have ⟨_, _, _, _, small⟩ := announces
      rw [(complete_of_collected announces collected).2, payloadOf_frames small]
  whole := by
    rintro header frames announces ⟨more, rfl⟩
    rw [(complete_of_collected announces collected).1, List.append_nil]
  blames := by
    rintro failure rfl
    exact blamed_of_collected collected
  fails := by
    intro before error after same
    have lost : .received (.error error) ∈ contacts := by simp [same]
    cases collected with
    | unsent => simp at lost
    | unanswered =>
        have outside : Contact.received (.error error) ∉
            [.sent Command.readConfig.encode (.ok ())] := by simp
        obtain ⟨-, equal, closed⟩ := split_silence outside same
        cases equal
        exact ⟨rfl, closed⟩
    | refused => simp at lost
    | @broken header count frames last failure _ _ _ missed =>
        have outside : Contact.received (.error error) ∉
            .sent Command.readConfig.encode (.ok ()) :: arrivals (header :: frames) := by simp
        cases missed with
        | silent =>
            obtain ⟨-, equal, closed⟩ := split_silence outside same
            cases equal
            exact ⟨rfl, closed⟩
        | oversize => simp at lost
    | whole => simp at lost

end Reads

/-- **What a read of the configuration does, on any channel and whenever that closes.** The contacts
of its run keep its contract. A run that never ends has attempted to send its frame, and its contacts
keep the contract so far. -/
theorem read_sequence {σ : Type} [Transport σ] (device : String) (channel : Channel σ) :
    (∀ result, (channel.run (readPayload device).run).1 = some result →
      (∃ events, Met channel (channel.run (readPayload device).run).2
        (channel.contacts (readPayload device).run) events) ∧
      ReadContract (channel.contacts (readPayload device).run) result) ∧
    ((channel.run (readPayload device).run).1 = none →
      ∃ events between action answer more result,
        Met channel between (channel.contacts (readPayload device).run) events ∧
        between.answer action = (none, (channel.run (readPayload device).run).2) ∧
        refusal action = some answer ∧
        attempts (channel.contacts (readPayload device).run ++ Contact.ofAnswer action answer) =
          [[0x72]] ∧
        ReadContract (channel.contacts (readPayload device).run ++
          (Contact.ofAnswer action answer ++ more)) result) := by
  have collected (contacts : List Contact) (result : Except Failure Bytes)
      (ends : Ends (readPayload device).run contacts result) : Collected contacts result :=
    collected_readBlocks (ends_recorded ends)
  obtain ⟨ended, unending⟩ := runs_of_ends collected channel
  constructor
  · intro result same
    obtain ⟨seen, collected⟩ := ended result same
    exact ⟨seen, contract_of_collected collected⟩
  · intro never
    obtain ⟨events, between, action, answer, more, result, met, unanswered, refused, collected⟩ :=
      unending never
    refine ⟨events, between, action, answer, more, result, met, unanswered, refused, ?_,
      contract_of_collected collected⟩
    have asked : Contact.ofAnswer action answer ≠ [] := by
      cases action with
      | send frame => exact nofun
      | receive => exact nofun
      | close => cases refused
      | note notice => cases refused
    rw [← List.append_assoc] at collected
    exact asked_of_collected collected (List.append_ne_nil_of_right_ne_nil _ asked)

/-- A device whose configuration is two blocks, both of them short. -/
def terse : Channel Script :=
  { transport := { incoming := [⟨some 0, .ok (Response.config 2).encode⟩,
      ⟨some 0, .ok [0x7B]⟩, ⟨some 0, .ok [0x7D]⟩] } }

/-- What follows the filling of the first block is not read. -/
theorem read_sequence_terse :
    ReadContract (terse.contacts (readPayload "device").run) (.ok [0x7B]) := by
  have ended : (terse.run (readPayload "device").run).1 = some (.ok [0x7B]) := rfl
  obtain ⟨kept, -⟩ := read_sequence "device" terse
  exact (kept _ ended).2

/-- A connection that closes when the payload is already there is a failure all the same. -/
example :
    let torn : Channel Script :=
      { transport := { incoming := [⟨some 0, .ok (Response.config 2).encode⟩,
          ⟨some 0, .ok [0x7B, 0x7D, 0]⟩] } }
    (torn.run (readPayload "device").run).1 = some (.error (.connectivity .closed)) := rfl

/-! ## Writes -/

/-- What a write of these frames promises of its contacts and its result. -/
structure WriteContract (frames : List Bytes) (contacts : List Contact)
    (result : Except Failure Unit) : Prop where
  /-- What it attempts to send is a beginning of its frames. -/
  sends : attempts contacts <+: frames
  /-- Once all of them are sent, it asks for a frame. -/
  waits : departures frames <+: contacts →
    ∃ answer after, contacts = departures frames ++ .received answer :: after
  /-- It asks for one frame only, and not before; after that it sends nothing. -/
  receives : ∀ before answer after, contacts = before ++ .received answer :: after →
    before = departures frames ∧ ∀ contact ∈ after, contact = .closed
  /-- It succeeds exactly if everything is sent and acknowledged. -/
  ok_iff : result = .ok () ↔ ∃ reply after,
    contacts = departures frames ++ .received (.ok reply) :: after ∧
      Response.decode reply = .ok .ok
  /-- It fails only if a frame cannot be sent, no frame comes, or one that is no acknowledgement. -/
  blames : ∀ failure, result = .error failure →
    (∃ frame error, .sent frame (.error error) ∈ contacts) ∨
    (∃ error, .received (.error error) ∈ contacts) ∨
    ∃ reply, .received (.ok reply) ∈ contacts ∧ Response.decode reply ≠ .ok .ok
  /-- Behind a frame that cannot be sent there is nothing. -/
  unsent : ∀ before frame error after, contacts = before ++ .sent frame (.error error) :: after →
    result = .error (.connectivity error) ∧ after = []
  unanswered : ∀ error, .received (.error error) ∈ contacts → result = .error (.connectivity error)
  refused : ∀ reply fault, .received (.ok reply) ∈ contacts →
    Response.decode reply = .ok (.error fault) → result = .error (.device fault)
  /-- Any other frame breaks the protocol, also one that cannot be read. -/
  garbled : ∀ reply, .received (.ok reply) ∈ contacts → Response.decode reply ≠ .ok .ok →
    (∀ fault, Response.decode reply ≠ .ok (.error fault)) → ∃ error, result = .error (.protocol error)

/-- The contacts of a write frame by frame, and its result. -/
inductive Written (frames : List Bytes) : List Contact → Except Failure Unit → Prop where
  | unsent {sent rest : List Bytes} {frame : Bytes} {error : LinkError} :
      frames = sent ++ frame :: rest →
      Written frames (departures sent ++ [.sent frame (.error error)])
        (.error (.connectivity error))
  | unanswered {error : LinkError} :
      Written frames (departures frames ++ silence error) (.error (.connectivity error))
  | answered {reply : Bytes} :
      Written frames (departures frames ++ [.received (.ok reply)]) (WriteTransfer.verdict reply)

section Writes

variable {frames : List Bytes} {contacts : List Contact}

theorem written_of_traded {answer : Except Failure Bytes}
    (traded : Traded frames contacts answer) :
    Written frames contacts (answer >>= WriteTransfer.verdict) := by
  induction traded with
  | answered => exact .answered
  | unanswered => exact .unanswered
  | @unsent frame frames error =>
      have alone : Written (frame :: frames) (departures [] ++ [.sent frame (.error error)]) _ :=
        .unsent rfl
      exact alone
  | @sent first frames contacts answer traded ih =>
      -- One more frame before the failure or the reply.
      generalize answer >>= WriteTransfer.verdict = result at ih ⊢
      cases ih with
      | @unsent sent rest frame error split =>
          have later : Written (first :: frames)
              (departures (first :: sent) ++ [.sent frame (.error error)]) _ :=
            .unsent (congrArg (first :: ·) split)
          exact later
      | unanswered => exact .unanswered
      | answered => exact .answered

/-- What is sent before all frames are is less than all. -/
theorem not_departures_prefix {sent rest : List Bytes} {frame : Bytes} {error : LinkError} :
    ¬ departures (sent ++ frame :: rest) <+: departures sent ++ [.sent frame (.error error)] := by
  rw [departures, departures, List.map_append, List.prefix_append_right_inj]
  simp

theorem contract_of_unsent {sent rest : List Bytes} {frame : Bytes} {error : LinkError} :
    WriteContract (sent ++ frame :: rest) (departures sent ++ [.sent frame (.error error)])
      (.error (.connectivity error)) where
  sends := by
    rw [attempts_append, attempts_departures]
    exact (List.prefix_append_right_inj sent).2 (List.cons_prefix_cons.2 ⟨rfl, List.nil_prefix⟩)
  waits all := absurd all not_departures_prefix
  receives before answer after same := by
    obtain ⟨between, -, tail⟩ := split_behind received_notMem_departures same
    simp [List.singleton_eq_append_iff] at tail
  ok_iff := by
    constructor
    · nofun
    · rintro ⟨reply, after, same, -⟩
      obtain ⟨between, -, tail⟩ := split_behind received_notMem_departures same
      simp [List.singleton_eq_append_iff] at tail
  blames _ _ := .inl ⟨frame, error, by simp⟩
  unsent before other error' after same := by
    obtain ⟨between, -, tail⟩ := split_behind unsent_notMem_departures same
    obtain ⟨-, ⟨-, equal⟩, last⟩ :
        between = [] ∧ (other = frame ∧ error' = error) ∧ after = [] := by
      simpa [List.singleton_eq_append_iff] using tail
    rw [equal]
    exact ⟨rfl, last⟩
  unanswered error' member := by simp at member
  refused reply fault member := by simp at member
  garbled reply member := by simp at member

theorem contract_of_unanswered {error : LinkError} :
    WriteContract frames (departures frames ++ silence error) (.error (.connectivity error)) where
  sends := by
    have all : attempts (departures frames ++ silence error) = frames := by
      rw [attempts_append, attempts_departures, attempts_silence, List.append_nil]
    exact ⟨[], (List.append_nil _).trans all⟩
  waits _ := by cases error <;> exact ⟨_, _, rfl⟩
  receives before answer after same := by
    obtain ⟨rfl, -, closed⟩ := split_silence received_notMem_departures same
    exact ⟨rfl, closed⟩
  ok_iff := by
    constructor
    · nofun
    · rintro ⟨reply, after, same, -⟩
      obtain ⟨-, equal, -⟩ := split_silence received_notMem_departures same
      cases equal
  blames _ _ := .inr (.inl ⟨error, by simp⟩)
  unsent before frame error' after same := by
    obtain ⟨between, -, tail⟩ := split_behind unsent_notMem_departures same
    have inside : .sent frame (.error error') ∈ silence error := by simp [tail]
    simp at inside
  unanswered error' member := by
    have equal : error' = error := by simpa using member
    rw [equal]
  refused reply fault member := by simp at member
  garbled reply member := by simp at member

theorem contract_of_answered {reply : Bytes} :
    WriteContract frames (departures frames ++ [.received (.ok reply)])
      (WriteTransfer.verdict reply) where
  sends := by
    have all : attempts (departures frames ++ [.received (.ok reply)]) = frames := by
      rw [attempts_append, attempts_departures]
      exact List.append_nil frames
    exact ⟨[], (List.append_nil _).trans all⟩
  waits _ := ⟨_, _, rfl⟩
  receives before answer after same := by
    obtain ⟨between, rfl, tail⟩ := split_behind received_notMem_departures same
    obtain ⟨rfl, -, rfl⟩ : between = [] ∧ answer = .ok reply ∧ after = [] := by
      simpa [List.singleton_eq_append_iff] using tail
    exact ⟨List.append_nil _, nofun⟩
  ok_iff := by
    constructor
    · intro good
      obtain ⟨decoded, -⟩ | ⟨fault, -, bad⟩ | ⟨-, -, error, bad⟩ := WriteTransfer.verdict_cases reply
      · exact ⟨reply, [], rfl, decoded⟩
      · rw [bad] at good
        cases good
      · rw [bad] at good
        cases good
    · rintro ⟨other, after, same, decoded⟩
      cases List.append_cancel_left same
      simp [WriteTransfer.verdict, decoded]
  blames failure failed := by
    refine .inr (.inr ⟨reply, by simp, ?_⟩)
    intro decoded
    simp [WriteTransfer.verdict, decoded] at failed
  unsent before frame error' after same := by
    obtain ⟨between, -, tail⟩ := split_behind unsent_notMem_departures same
    simp [List.singleton_eq_append_iff] at tail
  unanswered error' member := by simp at member
  refused other fault member decoded := by
    obtain rfl : other = reply := by simpa using member
    simp [WriteTransfer.verdict, decoded]
  garbled other member unacknowledged faultless := by
    obtain rfl : other = reply := by simpa using member
    obtain ⟨decoded, -⟩ | ⟨fault, decoded, -⟩ | ⟨-, -, breach⟩ := WriteTransfer.verdict_cases other
    · exact absurd decoded unacknowledged
    · exact absurd decoded (faultless fault)
    · exact breach

theorem contract_of_written {result : Except Failure Unit}
    (written : Written frames contacts result) : WriteContract frames contacts result := by
  cases written with
  | unsent split =>
      rw [split]
      exact contract_of_unsent
  | unanswered => exact contract_of_unanswered
  | answered => exact contract_of_answered

/-- The frames of a payload that can be written: how many blocks there are, and the blocks. -/
theorem frames_of_checkPayload {payload : Bytes} {count : BlockCount}
    (accepted : checkPayload payload = .ok count) :
    ∃ blocks : List Bytes, blocks.length = (payload.length + 63) / 64 ∧ blocks.length ≤ 64 ∧
      (∀ block ∈ blocks, block.length = 64) ∧
      (∃ zeros, blocks.flatten = payload ++ List.replicate zeros 0) ∧
      ∀ device contacts result, Ends (writePayload device payload).run contacts result →
        Written ([0x77, UInt8.ofNat blocks.length] :: blocks) contacts result := by
  obtain ⟨transfer, made⟩ := WriteTransfer.made_of_checkPayload accepted
  obtain ⟨checked, split, fresh⟩ := WriteTransfer.ofPayload_eq_ok_iff.1 made
  have counted : transfer.count.val = (payload.length + 63) / 64 :=
    forLength_eq_ok_iff.1 (checkPayload_eq_ok_iff.1 checked).2.2
  have length_eq : (transfer.blocks.map Block.bytes).length = transfer.count.val := by
    rw [List.length_map, fresh.length_eq]
  refine ⟨transfer.blocks.map Block.bytes, length_eq.trans counted, ?_, ?_, ?_, ?_⟩
  · rw [length_eq]
    exact transfer.count.le_limit
  · intro block member
    obtain ⟨block, -, rfl⟩ := List.mem_map.1 member
    exact block.size_eq
  · have carried := flatMap_bytes_of_splitBlocks split
    rw [List.flatMap_def] at carried
    exact ⟨_, carried⟩
  · intro device contacts result ends
    obtain ⟨answer, traded, rfl⟩ := trades_writeBlocks made _ _ (ends_recorded ends)
    rw [length_eq]
    exact written_of_traded traded

end Writes

/-- **What a write of the configuration does, on any channel and whenever that closes.** Its frames
are the number of blocks and then the blocks, which hold the payload and behind it nothing but zeros.
The contacts of its run keep its contract, also those of a run that never ends. -/
theorem write_sequence {σ : Type} [Transport σ] (device : String) {payload : Bytes}
    {count : BlockCount} (accepted : checkPayload payload = .ok count) (channel : Channel σ) :
    ∃ blocks : List Bytes, blocks.length = (payload.length + 63) / 64 ∧ blocks.length ≤ 64 ∧
      (∀ block ∈ blocks, block.length = 64) ∧
      (∃ zeros, blocks.flatten = payload ++ List.replicate zeros 0) ∧
      (∀ result, (channel.run (writePayload device payload).run).1 = some result →
        (∃ events, Met channel (channel.run (writePayload device payload).run).2
          (channel.contacts (writePayload device payload).run) events) ∧
        WriteContract ([0x77, UInt8.ofNat blocks.length] :: blocks)
          (channel.contacts (writePayload device payload).run) result) ∧
      ((channel.run (writePayload device payload).run).1 = none →
        ∃ events between action answer more result,
          Met channel between (channel.contacts (writePayload device payload).run) events ∧
          between.answer action = (none, (channel.run (writePayload device payload).run).2) ∧
          refusal action = some answer ∧
          WriteContract ([0x77, UInt8.ofNat blocks.length] :: blocks)
            (channel.contacts (writePayload device payload).run ++
              (Contact.ofAnswer action answer ++ more)) result) := by
  obtain ⟨blocks, counted, limit, whole, carried, written⟩ := frames_of_checkPayload accepted
  have kept (contacts : List Contact) (result : Except Failure Unit)
      (ends : Ends (writePayload device payload).run contacts result) :
      WriteContract ([0x77, UInt8.ofNat blocks.length] :: blocks) contacts result :=
    contract_of_written (written device contacts result ends)
  obtain ⟨ended, unending⟩ := runs_of_ends kept channel
  exact ⟨blocks, counted, limit, whole, carried, ended, unending⟩

/-- A device that acknowledges one command and then closes the connection. -/
def brisk : Channel Script := { transport := { incoming := [⟨some 0, .ok Response.ok.encode⟩] } }

/-- A payload that fills a block and a byte of the next travels in two blocks. -/
theorem write_sequence_brisk : ∃ blocks : List Bytes, blocks.length = 2 ∧
    WriteContract ([0x77, 2] :: blocks)
      (brisk.contacts (writePayload "device" (List.replicate 65 0x20)).run) (.ok ()) := by
  have accepted : checkPayload (List.replicate 65 0x20) = .ok ⟨2, by decide⟩ := rfl
  have ended : (brisk.run (writePayload "device" (List.replicate 65 0x20)).run).1 =
      some (.ok ()) := rfl
  obtain ⟨blocks, counted, -, -, -, kept, -⟩ := write_sequence "device" accepted brisk
  obtain ⟨-, contract⟩ := kept _ ended
  rw [counted] at contract
  exact ⟨blocks, counted, contract⟩

end ControlLink.Session
