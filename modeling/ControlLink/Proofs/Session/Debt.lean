/-
# ControlLink.Proofs.Session.Debt — what the device still owes when an operation ends

`Exchange.follow` keeps the ledger of an operation: which frames the device has promised and not yet
sent. Unlike the ledger of an orderly exchange it believes a header that announces more blocks than
a transfer takes. `course_of_conduct` goes through the contacts of every operation with it. They
pass and leave nothing owed; or they end with a frame that the operation refuses although more may
follow (`Overrun`); or they end where the channel fails (`Halts`), and then something is owed
exactly if a receive has failed.

`abandoned_debt` is what that means for a channel. An operation that leaves a debt behind fails, but
it closes the channel only if its receive has timed out: after any other failure of a receive, and
after a header that announces too much, the channel stays open (`overfull_header_unclosed`).
-/
import ControlLink.Proofs.Session.Update

namespace ControlLink.Session

set_option autoImplicit false

open Wire Transfer

/-! ## The ledger -/

namespace Exchange

/-- The blocks that a header announces, whether or not a transfer takes so many. -/
def promised (frame : Bytes) : Nat :=
  match Response.decode frame with
  | .ok (.config blocks) => blocks.toNat
  | _ => 0

/-- The exchange after a frame from the device. One that nobody has asked for changes nothing. -/
def heard : Exchange → Bytes → Exchange
  | .asked 0 reading, frame => .answered (if reading then promised frame else 0)
  | .answered (left + 1), _ => .answered left
  | exchange, _ => exchange

/-- The exchange after a contact. A contact that fails changes nothing. -/
def after (exchange : Exchange) : Contact → Exchange
  | .sent frame (.ok ()) => (exchange.take frame).getD exchange
  | .received (.ok frame) => exchange.heard frame
  | _ => exchange

def follow (exchange : Exchange) (contacts : List Contact) : Exchange :=
  contacts.foldl after exchange

theorem follow_append (exchange : Exchange) (contacts more : List Contact) :
    exchange.follow (contacts ++ more) = (exchange.follow contacts).follow more :=
  List.foldl_append

@[simp] theorem follow_silence (exchange : Exchange) (error : LinkError) :
    exchange.follow (silence error) = exchange := by
  cases error <;> rfl

/-- What is announced is what is promised, unless it is more than a transfer takes. -/
theorem promised_eq_of_announced {frame : Bytes} {count : BlockCount}
    (accepted : ReadTransfer.announced frame = .ok count) : promised frame = count.val := by
  obtain ⟨blocks, decoded, same⟩ := ReadTransfer.announced_eq_ok_iff.1 accepted
  rw [promised, decoded, same]

/-- A frame that is refused as a header promises nothing, or more than a transfer takes. -/
theorem promised_of_refused {frame : Bytes} {failure : Failure}
    (refused : ReadTransfer.announced frame = .error failure) :
    promised frame = 0 ∨ blockLimit < promised frame := by
  have nothing := announces_of_refused refused
  unfold announces at nothing
  unfold promised
  split
  · rename_i blocks decoded
    simp only [decoded] at nothing
    split at nothing
    · exact .inl nothing
    · exact .inr (by omega)
  · exact .inl rfl

end Exchange

open Exchange

/-! ## Contacts that pass, and contacts that end in a failure -/

/-- A contact that does not fail. -/
inductive Contact.Sound : Contact → Prop where
  | sent {frame : Bytes} : Sound (.sent frame (.ok ()))
  | received {frame : Bytes} : Sound (.received (.ok frame))
  | told {progress : Progress} : Sound (.told progress)

/-- Sound contacts, and how far an exchange comes with them. -/
structure Passes (exchange : Exchange) (contacts : List Contact) (next : Exchange) : Prop where
  sound : ∀ contact ∈ contacts, contact.Sound
  followed : exchange.follow contacts = next

/-- Contacts that are sound up to where the channel fails. A receive fails that the device owes a
frame, or a frame is not sent and none is owed. -/
inductive Halts (exchange : Exchange) : List Contact → LinkError → Prop where
  | unsent {before : List Contact} {next : Exchange} {frame : Bytes} {error : LinkError} :
      Passes exchange before next → ¬ next.Owes →
      Halts exchange (before ++ [.sent frame (.error error)]) error
  | silent {before : List Contact} {next : Exchange} {error : LinkError} :
      Passes exchange before next → next.Owes → Halts exchange (before ++ silence error) error

/-- Sound contacts that end with a frame which is refused although more may follow it. -/
inductive Overrun : List Contact → Failure → Prop where
  /-- A header that announces more blocks than a transfer takes. -/
  | header {before : List Contact} {frame : Bytes} {failure : Failure} :
      (∀ contact ∈ before, contact.Sound) → ReadTransfer.announced frame = .error failure →
      blockLimit < promised frame → Overrun (before ++ [.received (.ok frame)]) failure
  /-- A frame that is longer than the block it should be. -/
  | block {before : List Contact} {frame : Bytes} :
      (∀ contact ∈ before, contact.Sound) → blockSize < frame.length →
      Overrun (before ++ [.received (.ok frame)])
        (.protocol (.frameTooLong blockSize frame.length))

section Contacts

variable {exchange next last : Exchange} {contacts more : List Contact} {error : LinkError}
  {failure : Failure}

theorem Passes.nil (exchange : Exchange) : Passes exchange [] exchange := ⟨nofun, rfl⟩

theorem Passes.single {contact : Contact} (sound : contact.Sound)
    (followed : exchange.after contact = next) : Passes exchange [contact] next :=
  ⟨List.forall_mem_singleton.2 sound, followed⟩

theorem Passes.trans (first : Passes exchange contacts next) (onward : Passes next more last) :
    Passes exchange (contacts ++ more) last where
  sound := List.forall_mem_append.2 ⟨first.sound, onward.sound⟩
  followed := by rw [follow_append, first.followed, onward.followed]

theorem Passes.halts (first : Passes exchange contacts next) (onward : Halts next more error) :
    Halts exchange (contacts ++ more) error := by
  cases onward with
  | unsent before nothing =>
      rw [← List.append_assoc]
      exact .unsent (first.trans before) nothing
  | silent before owed =>
      rw [← List.append_assoc]
      exact .silent (first.trans before) owed

theorem Overrun.after (overrun : Overrun more failure)
    (sound : ∀ contact ∈ contacts, contact.Sound) : Overrun (contacts ++ more) failure := by
  cases overrun with
  | header before refused large =>
      rw [← List.append_assoc]
      exact .header (List.forall_mem_append.2 ⟨sound, before⟩) refused large
  | block before long =>
      rw [← List.append_assoc]
      exact .block (List.forall_mem_append.2 ⟨sound, before⟩) long

theorem Overrun.sound (overrun : Overrun contacts failure) :
    ∀ contact ∈ contacts, contact.Sound := by
  cases overrun with
  | header before _ _ =>
      exact List.forall_mem_append.2 ⟨before, List.forall_mem_singleton.2 .received⟩
  | block before _ =>
      exact List.forall_mem_append.2 ⟨before, List.forall_mem_singleton.2 .received⟩

theorem not_sound_received : ¬ Contact.Sound (.received (.error error)) := by
  rintro ⟨⟩

theorem not_sound_closed : ¬ Contact.Sound .closed := by
  rintro ⟨⟩

/-- A contact that fails is not among the sound ones before it. -/
theorem mem_of_unsound {contact : Contact} {before last : List Contact}
    (sound : ∀ contact ∈ before, contact.Sound) (unsound : ¬ contact.Sound)
    (member : contact ∈ before ++ last) : contact ∈ last :=
  (List.mem_append.1 member).resolve_left fun early => unsound (sound contact early)

/-- Every silence begins with a receive that fails. -/
theorem received_mem_silence (error : LinkError) :
    Contact.received (.error error) ∈ silence error := by
  cases error <;> exact List.mem_cons_self

/-- Where a channel has failed, something is owed exactly if a receive has failed. -/
theorem Halts.owes_iff (halts : Halts exchange contacts error) :
    (exchange.follow contacts).Owes ↔ ∃ before error, contacts = before ++ silence error := by
  cases halts with
  | @unsent before next frame error passes nothing =>
      have followed : exchange.follow (before ++ [.sent frame (.error error)]) = next := by
        rw [follow_append, passes.followed]
        rfl
      rw [followed]
      refine ⟨fun owed => absurd owed nothing, ?_⟩
      rintro ⟨other, fault, same⟩
      have member : Contact.received (.error fault) ∈ before ++ [.sent frame (.error error)] :=
        same ▸ List.mem_append_right other (received_mem_silence fault)
      cases List.mem_singleton.1 (mem_of_unsound passes.sound not_sound_received member)
  | silent passes owed =>
      rw [follow_append, passes.followed, follow_silence]
      exact ⟨fun _ => ⟨_, _, rfl⟩, fun _ => owed⟩

/-- Where a receive has failed, the contacts end. -/
theorem Halts.silent_of_received {fault : LinkError} (halts : Halts exchange contacts error)
    (failed : .received (.error fault) ∈ contacts) :
    ∃ before, contacts = before ++ silence fault := by
  cases halts with
  | unsent passes _ =>
      cases List.mem_singleton.1 (mem_of_unsound passes.sound not_sound_received failed)
  | silent passes _ =>
      have last := mem_of_unsound passes.sound not_sound_received failed
      cases error with
      | timedOut =>
          cases last with
          | head => exact ⟨_, rfl⟩
          | tail _ closing => cases List.mem_singleton.1 closing
      | _ =>
          cases List.mem_singleton.1 last
          exact ⟨_, rfl⟩

/-- The channel is closed only by the last contact, once a receive has timed out. -/
theorem Halts.timedOut_of_closed (halts : Halts exchange contacts error)
    (closing : Contact.closed ∈ contacts) :
    error = .timedOut ∧ ∃ before, contacts = before ++ silence .timedOut ∧
      ∀ contact ∈ before, contact.Sound := by
  cases halts with
  | unsent passes _ =>
      cases List.mem_singleton.1 (mem_of_unsound passes.sound not_sound_closed closing)
  | silent passes _ =>
      have last := mem_of_unsound passes.sound not_sound_closed closing
      cases error with
      | timedOut => exact ⟨rfl, _, rfl, passes.sound⟩
      | _ => cases List.mem_singleton.1 last

end Contacts

/-! ## The ledger of every operation -/

section Courses

variable {frames : List Bytes} {contacts : List Contact} {answer : Except Failure Bytes}

/-- Once a command has announced the frames that are left, they are traded for the reply to it. -/
theorem course_of_traded (traded : Traded frames contacts answer) (reading : Bool) :
    (∃ frame, answer = .ok frame ∧ Passes (.asked frames.length reading) contacts
        (.answered (if reading then promised frame else 0))) ∨
      ∃ error, answer = .error (.connectivity error) ∧
        Halts (.asked frames.length reading) contacts error := by
  induction traded with
  | answered => exact .inl ⟨_, rfl, .single .received rfl⟩
  | unanswered => exact .inr ⟨_, rfl, .silent (.nil _) trivial⟩
  | unsent => exact .inr ⟨_, rfl, .unsent (.nil _) id⟩
  | @sent frame frames _ _ _ ih =>
      have first : Passes (.asked (frames.length + 1) reading) [.sent frame (.ok ())]
          (.asked frames.length reading) := .single .sent rfl
      obtain ⟨reply, same, passes⟩ | ⟨error, same, halts⟩ := ih
      · exact .inl ⟨reply, same, first.trans passes⟩
      · exact .inr ⟨error, same, first.halts halts⟩

theorem course_of_command (command : Command)
    (counted : followers command = frames.length)
    (traded : Traded (command.encode :: frames) contacts answer) :
    (∃ frame, answer = .ok frame ∧ Passes .resting contacts
        (.answered (if command.kind == .readConfig then promised frame else 0))) ∨
      ∃ error, answer = .error (.connectivity error) ∧ Halts .resting contacts error := by
  cases traded with
  | unsent => exact .inr ⟨_, rfl, .unsent (.nil _) id⟩
  | sent onward =>
      have first : Passes .resting [.sent command.encode (.ok ())]
          (.asked frames.length (command.kind == .readConfig)) :=
        .single .sent (by rw [← counted]; exact opened_encode command)
      obtain ⟨reply, same, passes⟩ | ⟨error, same, halts⟩ := course_of_traded onward _
      · exact .inl ⟨reply, same, first.trans passes⟩
      · exact .inr ⟨error, same, first.halts halts⟩

/-- A command that asks for no configuration leaves nothing owed once it is answered. -/
theorem course_of_other (command : Command) (other : command.kind ≠ .readConfig)
    (counted : followers command = frames.length)
    (traded : Traded (command.encode :: frames) contacts answer) :
    (∃ frame, answer = .ok frame ∧ Passes .resting contacts .resting) ∨
      ∃ error, answer = .error (.connectivity error) ∧ Halts .resting contacts error := by
  have course := course_of_command command counted traded
  rw [beq_false_of_ne other] at course
  exact course

theorem course_of_chunk {chunk : Firmware.Chunk} {command : Command}
    (headed : chunk.header = .ok command) (traded : Traded (chunkFrames chunk) contacts answer) :
    (∃ frame, answer = .ok frame ∧ Passes .resting contacts .resting) ∨
      ∃ error, answer = .error (.connectivity error) ∧ Halts .resting contacts error := by
  obtain ⟨packets, blocks, rfl, -, counted, frames⟩ := chunkFrames_of_header headed
  rw [frames] at traded
  have announced : followers (.updateData packets (UInt16.ofNat chunk.bytes.length)) =
      (blocks.map Block.bytes).length := counted.symm.trans (List.length_map _).symm
  exact course_of_other _ (by simp [Command.kind]) announced traded

theorem reading_ne_connectivity {frame : Bytes} {error : LinkError} :
    reading frame ≠ .error (.connectivity error) := by
  unfold reading
  cases Response.decode frame with
  | ok response => exact nofun
  | error fault => cases fault <;> exact nofun

theorem course_of_delivered {size : UInt32} {chunks : List Firmware.Chunk}
    {result : Except Failure Unit}
    (headed : ∀ chunk ∈ chunks, ∃ command, chunk.header = .ok command)
    (delivered : Delivered size chunks contacts result) :
    (Passes .resting contacts .resting ∧ ∀ error, result ≠ .error (.connectivity error)) ∨
      ∃ error, result = .error (.connectivity error) ∧ Halts .resting contacts error := by
  have answered {chunk : Firmware.Chunk} {chunks : List Firmware.Chunk} {contacts : List Contact}
      {frame : Bytes} (headed : ∀ other ∈ chunk :: chunks, ∃ command, other.header = .ok command)
      (traded : Traded (chunkFrames chunk) contacts (.ok frame)) :
      Passes .resting contacts .resting := by
    obtain ⟨command, first⟩ := headed chunk List.mem_cons_self
    obtain ⟨_, -, passes⟩ | ⟨_, same, -⟩ := course_of_chunk first traded
    · exact passes
    · cases same
  have onward {contacts more : List Contact} {result : Except Failure Unit}
      (first : Passes .resting contacts .resting)
      (rest : (Passes .resting more .resting ∧ ∀ error, result ≠ .error (.connectivity error)) ∨
        ∃ error, result = .error (.connectivity error) ∧ Halts .resting more error) :
      (Passes .resting (contacts ++ more) .resting ∧
          ∀ error, result ≠ .error (.connectivity error)) ∨
        ∃ error, result = .error (.connectivity error) ∧
          Halts .resting (contacts ++ more) error := by
    obtain ⟨passes, other⟩ | ⟨error, same, halts⟩ := rest
    · exact .inl ⟨first.trans passes, other⟩
    · exact .inr ⟨error, same, first.halts halts⟩
  have told (progress : Progress) : Passes .resting [.told progress] .resting := .single .told rfl
  induction delivered with
  | exhausted => exact .inl ⟨.nil _, nofun⟩
  | lost traded =>
      obtain ⟨command, first⟩ := headed _ List.mem_cons_self
      obtain ⟨_, same, -⟩ | ⟨error, same, halts⟩ := course_of_chunk first traded
      · cases same
      · exact .inr ⟨error, congrArg Except.error (Except.error.inj same), halts⟩
  | unreadable traded read =>
      refine .inl ⟨answered headed traded, fun error same => ?_⟩
      cases same
      exact reading_ne_connectivity read
  | refused traded _ => exact .inl ⟨answered headed traded, nofun⟩
  | misplaced traded _ _ => exact .inl ⟨answered headed traded, nofun⟩
  | complete traded _ => exact .inl ⟨(answered headed traded).trans (told _), nofun⟩
  | acknowledged traded _ _ ih =>
      exact onward (answered headed traded) (ih (List.forall_mem_cons.1 headed).2)
  | progress traded _ _ ih =>
      rw [← List.singleton_append, ← List.append_assoc]
      exact onward ((answered headed traded).trans (told _)) (ih (List.forall_mem_cons.1 headed).2)

/-- An accepted update has failed, and its abort has been attempted. -/
def Aborting (contacts : List Contact) (failure : Failure) : Prop :=
  (∀ error, failure ≠ .connectivity error) ∧ ∃ image frames, Started image contacts ∧
    attempts contacts = frames ++ [Command.updateAbort.encode]

theorem course_of_updated {image : Firmware.Image} {result : Except Failure Unit}
    (updated : Updated image contacts result) :
    Passes .resting contacts .resting ∨ ∃ error failure, result = .error failure ∧
      Halts .resting contacts error ∧
      (failure = .connectivity error ∨ Aborting contacts failure) := by
  have start {contacts : List Contact} {answer : Except Failure Bytes}
      (traded : Traded [image.startCommand.encode] contacts answer) :=
    course_of_other image.startCommand (by simp [Firmware.Image.startCommand, Command.kind]) rfl
      traded
  have accepted {contacts : List Contact} {frame : Bytes}
      (traded : Traded [image.startCommand.encode] contacts (.ok frame)) :
      Passes .resting contacts .resting := by
    obtain ⟨_, -, passes⟩ | ⟨_, same, -⟩ := start traded
    · exact passes
    · cases same
  have middle {more : List Contact} {result : Except Failure Unit}
      (delivered : Delivered (UInt32.ofNat image.size) image.chunks more result) :=
    course_of_delivered (fun chunk member => Firmware.Chunk.header_of_mem_chunks member) delivered
  cases updated with
  | lost traded =>
      obtain ⟨_, same, -⟩ | ⟨error, same, halts⟩ := start traded
      · cases same
      · exact .inr ⟨error, _, rfl, halts, .inl (Except.error.inj same)⟩
  | refused traded _ => exact .inl (accepted traded)
  | complete traded _ delivered =>
      obtain ⟨passes, -⟩ | ⟨_, same, -⟩ := middle delivered
      · exact .inl ((accepted traded).trans passes)
      · cases same
  | broken traded _ delivered =>
      obtain ⟨-, other⟩ | ⟨error, same, halts⟩ := middle delivered
      · exact absurd rfl (other _)
      · exact .inr ⟨error, _, rfl, (accepted traded).halts halts, .inl (Except.error.inj same)⟩
  | @aborted contacts more last frame failure answer traded accepting delivered other abandoned =>
      obtain ⟨passes, -⟩ | ⟨error, same, -⟩ := middle delivered
      · have before := (accepted traded).trans passes
        obtain ⟨_, -, ending⟩ | ⟨error, -, halts⟩ :=
          course_of_other .updateAbort (by decide) rfl abandoned
        · exact .inl (before.trans ending)
        · refine .inr ⟨error, failure, rfl, before.halts halts,
            .inr ⟨other, image, attempts (contacts ++ more), ?_, ?_⟩⟩
          · rw [List.append_assoc]
            exact started_of_traded traded accepting
          · rw [attempts_append, attempts_of_traded_single abandoned]
      · exact absurd (Except.error.inj same) (other error)

theorem course_of_gathered {left : Nat} {outcome : Option Failure}
    (gathered : Gathered left contacts outcome) :
    (outcome = none ∧ Passes (.answered left) contacts .resting) ∨
      (∃ error, outcome = some (.connectivity error) ∧ Halts (.answered left) contacts error) ∨
      ∃ failure, outcome = some failure ∧ Overrun contacts failure := by
  induction gathered with
  | all => exact .inl ⟨rfl, .nil _⟩
  | lost => exact .inr (.inl ⟨_, rfl, .silent (.nil _) trivial⟩)
  | @oversize _ frame long =>
      have alone : Overrun ([] ++ [.received (.ok frame)]) _ := .block nofun long
      exact .inr (.inr ⟨_, rfl, alone⟩)
  | @next left frame _ _ _ _ ih =>
      have first : Passes (.answered (left + 1)) [.received (.ok frame)] (.answered left) :=
        .single .received rfl
      obtain ⟨same, passes⟩ | ⟨error, same, halts⟩ | ⟨failure, same, overrun⟩ := ih
      · exact .inl ⟨same, first.trans passes⟩
      · exact .inr (.inl ⟨error, same, first.halts halts⟩)
      · exact .inr (.inr ⟨failure, same, overrun.after first.sound⟩)

theorem course_of_fetched (fetched : Fetched contacts answer) :
    Passes .resting contacts .resting ∨
      (∃ failure, answer = .error failure ∧ Overrun contacts failure) ∨
      ∃ error, answer = .error (.connectivity error) ∧ Halts .resting contacts error := by
  have opened {contacts : List Contact} {frame : Bytes}
      (traded : Traded [Command.readConfig.encode] contacts (.ok frame)) :
      Passes .resting contacts (.answered (promised frame)) := by
    obtain ⟨reply, same, passes⟩ | ⟨_, same, -⟩ :=
      course_of_command .readConfig rfl traded
    · cases same
      exact passes
    · cases same
  cases fetched with
  | lost traded =>
      obtain ⟨_, same, -⟩ | ⟨error, same, halts⟩ :=
        course_of_command .readConfig rfl traded
      · cases same
      · exact .inr (.inr ⟨error, congrArg Except.error (Except.error.inj same), halts⟩)
  | @refused _ frame failure traded rejected =>
      have passes := opened traded
      rcases promised_of_refused rejected with nothing | large
      · rw [nothing] at passes
        exact .inl passes
      · refine .inr (.inl ⟨failure, rfl, ?_⟩)
        rw [eq_of_traded_single traded]
        have sent : ∀ contact ∈ [Contact.sent Command.readConfig.encode (.ok ())], contact.Sound :=
          List.forall_mem_singleton.2 .sent
        exact .header sent rejected large
  | broken traded accepted gathered =>
      have passes := opened traded
      rw [promised_eq_of_announced accepted] at passes
      obtain ⟨same, -⟩ | ⟨error, same, halts⟩ | ⟨failure, same, overrun⟩ :=
        course_of_gathered gathered
      · cases same
      · exact .inr (.inr ⟨error, congrArg Except.error (Option.some.inj same), passes.halts halts⟩)
      · exact .inr (.inl ⟨failure, congrArg Except.error (Option.some.inj same),
          overrun.after passes.sound⟩)
  | whole traded accepted gathered =>
      have passes := opened traded
      rw [promised_eq_of_announced accepted] at passes
      obtain ⟨-, all⟩ | ⟨_, same, -⟩ | ⟨_, same, -⟩ := course_of_gathered gathered
      · exact .inl (passes.trans all)
      · cases same
      · cases same

/-- **Every operation passes and leaves nothing owed, refuses a frame that more may follow, or ends
where the channel fails.** -/
theorem course_of_conduct {α : Type} {unfit : Option RequestError} {result : Except Failure α}
    (conduct : Conduct unfit contacts result) :
    Passes .resting contacts .resting ∨
      (∃ failure, result = .error failure ∧ Overrun contacts failure) ∨
      ∃ error failure, result = .error failure ∧ Halts .resting contacts error ∧
        (failure = .connectivity error ∨ Aborting contacts failure) := by
  cases conduct with
  | refused => exact .inl (.nil _)
  | @traded command _ _ _ judge other counted traded =>
      have course := course_of_other command other (counted.trans (List.length_map _).symm) traded
      obtain ⟨_, -, passes⟩ | ⟨error, rfl, halts⟩ := course
      · exact .inl passes
      · exact .inr (.inr ⟨error, _, rfl, halts, .inl rfl⟩)
  | fetched judge fetched =>
      obtain passes | ⟨failure, rfl, overrun⟩ | ⟨error, rfl, halts⟩ := course_of_fetched fetched
      · exact .inl passes
      · exact .inr (.inl ⟨failure, rfl, overrun⟩)
      · exact .inr (.inr ⟨error, _, rfl, halts, .inl rfl⟩)
  | updated judge updated =>
      obtain passes | ⟨error, failure, rfl, halts, reason⟩ := course_of_updated updated
      · exact .inl passes
      · exact .inr (.inr ⟨error, failure, rfl, halts, reason⟩)

/-- Only where the channel fails does a contact of an operation fail. -/
theorem halts_of_unsound {α : Type} {unfit : Option RequestError} {result : Except Failure α}
    {contact : Contact} (conduct : Conduct unfit contacts result) (unsound : ¬ contact.Sound)
    (member : contact ∈ contacts) :
    ∃ error failure, result = .error failure ∧ Halts .resting contacts error ∧
      (failure = .connectivity error ∨ Aborting contacts failure) := by
  obtain passes | ⟨_, -, overrun⟩ | halts := course_of_conduct conduct
  · exact absurd (passes.sound _ member) unsound
  · exact absurd (overrun.sound _ member) unsound
  · exact halts

end Courses

/-! ## Debts left behind -/

/-- **An operation that leaves a debt behind fails, and closes the channel exactly if its receive
has timed out.** Whatever the transport does: if the device still owes a frame when an operation
ends, then a receive has failed or a frame was refused that more may follow, and the operation
reports a failure. A receive that fails is the last contact, but for the closing of the channel
behind one that times out. The channel then refuses whatever a later operation asks of it. As long
as the owner does not close the channel either, it is closed exactly if a receive has timed out. -/
theorem abandoned_debt {σ : Type} [Transport σ] (device : String) (service : Service)
    {channel channel' : Channel σ} {result : Except Failure service.Value}
    (ended : channel.run (service.procedure device) = (some result, channel')) :
    let contacts := channel.contacts (service.procedure device)
    (∃ events, Met channel channel' contacts events) ∧
      ((resting.follow contacts).Owes → ∃ failure, result = .error failure ∧
        ((∃ before error, contacts = before ++ silence error) ∨ Overrun contacts failure)) ∧
      (∀ error, .received (.error error) ∈ contacts →
        ∃ before, contacts = before ++ silence error) ∧
      ((∃ before error, contacts = before ++ silence error) → (resting.follow contacts).Owes) ∧
      ((∃ before, contacts = before ++ silence .timedOut) → channel'.closed = true ∧
        ∀ (later : Service), ∀ contact ∈ channel'.contacts (later.procedure device),
          contact.Refused) ∧
      (channel.closeAt = none → channel.closed = false →
        (channel'.closed = true ↔ ∃ before, contacts = before ++ silence .timedOut)) := by
  intro contacts
  obtain ⟨ends, events, met⟩ : Ends (service.procedure device) contacts result ∧
      ∃ events, Met channel channel' contacts events := ends_contacts ended
  clear_value contacts
  have conduct := procedure_conduct device service ends
  have closes : (∃ before, contacts = before ++ silence .timedOut) → channel'.closed = true := by
    rintro ⟨before, rfl⟩
    exact met.shown.closed (.inr (by simp [silence]))
  refine ⟨⟨events, met⟩, fun owed => ?_, fun error failed => ?_, ?_, fun timely => ?_,
    fun away isOpen => ⟨fun closed => ?_, closes⟩⟩
  · obtain passes | ⟨failure, same, overrun⟩ | ⟨error, failure, same, halts, -⟩ :=
      course_of_conduct conduct
    · rw [passes.followed] at owed
      cases owed
    · exact ⟨failure, same, .inr overrun⟩
    · exact ⟨failure, same, .inl (halts.owes_iff.1 owed)⟩
  · obtain ⟨_, _, -, halts, -⟩ := halts_of_unsound conduct not_sound_received failed
    exact halts.silent_of_received failed
  · rintro ⟨before, error, rfl⟩
    obtain ⟨_, _, -, halts, -⟩ := halts_of_unsound conduct not_sound_received
      (List.mem_append_right before (received_mem_silence error))
    exact halts.owes_iff.2 ⟨before, error, rfl⟩
  · have closed := closes timely
    exact ⟨closed, fun later => refused_contacts closed _⟩
  · rcases (met.alone away).2 closed with before | closing
    · rw [isOpen] at before
      cases before
    · obtain ⟨_, _, -, halts, -⟩ := halts_of_unsound conduct not_sound_closed closing
      obtain ⟨-, before, same, -⟩ := halts.timedOut_of_closed closing
      exact ⟨before, same⟩

/-- A channel on which the reply to a command never comes. -/
def tardy : Channel Script :=
  { transport := { incoming := [⟨none, .ok Response.ok.encode⟩] }, timeout := some 5 }

/-- An operation that times out on such a channel leaves a debt behind and a closed channel. -/
theorem abandoned_debt_tardy :
    let ended := tardy.run (Service.reboot.procedure "device")
    let contacts := tardy.contacts (Service.reboot.procedure "device")
    ended.1 = some (.error (.connectivity .timedOut)) ∧
      (∃ events, Met tardy ended.2 contacts events) ∧ (resting.follow contacts).Owes ∧
      ended.2.closed = true ∧
      ∀ contact ∈ ended.2.contacts (Service.commitConfig.procedure "device"), contact.Refused := by
  intro ended contacts
  have failed : tardy.run (Service.reboot.procedure "device") =
      (some (.error (.connectivity .timedOut)), ended.2) := Prod.ext rfl rfl
  obtain ⟨met, -, -, owes, closes, timely⟩ := abandoned_debt "device" .reboot failed
  obtain ⟨before, late⟩ := (timely rfl rfl).1 rfl
  obtain ⟨closed, refuses⟩ := closes ⟨before, late⟩
  exact ⟨rfl, met, owes ⟨before, .timedOut, late⟩, closed, refuses .commitConfig⟩

/-- A channel whose device announces one block more than a transfer takes, and then sends them. -/
def overfull : Channel Script :=
  { transport := { incoming := [⟨some 0, .ok (Response.config 65).encode⟩,
      ⟨some 0, .ok (Block.ofBytes Response.ok.encode).bytes⟩] } }

/-- A read refuses that header while 65 blocks are owed, and leaves the channel open: the next
command takes the first of them for its acknowledgement. -/
theorem overfull_header_unclosed :
    let ended := overfull.run (Service.readPayload.procedure "device")
    let contacts := overfull.contacts (Service.readPayload.procedure "device")
    ended.1 = some (.error (.protocol (.blockCountOutOfRange 65))) ∧
      ended.2.seen.filter Event.ofContact =
        [.sending Command.readConfig.encode, .sent Command.readConfig.encode, .receiving,
          .received (Response.config 65).encode] ∧
      contacts = [.sent Command.readConfig.encode (.ok ()),
        .received (.ok (Response.config 65).encode)] ∧
      resting.follow contacts = .answered 65 ∧
      ended.2.closed = false ∧
      (ended.2.run (Service.reboot.procedure "device")).1 = some (.ok ()) :=
  ⟨rfl, rfl, rfl, rfl, rfl, rfl⟩

end ControlLink.Session
