/-
# ControlLink.Proofs.Session.Update — a firmware update from its start to its abort

`flash_sequence` says of an update of the firmware, on any channel, that it does what `Updated`
describes: the start first, and nothing after one that is not accepted; then chunk by chunk the
frames of the chunk and one reply; the caller told of each progress right behind its reply
(`told_of_delivered`); the first completion or failure the end of it. A run that never ends does so
up to the action that is never answered.

An abort is attempted exactly if an accepted update fails for another reason than its channel, and
then once and as the last frame (`abort_of_updated`). This can be read off the frames because no
other frame of an update is the abort (`ne_abort_of_mem_chunkFrames`).
-/
import ControlLink.Proofs.Session.Conduct
import ControlLink.Session.Script

namespace ControlLink.Session

set_option autoImplicit false

open Wire

/-! ## The frames of an update -/

/-- A frame that is sent, or would be. -/
def Contact.attempt? : Contact → Option Bytes
  | .sent frame _ => some frame
  | _ => none

/-- The frames that contacts attempt to send. -/
def attempts (contacts : List Contact) : List Bytes := contacts.filterMap Contact.attempt?

theorem attempts_append (contacts more : List Contact) :
    attempts (contacts ++ more) = attempts contacts ++ attempts more := List.filterMap_append

variable {frames : List Bytes} {contacts : List Contact} {answer : Except Failure Bytes}

theorem attempts_silence (error : LinkError) : attempts (silence error) = [] := by
  cases error <;> rfl

/-- Of the frames of a trade, those up to the first that fails are attempted. -/
theorem attempts_of_traded (traded : Traded frames contacts answer) :
    attempts contacts <+: frames := by
  induction traded with
  | answered => exact List.nil_prefix
  | unanswered => exact attempts_silence _ ▸ List.nil_prefix
  | unsent => exact List.cons_prefix_cons.2 ⟨rfl, List.nil_prefix⟩
  | sent _ ih => exact List.cons_prefix_cons.2 ⟨rfl, ih⟩

/-- Once there is an answer, every frame of a trade has been sent. -/
theorem attempts_of_answered {frame : Bytes} (traded : Traded frames contacts (.ok frame)) :
    attempts contacts = frames := by
  generalize same : Except.ok frame = answer at traded
  induction traded with
  | answered => rfl
  | unanswered => cases same
  | unsent => cases same
  | sent _ ih => exact congrArg (_ :: ·) (ih same)

theorem attempts_of_traded_single {frame : Bytes} (traded : Traded [frame] contacts answer) :
    attempts contacts = [frame] := by
  have begins := attempts_of_traded traded
  cases traded with
  | unsent => rfl
  | sent onward =>
      have others : attempts _ = [] := List.prefix_nil.1 (List.cons_prefix_cons.1 begins).2
      exact congrArg (frame :: ·) others

/-- The frames of a chunk of an image: the command that announces its length and its packets, and
these packets. -/
theorem chunkFrames_of_mem_chunks {image : Firmware.Image} {chunk : Firmware.Chunk}
    (member : chunk ∈ image.chunks) :
    ∃ (packets : BlockCount) (blocks : List Block), chunk.packets = .ok blocks ∧
      blocks.length = packets.val ∧
      chunkFrames chunk = (Command.updateData packets (UInt16.ofNat chunk.bytes.length)).encode ::
        blocks.map Block.bytes := by
  obtain ⟨command, headed⟩ := Firmware.Chunk.header_of_mem_chunks member
  obtain ⟨packets, blocks, rfl, split, counted, frames⟩ := chunkFrames_of_header headed
  exact ⟨packets, blocks, split, counted, frames⟩

theorem ne_abort_of_mem_chunkFrames {image : Firmware.Image} {chunk : Firmware.Chunk}
    {frame : Bytes} (member : chunk ∈ image.chunks) (inside : frame ∈ chunkFrames chunk) :
    frame ≠ Command.updateAbort.encode := by
  obtain ⟨packets, blocks, -, -, frames⟩ := chunkFrames_of_mem_chunks member
  rw [frames] at inside
  rcases List.mem_cons.1 inside with rfl | packet
  · intro same
    cases Command.encode_inj.1 same
  · obtain ⟨block, -, rfl⟩ := List.mem_map.1 packet
    intro same
    have short := block.size_eq
    rw [same] at short
    cases short

section Chunks

variable {size : UInt32} {chunks : List Firmware.Chunk} {result : Except Failure Unit}

/-- Of the frames of the chunks, those up to the first that fails are attempted. -/
theorem attempts_of_delivered (delivered : Delivered size chunks contacts result) :
    attempts contacts <+: chunks.flatMap chunkFrames := by
  have first {chunk : Firmware.Chunk} {chunks : List Firmware.Chunk} {contacts : List Contact}
      {answer : Except Failure Bytes} (traded : Traded (chunkFrames chunk) contacts answer) :
      attempts contacts <+: (chunk :: chunks).flatMap chunkFrames := by
    rw [List.flatMap_cons]
    exact (attempts_of_traded traded).trans (List.prefix_append ..)
  have later {chunk : Firmware.Chunk} {chunks : List Firmware.Chunk} {contacts more : List Contact}
      {frame : Bytes} (traded : Traded (chunkFrames chunk) contacts (.ok frame))
      (rest : attempts more <+: chunks.flatMap chunkFrames) :
      attempts (contacts ++ more) <+: (chunk :: chunks).flatMap chunkFrames := by
    rw [attempts_append, attempts_of_answered traded, List.flatMap_cons]
    exact (List.prefix_append_right_inj _).2 rest
  induction delivered with
  | exhausted => exact List.nil_prefix
  | lost traded => exact first traded
  | unreadable traded _ => exact first traded
  | refused traded _ => exact first traded
  | misplaced traded _ _ => exact first traded
  | complete traded _ => exact later traded List.nil_prefix
  | acknowledged traded _ _ ih => exact later traded ih
  | progress traded _ _ ih => exact later traded ih

/-! ## What the caller is told -/

def Contact.told? : Contact → Option Progress
  | .told progress => some progress
  | _ => none

def Contact.reply? : Contact → Option Bytes
  | .received (.ok frame) => some frame
  | _ => none

/-- The progress that the caller is told of for a reply to a chunk. -/
def toldOf (size : UInt32) (reply : Bytes) : Option Progress :=
  match reading reply with
  | .ok (.progress received total) => some ⟨received, total⟩
  | .ok .complete => some ⟨size, size⟩
  | _ => none

theorem toldOf_of_misplaced (size : UInt32) {reply : Bytes} {response : Response}
    (read : reading reply = .ok response)
    (kind : response.kind = .state ∨ response.kind = .config) : toldOf size reply = none := by
  rw [toldOf, read]
  cases response with
  | state _ => rfl
  | config _ => rfl
  | _ => rcases kind with kind | kind <;> cases kind

theorem told_of_traded (traded : Traded frames contacts answer) :
    contacts.filterMap Contact.told? = [] ∧
      contacts.filterMap Contact.reply? = answer.toOption.toList := by
  induction traded with
  | answered => exact ⟨rfl, rfl⟩
  | @unanswered error => cases error <;> exact ⟨rfl, rfl⟩
  | unsent => exact ⟨rfl, rfl⟩
  | sent _ ih => exact ih

/-- An answer is the first of the replies from there on. -/
theorem replies_of_answered {frame : Bytes} (more : List Contact)
    (traded : Traded frames contacts (.ok frame)) :
    (contacts ++ more).filterMap Contact.reply? = frame :: more.filterMap Contact.reply? := by
  rw [List.filterMap_append, (told_of_traded traded).2]
  rfl

/-- **The caller is told of every progress and of the completion, once and in the order of the
replies.** -/
theorem told_of_delivered (delivered : Delivered size chunks contacts result) :
    contacts.filterMap Contact.told? =
      (contacts.filterMap Contact.reply?).filterMap (toldOf size) := by
  induction delivered with
  | exhausted => rfl
  | lost traded =>
      obtain ⟨told, replies⟩ := told_of_traded traded
      rw [told, replies]
      rfl
  | unreadable traded read =>
      obtain ⟨told, replies⟩ := told_of_traded traded
      rw [told, replies]
      simp [Except.toOption, toldOf, read]
  | refused traded read =>
      obtain ⟨told, replies⟩ := told_of_traded traded
      rw [told, replies]
      simp [Except.toOption, toldOf, read]
  | misplaced traded read kind =>
      obtain ⟨told, replies⟩ := told_of_traded traded
      rw [told, replies]
      simp [Except.toOption, toldOf_of_misplaced size read kind]
  | complete traded read =>
      obtain ⟨told, replies⟩ := told_of_traded traded
      rw [List.filterMap_append, List.filterMap_append, told, replies]
      simp [Except.toOption, toldOf, read, Contact.told?, Contact.reply?]
  | acknowledged traded read _ ih =>
      obtain ⟨told, replies⟩ := told_of_traded traded
      rw [List.filterMap_append, List.filterMap_append, told, replies, List.nil_append, ih]
      simp [Except.toOption, toldOf, read]
  | @progress _ _ _ more _ received total _ traded read _ ih =>
      obtain ⟨told, replies⟩ := told_of_traded traded
      have silent : (.told ⟨received, total⟩ :: more).filterMap Contact.reply? =
          more.filterMap Contact.reply? := rfl
      rw [List.filterMap_append, List.filterMap_append, told, replies, List.nil_append, silent]
      simp [Except.toOption, toldOf, read, Contact.told?, ih]

end Chunks

/-! ## The abort -/

/-- The device has accepted the start of the update. -/
def Started (image : Firmware.Image) (contacts : List Contact) : Prop :=
  ∃ frame rest, contacts =
    .sent image.startCommand.encode (.ok ()) :: .received (.ok frame) :: rest ∧
      reading frame = .ok .ok

/-- An update that the device had accepted has failed, and not for its channel. -/
def Spoiled (image : Firmware.Image) (contacts : List Contact) (result : Except Failure Unit) :
    Prop :=
  Started image contacts ∧
    ∃ failure, result = .error failure ∧ ∀ error, failure ≠ .connectivity error

section Aborts

variable {image : Firmware.Image} {more : List Contact} {frame : Bytes}
  {result : Except Failure Unit}

theorem started_of_traded (traded : Traded [image.startCommand.encode] contacts (.ok frame))
    (accepted : reading frame = .ok .ok) : Started image (contacts ++ more) := by
  rw [eq_of_traded_single traded]
  exact ⟨frame, more, rfl, accepted⟩

theorem not_started_of_lost {failure : Failure}
    (traded : Traded [image.startCommand.encode] contacts (.error failure)) :
    ¬ Started image contacts := by
  rintro ⟨frame, rest, rfl, -⟩
  have replies := (told_of_traded traded).2
  cases replies

theorem start_ne_abort (image : Firmware.Image) :
    image.startCommand.encode ≠ Command.updateAbort.encode := by
  intro same
  cases Command.encode_inj.1 same

theorem abort_notMem_start (traded : Traded [image.startCommand.encode] contacts answer) :
    Command.updateAbort.encode ∉ attempts contacts := by
  rw [attempts_of_traded_single traded, List.mem_singleton]
  exact (start_ne_abort image).symm

theorem abort_notMem_middle {size : UInt32}
    (traded : Traded [image.startCommand.encode] contacts answer)
    (delivered : Delivered size image.chunks more result) :
    Command.updateAbort.encode ∉ attempts (contacts ++ more) := by
  rw [attempts_append, List.mem_append, not_or]
  refine ⟨abort_notMem_start traded, fun member => ?_⟩
  obtain ⟨chunk, inside, among⟩ :=
    List.mem_flatMap.1 ((attempts_of_delivered delivered).subset member)
  exact ne_abort_of_mem_chunkFrames inside among rfl

/-- **An abort is attempted exactly if an accepted update fails for another reason than its channel,
and then once and as the last frame.** -/
theorem abort_of_updated (updated : Updated image contacts result) :
    (Spoiled image contacts result ∧ ∃ frames,
        attempts contacts = frames ++ [Command.updateAbort.encode] ∧
        Command.updateAbort.encode ∉ frames) ∨
      ¬ Spoiled image contacts result ∧ Command.updateAbort.encode ∉ attempts contacts := by
  cases updated with
  | lost traded =>
      exact .inr ⟨fun started => not_started_of_lost traded started.1, abort_notMem_start traded⟩
  | @refused _ frame failure traded rejected =>
      refine .inr ⟨?_, abort_notMem_start traded⟩
      rintro ⟨⟨accepted, rest, same, read⟩, -⟩
      rw [eq_of_traded_single traded] at same
      cases same
      rw [read] at rejected
      cases rejected
  | complete traded _ delivered =>
      refine .inr ⟨?_, abort_notMem_middle traded delivered⟩
      rintro ⟨-, failure, same, -⟩
      cases same
  | @broken _ _ _ error traded _ delivered =>
      refine .inr ⟨?_, abort_notMem_middle traded delivered⟩
      rintro ⟨-, failure, same, other⟩
      cases same
      exact other error rfl
  | aborted traded accepted delivered other abandoned =>
      refine .inl ⟨⟨?_, _, rfl, other⟩, _, ?_, abort_notMem_middle traded delivered⟩
      · rw [List.append_assoc]
        exact started_of_traded traded accepted
      · rw [attempts_append, attempts_of_traded_single abandoned]

end Aborts

/-! ## Updates on channels -/

/-- **What a firmware update does, on any channel and whenever that closes.** The chunks are
together the image, each is announced and sent whole, and the caller is told what the replies to
them report. An update that ends has had the contacts of an update, with an abort last if it has to
be aborted. One that never ends has had those that lead to the action that is not answered: they are
the beginning of such contacts. -/
theorem flash_sequence {σ : Type} [Transport σ] (device : String) {data : Bytes}
    {image : Firmware.Image} (accepted : Firmware.Image.ofBytes data = .ok image)
    (channel : Channel σ) :
    (image.chunks.flatMap Firmware.Chunk.bytes = data ∧
      (UInt32.ofNat image.size).toNat = data.length ∧
      (∀ chunk ∈ image.chunks, ∃ (packets : BlockCount) (blocks : List Block),
        chunk.packets = .ok blocks ∧ blocks.length = packets.val ∧
        chunkFrames chunk = (Command.updateData packets
          (UInt16.ofNat chunk.bytes.length)).encode :: blocks.map Block.bytes) ∧
      ∀ contacts result, Delivered (UInt32.ofNat image.size) image.chunks contacts result →
        contacts.filterMap Contact.told? =
          (contacts.filterMap Contact.reply?).filterMap (toldOf (UInt32.ofNat image.size))) ∧
    (∀ result, (channel.run (flash device data).run).1 = some result →
      (∃ events, Met channel (channel.run (flash device data).run).2
        (channel.contacts (flash device data).run) events) ∧
      Updated image (channel.contacts (flash device data).run) result ∧
      ((Spoiled image (channel.contacts (flash device data).run) result ∧ ∃ frames,
          attempts (channel.contacts (flash device data).run) =
            frames ++ [Command.updateAbort.encode] ∧
          Command.updateAbort.encode ∉ frames) ∨
        ¬ Spoiled image (channel.contacts (flash device data).run) result ∧
          Command.updateAbort.encode ∉ attempts (channel.contacts (flash device data).run))) ∧
    ((channel.run (flash device data).run).1 = none →
      ∃ events between action answer more result,
        Met channel between (channel.contacts (flash device data).run) events ∧
        between.answer action = (none, (channel.run (flash device data).run).2) ∧
        refusal action = some answer ∧
        Updated image (channel.contacts (flash device data).run ++
          (Contact.ofAnswer action answer ++ more)) result) := by
  have whole : image.data = data := Firmware.Image.ofBytes_eq_ok_iff.1 accepted
  have updates (contacts : List Contact) (result : Except Failure Unit)
      (ends : Ends (flash device data).run contacts result) : Updated image contacts result :=
    updated_flash accepted ends
  obtain ⟨ended, unending⟩ := runs_of_ends updates channel
  refine ⟨⟨?_, ?_, fun chunk member => chunkFrames_of_mem_chunks member,
    fun _ _ delivered => told_of_delivered delivered⟩, fun result same => ?_, unending⟩
  · rw [Firmware.Chunk.flatMap_bytes_chunks, whole]
  · have small : image.data.length ≤ 0x100000 := image.length_le
    have fits : image.data.length < UInt32.size := Nat.lt_of_le_of_lt small (by decide)
    rw [Firmware.Image.size, UInt32.toNat_ofNat_of_lt' fits, whole]
  · obtain ⟨seen, updated⟩ := ended result same
    exact ⟨seen, updated, abort_of_updated updated⟩

/-- An update whose first chunk cannot be written is aborted, and fails with that fault. -/
theorem flash_sequence_failing :
    let ended := failing.run (flash "device" [0xE9]).run
    let contacts := failing.contacts (flash "device" [0xE9]).run
    ∃ image, Firmware.Image.ofBytes [0xE9] = .ok image ∧
      ended.1 = some (.error (.device (.update .writeFailed))) ∧
      (∃ events, Met failing ended.2 contacts events) ∧
      Updated image contacts (.error (.device (.update .writeFailed))) ∧
      ∃ frames, attempts contacts = frames ++ [Command.updateAbort.encode] := by
  intro ended contacts
  have accepted : Firmware.Image.ofBytes [0xE9] = .ok ⟨[0xE9], by decide, by decide⟩ := rfl
  have failed : ended.1 = some (.error (.device (.update .writeFailed))) := rfl
  obtain ⟨-, ends, -⟩ := flash_sequence "device" accepted failing
  obtain ⟨seen, updated, ⟨-, frames, last, -⟩ | ⟨fine, -⟩⟩ := ends _ failed
  · exact ⟨_, accepted, failed, seen, updated, frames, last⟩
  · exact absurd ⟨⟨Response.ok.encode, _, rfl, rfl⟩, _, rfl, nofun⟩ fine

end ControlLink.Session
