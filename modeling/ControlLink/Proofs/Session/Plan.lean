/-
# ControlLink.Proofs.Session.Plan — the frames of an update carry its image

The plan of an update are the frames that it sends if nothing fails: the start and then the frames
of one chunk after another (`plan`). What an update attempts to send is a beginning of its plan,
perhaps with an abort behind it (`attempts_of_updated`), and the whole of it if nothing stops the
update (`attempts_of_unstopped`).

`plan_received` says that a device which takes the frames of the plan one by one ends with the very
image, of the size and with the checksum that the start has announced, and how the chunks divide the
image among them.
-/
import ControlLink.Proofs.Device.Reception
import ControlLink.Proofs.Session.Update

namespace ControlLink.Session

set_option autoImplicit false

open Wire Firmware Device

/-- The frames of an update of which nothing fails. -/
def plan (image : Image) : List Bytes :=
  image.startCommand.encode :: image.chunks.flatMap chunkFrames

/-- A reply with which an update goes on to the next chunk. -/
def Onward (reply : Bytes) : Prop :=
  reading reply = .ok .ok ∨ ∃ received total, reading reply = .ok (.progress received total)

/-- Nothing stops an update before its plan is through: its channel does not fail, the start is
accepted, and the update goes on after every chunk but the last. -/
structure Unstopped (image : Image) (contacts : List Contact) (result : Except Failure Unit) :
    Prop where
  connected : ∀ error, result ≠ .error (.connectivity error)
  accepted : ∀ reply ∈ (contacts.filterMap Contact.reply?).take 1, reading reply = .ok .ok
  onward : ∀ reply ∈ ((contacts.filterMap Contact.reply?).drop 1).take (image.chunks.length - 1),
    Onward reply

section Plans

variable {image : Image} {contacts : List Contact}

/-- **An update attempts to send a beginning of its plan**, and perhaps an abort then. -/
theorem attempts_of_updated {result : Except Failure Unit}
    (updated : Updated image contacts result) :
    ∃ sent, sent <+: plan image ∧
      (attempts contacts = sent ∨ attempts contacts = sent ++ [Command.updateAbort.encode]) := by
  have start {contacts : List Contact} {answer : Except Failure Bytes}
      (traded : Traded [image.startCommand.encode] contacts answer) :
      attempts contacts <+: plan image := by
    rw [attempts_of_traded_single traded]
    exact List.cons_prefix_cons.2 ⟨rfl, List.nil_prefix⟩
  have middle {contacts more : List Contact} {answer : Except Failure Bytes} {size : UInt32}
      {result : Except Failure Unit} (traded : Traded [image.startCommand.encode] contacts answer)
      (delivered : Delivered size image.chunks more result) :
      attempts (contacts ++ more) <+: plan image := by
    rw [attempts_append, attempts_of_traded_single traded]
    exact List.cons_prefix_cons.2 ⟨rfl, attempts_of_delivered delivered⟩
  cases updated with
  | lost traded => exact ⟨_, start traded, .inl rfl⟩
  | refused traded _ => exact ⟨_, start traded, .inl rfl⟩
  | complete traded _ delivered => exact ⟨_, middle traded delivered, .inl rfl⟩
  | broken traded _ delivered => exact ⟨_, middle traded delivered, .inl rfl⟩
  | aborted traded _ delivered _ abandoned =>
      refine ⟨_, middle traded delivered, .inr ?_⟩
      rw [attempts_append, attempts_of_traded_single abandoned]

theorem not_onward_of_misplaced {reply : Bytes} {response : Response}
    (read : reading reply = .ok response)
    (kind : response.kind = .state ∨ response.kind = .config) : ¬ Onward reply := by
  rintro (same | ⟨_, _, same⟩)
  all_goals
    rw [read] at same
    cases same
    rcases kind with kind | kind <;> cases kind

/-- Chunks of which all but the last let the update go on are all sent. -/
theorem attempts_of_onward {size : UInt32} {chunks : List Chunk} {result : Except Failure Unit}
    (delivered : Delivered size chunks contacts result)
    (connected : ∀ error, result ≠ .error (.connectivity error))
    (onward : ∀ reply ∈ (contacts.filterMap Contact.reply?).take (chunks.length - 1),
      Onward reply) : attempts contacts = chunks.flatMap chunkFrames := by
  -- Only the reply to the last chunk may stop the update.
  have stopped {chunk : Chunk} {chunks : List Chunk} {contacts : List Contact} {frame : Bytes}
      {replies : List Bytes} (sent : attempts contacts = chunkFrames chunk)
      (same : contacts.filterMap Contact.reply? = frame :: replies) (stops : ¬ Onward frame)
      (onward : ∀ reply ∈ (contacts.filterMap Contact.reply?).take chunks.length, Onward reply) :
      attempts contacts = (chunk :: chunks).flatMap chunkFrames := by
    rw [same] at onward
    cases chunks with
    | nil => rw [sent, List.flatMap_singleton]
    | cons => exact absurd (onward frame List.mem_cons_self) stops
  have later {chunk : Chunk} {chunks : List Chunk} {contacts more : List Contact} {frame : Bytes}
      (traded : Traded (chunkFrames chunk) contacts (.ok frame))
      (onward : ∀ reply ∈ ((contacts ++ more).filterMap Contact.reply?).take chunks.length,
        Onward reply)
      (rest : (∀ reply ∈ (more.filterMap Contact.reply?).take (chunks.length - 1),
        Onward reply) → attempts more = chunks.flatMap chunkFrames) :
      attempts (contacts ++ more) = (chunk :: chunks).flatMap chunkFrames := by
    rw [attempts_append, attempts_of_answered traded, List.flatMap_cons, rest]
    intro reply member
    apply onward
    rw [replies_of_answered more traded]
    cases chunks with
    | nil => cases member
    | cons => exact List.mem_cons_of_mem _ member
  induction delivered with
  | exhausted => rfl
  | lost traded =>
      obtain ⟨error, rfl⟩ := connectivity_of_traded traded
      exact absurd rfl (connected error)
  | unreadable traded read =>
      exact stopped (attempts_of_answered traded) (told_of_traded traded).2
        (by simp [Onward, read]) onward
  | refused traded read =>
      exact stopped (attempts_of_answered traded) (told_of_traded traded).2
        (by simp [Onward, read]) onward
  | misplaced traded read kind =>
      exact stopped (attempts_of_answered traded) (told_of_traded traded).2
        (not_onward_of_misplaced read kind) onward
  | @complete _ _ contacts _ traded read =>
      have sent : attempts (contacts ++ [.told ⟨size, size⟩]) = attempts contacts ++ [] :=
        attempts_append ..
      rw [List.append_nil, attempts_of_answered traded] at sent
      exact stopped sent (replies_of_answered _ traded) (by simp [Onward, read]) onward
  | acknowledged traded _ _ ih => exact later traded onward (ih connected)
  | progress traded _ _ ih => exact later traded onward (ih connected)

/-- **An update that nothing stops attempts to send its whole plan**, and the abort behind it if it
fails all the same. -/
theorem attempts_of_unstopped {result : Except Failure Unit}
    (updated : Updated image contacts result) (unstopped : Unstopped image contacts result) :
    result = .ok () ∧ attempts contacts = plan image ∨
      ∃ failure, result = .error failure ∧
        attempts contacts = plan image ++ [Command.updateAbort.encode] := by
  obtain ⟨connected, accepted, onward⟩ := unstopped
  have middle {contacts more last : List Contact} {frame : Bytes} {result : Except Failure Unit}
      (traded : Traded [image.startCommand.encode] contacts (.ok frame))
      (delivered : Delivered (UInt32.ofNat image.size) image.chunks more result)
      (connected : ∀ error, result ≠ .error (.connectivity error))
      (onward : ∀ reply ∈ (((contacts ++ more ++ last).filterMap Contact.reply?).drop 1).take
        (image.chunks.length - 1), Onward reply) : attempts (contacts ++ more) = plan image := by
    rw [attempts_append, attempts_of_traded_single traded, plan, List.singleton_append,
      attempts_of_onward delivered connected]
    intro reply member
    apply onward
    rw [List.append_assoc, replies_of_answered _ traded, List.drop_one, List.tail_cons,
      List.filterMap_append, List.take_append]
    exact List.mem_append_left _ member
  cases updated with
  | lost traded =>
      obtain ⟨error, rfl⟩ := connectivity_of_traded traded
      exact absurd rfl (connected error)
  | @refused _ frame _ traded rejected =>
      rw [(told_of_traded traded).2] at accepted
      rw [accepted frame List.mem_cons_self] at rejected
      cases rejected
  | complete traded _ delivered =>
      rw [← List.append_nil (_ ++ _)] at onward
      exact .inl ⟨rfl, middle traded delivered connected onward⟩
  | broken => exact absurd rfl (connected _)
  | aborted traded _ delivered _ abandoned =>
      refine .inr ⟨_, rfl, ?_⟩
      rw [attempts_append, attempts_of_traded_single abandoned,
        middle traded delivered connected onward]

/-- Every chunk of an image can be announced and carried, and what is sent of it are the frames in
which it travels. -/
theorem carried_of_mem_chunks {chunk : Chunk} (member : chunk ∈ image.chunks) :
    ∃ packets blocks, chunk.Carried packets blocks ∧
      chunkFrames chunk = (Command.updateData packets (UInt16.ofNat chunk.bytes.length)).encode ::
        blocks.map Block.bytes := by
  obtain ⟨command, headed⟩ := Chunk.header_of_mem_chunks member
  obtain ⟨packets, blocks, carried⟩ := Chunk.carried_of_header headed
  refine ⟨packets, blocks, carried, ?_⟩
  simp only [chunkFrames, carried.header_eq, carried.packets_eq, Except.toOption]
  rfl

theorem toNat_size (image : Image) : (UInt32.ofNat image.size).toNat = image.data.length := by
  have small : image.data.length < UInt32.size :=
    Nat.lt_of_le_of_lt image.length_le (by decide)
  rw [Image.size, UInt32.toNat_ofNat_of_lt' small]

/-- A device that takes the plan has the image. -/
theorem takeAll?_plan (image : Image) :
    Reception.idle.takeAll? (plan image) =
      some (.ready ⟨UInt32.ofNat image.size, crc32 image.data, image.data⟩) := by
  have started : Reception.idle.take? image.startCommand.encode =
      some (.ready ⟨UInt32.ofNat image.size, crc32 image.data, []⟩) := by
    simp only [Reception.take?, Command.decode_encode, Image.startCommand, Image.checksum]
  rw [plan, Reception.takeAll?, started, Option.bind_some,
    Reception.takeAll?_chunks (fun chunk member => carried_of_mem_chunks member),
    Chunk.flatMap_bytes_chunks]
  rfl

end Plans

/-- **The plan of an update carries its image exactly.** Data that is neither empty nor too large is
an image; an update of it sends a beginning of the plan, and the whole plan if nothing stops it; and
a device that takes the plan has the data, as many bytes as the start has announced and with the
checksum that it has announced. Each chunk starts where those before it end and is announced with
its length and its packets, which are at least one and at most 64 and carry nothing but zeros behind
it. Only the last chunk may be short. -/
theorem plan_received {data : Bytes} (some_data : 1 ≤ data.length)
    (fits : data.length ≤ 0x100000) :
    ∃ image, Image.ofBytes data = .ok image ∧
      (∃ received : Received, Reception.idle.takeAll? (plan image) = some (.ready received) ∧
        received.data = data ∧ received.size.toNat = data.length ∧
        received.checksum = crc32 received.data) ∧
      (∀ index (inside : index < image.chunks.length),
        (index + 1 < image.chunks.length → image.chunks[index].bytes.length = 4096) ∧
        1 ≤ image.chunks[index].bytes.length ∧ image.chunks[index].bytes.length ≤ 4096 ∧
        image.chunks[index].offset = ((image.chunks.take index).map (·.bytes.length)).sum ∧
        ∃ packets blocks, image.chunks[index].Carried packets blocks ∧
          1 ≤ packets.val ∧ packets.val ≤ 64 ∧ packets.toByte.toNat = packets.val ∧
          chunkFrames image.chunks[index] = (Command.updateData packets
            (UInt16.ofNat image.chunks[index].bytes.length)).encode :: blocks.map Block.bytes) ∧
      ∀ device contacts result, Ends (flash device data).run contacts result →
        (∃ sent, sent <+: plan image ∧ (attempts contacts = sent ∨
          attempts contacts = sent ++ [Command.updateAbort.encode])) ∧
        (Unstopped image contacts result →
          result = .ok () ∧ attempts contacts = plan image ∨
          ∃ failure, result = .error failure ∧
            attempts contacts = plan image ++ [Command.updateAbort.encode]) := by
  have nonempty : data ≠ [] := List.ne_nil_of_length_pos some_data
  let image : Image := ⟨data, nonempty, fits⟩
  have accepted : Image.ofBytes data = .ok image := Image.ofBytes_eq_ok_iff.2 rfl
  refine ⟨image, accepted, ⟨_, takeAll?_plan image, rfl, toNat_size image, rfl⟩, ?_, ?_⟩
  · intro index inside
    have positive := Chunk.length_pos inside
    obtain ⟨packets, blocks, carried, frames⟩ :=
      carried_of_mem_chunks (List.getElem_mem inside)
    have needed : 0 < packets.val := by
      rw [carried.needed, Bytes.lt_pieceCount_iff (by decide)]
      omega
    exact ⟨Chunk.length_of_later inside, positive, Chunk.length_le inside,
      Chunk.offset_eq_sum inside, packets, blocks, carried, needed, packets.le_limit,
      packets.toNat_toByte, frames⟩
  · intro device contacts result ends
    have updated := updated_flash accepted ends
    exact ⟨attempts_of_updated updated, attempts_of_unstopped updated⟩

/-- A channel whose device takes an image of two chunks. -/
def gradual : Channel Script :=
  { transport := { incoming := [⟨some 0, .ok Response.ok.encode⟩,
      ⟨some 0, .ok (Response.progress 4096 4097).encode⟩,
      ⟨some 0, .ok Response.complete.encode⟩] } }

/-- An image of one byte more than a chunk holds. -/
theorem plan_received_two_chunks : ∃ image received,
    Image.ofBytes (List.replicate 4097 0xE9) = .ok image ∧
      Reception.idle.takeAll? (plan image) = some (.ready received) ∧
      received.data = List.replicate 4097 0xE9 ∧ received.size.toNat = 4097 ∧
      (gradual.run (flash "device" (List.replicate 4097 0xE9)).run).1 = some (.ok ()) ∧
      attempts (gradual.contacts (flash "device" (List.replicate 4097 0xE9)).run) =
        plan image := by
  have size : (List.replicate 4097 (0xE9 : UInt8)).length = 4097 := List.length_replicate
  have some_data : 1 ≤ (List.replicate 4097 (0xE9 : UInt8)).length := by rw [size]; decide
  have fits : (List.replicate 4097 (0xE9 : UInt8)).length ≤ 0x100000 := by rw [size]; decide
  obtain ⟨image, accepted, ⟨received, taken, whole, counted, -⟩, -, sends⟩ :=
    plan_received some_data fits
  have replies : (gradual.contacts (flash "device" (List.replicate 4097 0xE9)).run).filterMap
      Contact.reply? = [Response.ok.encode, (Response.progress 4096 4097).encode,
        Response.complete.encode] := by decide +kernel
  have succeeds : (gradual.run (flash "device" (List.replicate 4097 0xE9)).run).1.map
      Except.isOk = some true := by decide +kernel
  have two : image.chunks.length = 2 := by
    rw [Chunk.length_chunks, Image.ofBytes_eq_ok_iff.1 accepted, size]
    decide
  obtain ⟨outcome, ended, fine⟩ := Option.map_eq_some_iff.1 succeeds
  cases outcome with
  | error failure => cases fine
  | ok _ =>
      obtain ⟨-, -, sent⟩ := (runs_of_ends (sends "device") gradual).1 _ ended
      have unstopped : Unstopped image
          (gradual.contacts (flash "device" (List.replicate 4097 0xE9)).run) (.ok ()) := by
        refine ⟨nofun, ?_, ?_⟩
        · rw [replies]
          exact List.forall_mem_singleton.2 rfl
        · rw [replies, two]
          exact List.forall_mem_singleton.2 (.inr ⟨_, _, rfl⟩)
      obtain ⟨-, planned⟩ | ⟨_, same, -⟩ := sent unstopped
      · exact ⟨image, received, accepted, taken, whole, counted.trans size, ended, planned⟩
      · cases same

end ControlLink.Session
