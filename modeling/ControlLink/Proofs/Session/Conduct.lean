/-
# ControlLink.Proofs.Session.Conduct — what every operation may have to do with its channel

Most operations trade frames for one answer: they send a command and what follows it, receive one
frame, and make something of that (`Traded`, `Trades`). A read goes on to collect the blocks that
its header announces (`Collected`, and `Fetched` without the bytes in them). An update trades its
start, then chunk after chunk, and after a failure of its own the abort (`Updated`).
`procedure_conduct` says of every operation that its contacts, under any answers, are of one of
these forms, with the result that belongs to them.
-/
import ControlLink.Proofs.Session.Contact
import ControlLink.Proofs.Session.Exchange
import ControlLink.Proofs.Session.Refusal

namespace ControlLink.Session

set_option autoImplicit false

open Wire Metrics Transfer

variable {α β : Type}

/-! ## Frames for an answer -/

/-- The contacts in which frames are sent one after another and then one is received. The first that
fails ends them. -/
inductive Traded : List Bytes → List Contact → Except Failure Bytes → Prop where
  | answered {frame : Bytes} : Traded [] [.received (.ok frame)] (.ok frame)
  | unanswered {error : LinkError} : Traded [] (silence error) (.error (.connectivity error))
  | unsent {frame : Bytes} {frames : List Bytes} {error : LinkError} :
      Traded (frame :: frames) [.sent frame (.error error)] (.error (.connectivity error))
  | sent {frame : Bytes} {frames : List Bytes} {contacts : List Contact}
      {answer : Except Failure Bytes} : Traded frames contacts answer →
      Traded (frame :: frames) (.sent frame (.ok ()) :: contacts) answer

/-- A frame alone and the reply to it. -/
theorem eq_of_traded_single {sent frame : Bytes} {contacts : List Contact}
    (traded : Traded [sent] contacts (.ok frame)) :
    contacts = [.sent sent (.ok ()), .received (.ok frame)] := by
  cases traded with
  | sent onward =>
      cases onward
      rfl

/-- Only a channel that fails keeps frames from their answer. -/
theorem connectivity_of_traded {frames : List Bytes} {contacts : List Contact} {failure : Failure}
    (traded : Traded frames contacts (.error failure)) :
    ∃ error, failure = .connectivity error := by
  generalize same : Except.error failure = answer at traded
  induction traded with
  | answered => cases same
  | unanswered => exact ⟨_, Except.error.inj same⟩
  | unsent => exact ⟨_, Except.error.inj same⟩
  | sent _ ih => exact ih same

/-- The operation trades these frames for an answer, and ends with what it makes of that. -/
def Trades (operation : Operation α) (frames : List Bytes) (judge : Bytes → Except Failure α) :
    Prop :=
  ∀ contacts result, Ends operation.run contacts result →
    ∃ answer, Traded frames contacts answer ∧ result = answer >>= judge

section Trades

variable {labels : OperationLabels} {operation : Operation α} {frames : List Bytes}
  {judge : Bytes → Except Failure α}

theorem trades_receive : Trades (receive labels) [] .ok := by
  intro contacts result ends
  obtain ⟨frame, rfl, rfl⟩ | ⟨error, rfl, rfl⟩ := ends_receive ends
  · exact ⟨_, .answered, rfl⟩
  · exact ⟨_, .unanswered, rfl⟩

/-- A value is judged further without a contact. -/
theorem trades_then {next : α → Operation β} {verdict : α → Except Failure β}
    (trades : Trades operation frames judge)
    (judged : ∀ value, next value = attempt (verdict value)) :
    Trades (operation >>= next) frames fun frame => judge frame >>= verdict := by
  intro contacts result ends
  obtain ⟨failure, rfl, lost⟩ | ⟨value, first, more, begun, onward, rfl⟩ := ends_then ends
  · obtain ⟨answer, traded, same⟩ := trades _ _ lost
    refine ⟨answer, traded, ?_⟩
    cases answer with
    | error _ => cases same; rfl
    | ok frame =>
        show .error failure = judge frame >>= verdict
        rw [show judge frame = .error failure from same.symm]
        rfl
  · obtain ⟨answer, traded, same⟩ := trades _ _ begun
    rw [judged] at onward
    obtain ⟨rfl, rfl⟩ := ends_attempt.1 onward
    rw [List.append_nil]
    refine ⟨answer, traded, ?_⟩
    cases answer with
    | error _ => cases same
    | ok frame =>
        show verdict value = judge frame >>= verdict
        rw [show judge frame = .ok value from same.symm]
        rfl

/-- A step that is no contact may come before. -/
theorem trades_of_silent {first : Operation Unit}
    (silent : ∀ contacts result, Ends first.run contacts result → contacts = [] ∧ result = .ok ())
    (trades : Trades operation frames judge) :
    Trades (first >>= fun _ => operation) frames judge := by
  intro contacts result ends
  obtain ⟨failure, rfl, lost⟩ | ⟨_, _, more, begun, onward, rfl⟩ := ends_then ends
  · cases (silent _ _ lost).2
  · obtain ⟨rfl, -⟩ := silent _ _ begun
    exact trades _ _ onward

theorem trades_send (frame : Bytes) (trades : Trades operation frames judge) :
    Trades (send labels frame >>= fun _ => operation) (frame :: frames) judge := by
  intro contacts result ends
  obtain ⟨failure, rfl, lost⟩ | ⟨_, _, more, begun, onward, rfl⟩ := ends_then ends
  · obtain ⟨answer, rfl, same⟩ := ends_send lost
    cases answer with
    | ok => cases same
    | error error =>
        cases same
        exact ⟨_, .unsent, rfl⟩
  · obtain ⟨answer, rfl, same⟩ := ends_send begun
    cases answer with
    | error error => cases same
    | ok =>
        obtain ⟨answer, traded, rfl⟩ := trades _ _ onward
        exact ⟨answer, .sent traded, rfl⟩

theorem trades_blocks (blocks : List Block) (trades : Trades operation frames judge) :
    Trades ((blocks.forM fun block => send labels block.bytes : Operation PUnit) >>=
      fun _ => operation) (blocks.map Block.bytes ++ frames) judge := by
  induction blocks with
  | nil => exact trades
  | cons block blocks ih =>
      have unfolded : ((block :: blocks).forM fun block => send labels block.bytes) >>=
          (fun _ => operation) =
          send labels block.bytes >>= fun _ =>
            (blocks.forM fun block => send labels block.bytes) >>= fun _ => operation :=
        bind_assoc ..
      rw [unfolded]
      exact trades_send block.bytes ih

theorem trades_receiveResponse : Trades (receiveResponse labels) [] reading := by
  intro contacts result ends
  obtain ⟨answer, received, rfl⟩ := ends_receiveResponse ends
  obtain ⟨answer, traded, rfl⟩ := trades_receive _ _ received
  exact ⟨answer, traded, by cases answer <;> rfl⟩

theorem trades_exchange (command : Command) :
    Trades (exchange labels command) [command.encode] reading :=
  trades_send command.encode trades_receiveResponse

theorem trades_recorded {device name : String} {body : OperationLabels → Operation α}
    (trades : Trades (body ⟨device, name⟩) frames judge) :
    Trades (recorded device name body) frames judge :=
  fun contacts result ends => trades contacts result (ends_recorded ends)

end Trades

/-- A write that can be made trades its command and its blocks for a verdict. -/
theorem trades_writeBlocks {labels : OperationLabels} {payload : Bytes} {transfer : WriteTransfer}
    (made : WriteTransfer.ofPayload payload = .ok transfer) :
    Trades (writeBlocks labels payload)
      ((Command.writeConfig transfer.count).encode :: transfer.blocks.map Block.bytes)
      WriteTransfer.verdict := by
  have received : Trades (receive labels >>= fun frame => attempt (WriteTransfer.verdict frame)) []
      WriteTransfer.verdict := trades_then trades_receive fun _ => rfl
  rw [writeBlocks_of_made labels made, ← List.append_nil (transfer.blocks.map Block.bytes)]
  apply trades_send
  apply trades_blocks
  exact trades_of_silent (fun _ _ => ends_countBlocks) received

/-! ## Updates -/

/-- The frames of a chunk: the command that announces it, and its packets. -/
def chunkFrames (chunk : Firmware.Chunk) : List Bytes :=
  (chunk.header.toOption.map Command.encode).toList ++
    (chunk.packets.toOption.getD []).map Block.bytes

theorem chunkFrames_of_header {chunk : Firmware.Chunk} {command : Command}
    (headed : chunk.header = .ok command) :
    ∃ (packets : BlockCount) (blocks : List Block),
      command = .updateData packets (UInt16.ofNat chunk.bytes.length) ∧
        chunk.packets = .ok blocks ∧ blocks.length = packets.val ∧
        chunkFrames chunk = command.encode :: blocks.map Block.bytes := by
  obtain ⟨packets, blocks, rfl, split, counted⟩ := Firmware.Chunk.packets_of_header headed
  refine ⟨packets, blocks, rfl, split, counted, ?_⟩
  rw [chunkFrames, headed, split]
  rfl

/-- A chunk that can be announced trades its frames for a response. -/
theorem trades_sendChunk {labels : OperationLabels} {chunk : Firmware.Chunk} {command : Command}
    (headed : chunk.header = .ok command) :
    Trades (sendChunk labels chunk) (chunkFrames chunk) reading := by
  obtain ⟨packets, blocks, -, split, -, frames⟩ := chunkFrames_of_header headed
  unfold sendChunk sendCommand
  simp only [headed, split, Except.mapError, attempt_ok_bind]
  rw [frames, ← List.append_nil (blocks.map Block.bytes)]
  apply trades_send
  apply trades_blocks
  exact trades_of_silent (fun _ _ => ends_countBlocks) trades_receiveResponse

/-- The contacts in which chunks are sent, and their result. The caller is told of every progress
that the device reports, and of the whole image once it reports completion. -/
inductive Delivered (size : UInt32) :
    List Firmware.Chunk → List Contact → Except Failure Unit → Prop where
  /-- Every chunk has been sent, and the device does not say that the image is complete. -/
  | exhausted : Delivered size [] [] (.error (.protocol (.invalidData .noCompletion)))
  | lost {chunk : Firmware.Chunk} {chunks : List Firmware.Chunk} {contacts : List Contact}
      {failure : Failure} : Traded (chunkFrames chunk) contacts (.error failure) →
      Delivered size (chunk :: chunks) contacts (.error failure)
  | unreadable {chunk : Firmware.Chunk} {chunks : List Firmware.Chunk} {contacts : List Contact}
      {frame : Bytes} {failure : Failure} : Traded (chunkFrames chunk) contacts (.ok frame) →
      reading frame = .error failure →
      Delivered size (chunk :: chunks) contacts (.error failure)
  | refused {chunk : Firmware.Chunk} {chunks : List Firmware.Chunk} {contacts : List Contact}
      {frame : Bytes} {fault : Device.Fault} : Traded (chunkFrames chunk) contacts (.ok frame) →
      reading frame = .ok (.error fault) →
      Delivered size (chunk :: chunks) contacts (.error (.device fault))
  | misplaced {chunk : Firmware.Chunk} {chunks : List Firmware.Chunk} {contacts : List Contact}
      {frame : Bytes} {response : Response} : Traded (chunkFrames chunk) contacts (.ok frame) →
      reading frame = .ok response → response.kind = .state ∨ response.kind = .config →
      Delivered size (chunk :: chunks) contacts (.error (unexpected .progress response))
  | complete {chunk : Firmware.Chunk} {chunks : List Firmware.Chunk} {contacts : List Contact}
      {frame : Bytes} : Traded (chunkFrames chunk) contacts (.ok frame) →
      reading frame = .ok .complete →
      Delivered size (chunk :: chunks) (contacts ++ [.told ⟨size, size⟩]) (.ok ())
  | acknowledged {chunk : Firmware.Chunk} {chunks : List Firmware.Chunk}
      {contacts more : List Contact} {frame : Bytes} {result : Except Failure Unit} :
      Traded (chunkFrames chunk) contacts (.ok frame) → reading frame = .ok .ok →
      Delivered size chunks more result →
      Delivered size (chunk :: chunks) (contacts ++ more) result
  | progress {chunk : Firmware.Chunk} {chunks : List Firmware.Chunk}
      {contacts more : List Contact} {frame : Bytes} {received total : UInt32}
      {result : Except Failure Unit} : Traded (chunkFrames chunk) contacts (.ok frame) →
      reading frame = .ok (.progress received total) → Delivered size chunks more result →
      Delivered size (chunk :: chunks) (contacts ++ .told ⟨received, total⟩ :: more) result

/-- The contacts of an update of the firmware, and its result. -/
inductive Updated (image : Firmware.Image) : List Contact → Except Failure Unit → Prop where
  | lost {contacts : List Contact} {failure : Failure} :
      Traded [image.startCommand.encode] contacts (.error failure) →
      Updated image contacts (.error failure)
  /-- The device does not accept the start of the update. -/
  | refused {contacts : List Contact} {frame : Bytes} {failure : Failure} :
      Traded [image.startCommand.encode] contacts (.ok frame) →
      (reading frame >>= acknowledged) = .error failure →
      Updated image contacts (.error failure)
  | complete {contacts more : List Contact} {frame : Bytes} :
      Traded [image.startCommand.encode] contacts (.ok frame) → reading frame = .ok .ok →
      Delivered (UInt32.ofNat image.size) image.chunks more (.ok ()) →
      Updated image (contacts ++ more) (.ok ())
  /-- The channel fails in the middle of the image. -/
  | broken {contacts more : List Contact} {frame : Bytes} {error : LinkError} :
      Traded [image.startCommand.encode] contacts (.ok frame) → reading frame = .ok .ok →
      Delivered (UInt32.ofNat image.size) image.chunks more (.error (.connectivity error)) →
      Updated image (contacts ++ more) (.error (.connectivity error))
  /-- Any other failure in the middle of the image is followed by an abort. -/
  | aborted {contacts more last : List Contact} {frame : Bytes} {failure : Failure}
      {answer : Except Failure Bytes} :
      Traded [image.startCommand.encode] contacts (.ok frame) → reading frame = .ok .ok →
      Delivered (UInt32.ofNat image.size) image.chunks more (.error failure) →
      (∀ error, failure ≠ .connectivity error) →
      Traded [Command.updateAbort.encode] last answer →
      Updated image (contacts ++ more ++ last) (.error failure)

section Updates

variable {labels : OperationLabels} {contacts : List Contact}

/-- What is done after the response to a chunk. -/
theorem delivered_goOn {size : UInt32} {chunk : Firmware.Chunk} {chunks : List Firmware.Chunk}
    {more : List Contact} {frame : Bytes} {response : Response} {result : Except Failure Unit}
    (traded : Traded (chunkFrames chunk) contacts (.ok frame)) (read : reading frame = .ok response)
    (ends : Ends (goOn labels size chunks response).run more result)
    (rest : ∀ more result, Ends (sendChunks labels size chunks).run more result →
      Delivered size chunks more result) :
    Delivered size (chunk :: chunks) (contacts ++ more) result := by
  cases response with
  | progress received total =>
      obtain ⟨failure, rfl, lost⟩ | ⟨_, first, later, reported, onward, rfl⟩ := ends_then ends
      · cases (ends_lift lost).2
      · rw [ends_report (ends_lift reported).1]
        exact .progress traded read (rest _ _ onward)
  | complete =>
      obtain ⟨reported, rfl⟩ := ends_lift ends
      rw [ends_report reported]
      exact .complete traded read
  | ok => exact .acknowledged traded read (rest _ _ ends)
  | error fault =>
      obtain ⟨rfl, rfl⟩ := ends_attempt.1 ends
      rw [List.append_nil]
      exact .refused traded read
  | state status =>
      obtain ⟨rfl, rfl⟩ := ends_attempt.1 ends
      rw [List.append_nil]
      exact .misplaced traded read (.inl rfl)
  | config blocks =>
      obtain ⟨rfl, rfl⟩ := ends_attempt.1 ends
      rw [List.append_nil]
      exact .misplaced traded read (.inr rfl)

theorem delivered_sendChunks {size : UInt32} {chunks : List Firmware.Chunk}
    (headed : ∀ chunk ∈ chunks, ∃ command, chunk.header = .ok command) {contacts : List Contact}
    {result : Except Failure Unit}
    (ends : Ends (sendChunks labels size chunks).run contacts result) :
    Delivered size chunks contacts result := by
  induction chunks generalizing contacts result with
  | nil =>
      obtain ⟨rfl, rfl⟩ := ends_attempt.1 ends
      exact .exhausted
  | cons chunk chunks ih =>
      obtain ⟨⟨command, first⟩, others⟩ := List.forall_mem_cons.1 headed
      rw [sendChunks_cons] at ends
      obtain ⟨failure, rfl, lost⟩ | ⟨response, own, more, sent, onward, rfl⟩ := ends_then ends
      · obtain ⟨answer, traded, same⟩ := trades_sendChunk first _ _ lost
        cases answer with
        | error _ =>
            cases same
            exact .lost traded
        | ok frame => exact .unreadable traded same.symm
      · obtain ⟨answer, traded, same⟩ := trades_sendChunk first _ _ sent
        cases answer with
        | error _ => cases same
        | ok frame =>
            exact delivered_goOn traded same.symm onward fun _ _ rest => ih others rest

theorem ends_abort {failure : Failure} {value : Unit}
    (ends : Ends (abort labels failure) contacts value) :
    (∃ error, failure = .connectivity error ∧ contacts = []) ∨
      (∀ error, failure ≠ .connectivity error) ∧
        ∃ answer, Traded [Command.updateAbort.encode] contacts answer := by
  cases failure with
  | connectivity error => exact .inl ⟨error, rfl, (ends_done.1 ends).1⟩
  | _ =>
      refine .inr ⟨nofun, ?_⟩
      obtain ⟨_, _, _, exchanged, onward, rfl⟩ := ends_bind.1 (ends_of_note rfl ends)
      obtain ⟨rfl, -⟩ := ends_done.1 onward
      obtain ⟨answer, traded, -⟩ := trades_exchange .updateAbort _ _ exchanged
      exact ⟨answer, by rwa [List.append_nil]⟩

theorem eq_ok_of_acknowledged {response : Response} {value : Unit}
    (accepted : acknowledged response = .ok value) : response = .ok := by
  cases response with
  | ok => rfl
  | _ => cases accepted

theorem updated_sendImage {image : Firmware.Image} {result : Except Failure Unit}
    (ends : Ends (sendImage labels image).run contacts result) : Updated image contacts result := by
  have start : Trades (exchange labels image.startCommand >>= fun response =>
      attempt (acknowledged response)) [image.startCommand.encode]
      fun frame => reading frame >>= acknowledged :=
    trades_then (trades_exchange image.startCommand) fun _ => rfl
  unfold sendImage at ends
  rw [← bind_assoc] at ends
  obtain ⟨failure, rfl, lost⟩ | ⟨_, first, more, begun, onward, rfl⟩ := ends_then ends
  · obtain ⟨answer, traded, same⟩ := start _ _ lost
    cases answer with
    | error _ =>
        cases same
        exact .lost traded
    | ok frame => exact .refused traded same.symm
  obtain ⟨answer, traded, same⟩ := start _ _ begun
  cases answer with
  | error _ => cases same
  | ok frame =>
      have accepted : reading frame = .ok .ok := by
        have judged : (reading frame >>= acknowledged) = .ok _ := same.symm
        cases read : reading frame with
        | error failure =>
            rw [read] at judged
            cases judged
        | ok response =>
            rw [read] at judged
            rw [eq_ok_of_acknowledged judged]
      obtain ⟨outcome, middle, _, sent, aborting, rfl⟩ := ends_bind.1 onward
      have delivered := delivered_sendChunks
        (fun chunk member => Firmware.Chunk.header_of_mem_chunks member) sent
      cases outcome with
      | ok =>
          obtain ⟨rfl, rfl⟩ := ends_done.1 aborting
          rw [List.append_nil]
          exact .complete traded accepted delivered
      | error failure =>
          obtain ⟨_, last, _, abandoned, returned, rfl⟩ := ends_bind.1 aborting
          obtain ⟨rfl, rfl⟩ := ends_done.1 returned
          rw [List.append_nil]
          obtain ⟨error, rfl, rfl⟩ | ⟨own, answer, aborted⟩ := ends_abort abandoned
          · rw [List.append_nil]
            exact .broken traded accepted delivered
          · rw [← List.append_assoc]
            exact .aborted traded accepted delivered own aborted

end Updates

/-! ## Reads -/

/-- The contacts in which so many blocks are received, and what is wrong with the last of them. -/
inductive Gathered : Nat → List Contact → Option Failure → Prop where
  | all : Gathered 0 [] none
  | lost {left : Nat} {error : LinkError} :
      Gathered (left + 1) (silence error) (some (.connectivity error))
  | oversize {left : Nat} {frame : Bytes} : blockSize < frame.length →
      Gathered (left + 1) [.received (.ok frame)]
        (some (.protocol (.frameTooLong blockSize frame.length)))
  | next {left : Nat} {frame : Bytes} {contacts : List Contact} {outcome : Option Failure} :
      frame.length ≤ blockSize → Gathered left contacts outcome →
      Gathered (left + 1) (.received (.ok frame) :: contacts) outcome

/-- The contacts of a read of the configuration, and its result. -/
inductive Fetched : List Contact → Except Failure Bytes → Prop where
  | lost {contacts : List Contact} {failure : Failure} :
      Traded [Command.readConfig.encode] contacts (.error failure) →
      Fetched contacts (.error failure)
  /-- The answer is no header of a configuration that fits. -/
  | refused {contacts : List Contact} {frame : Bytes} {failure : Failure} :
      Traded [Command.readConfig.encode] contacts (.ok frame) →
      ReadTransfer.announced frame = .error failure → Fetched contacts (.error failure)
  | broken {contacts more : List Contact} {frame : Bytes} {count : BlockCount}
      {failure : Failure} : Traded [Command.readConfig.encode] contacts (.ok frame) →
      ReadTransfer.announced frame = .ok count → Gathered count.val more (some failure) →
      Fetched (contacts ++ more) (.error failure)
  | whole {contacts more : List Contact} {frame : Bytes} {count : BlockCount} {payload : Bytes} :
      Traded [Command.readConfig.encode] contacts (.ok frame) →
      ReadTransfer.announced frame = .ok count → Gathered count.val more none →
      Fetched (contacts ++ more) (.ok payload)

/-- Frames that are received one after another. -/
def arrivals (frames : List Bytes) : List Contact := frames.map fun frame => .received (.ok frame)

/-- What ends a row of blocks before its time: a frame does not come, or it is no block. -/
inductive Missed : List Contact → Failure → Prop where
  | silent {error : LinkError} : Missed (silence error) (.connectivity error)
  | oversize {frame : Bytes} : blockSize < frame.length →
      Missed [.received (.ok frame)] (.protocol (.frameTooLong blockSize frame.length))

/-- The contacts of a read of the configuration, frame by frame, and its result. -/
inductive Collected : List Contact → Except Failure Bytes → Prop where
  | unsent {error : LinkError} :
      Collected [.sent Command.readConfig.encode (.error error)] (.error (.connectivity error))
  | unanswered {error : LinkError} :
      Collected (.sent Command.readConfig.encode (.ok ()) :: silence error)
        (.error (.connectivity error))
  /-- The answer is no header of a configuration that fits. -/
  | refused {header : Bytes} {failure : Failure} :
      ReadTransfer.announced header = .error failure →
      Collected (.sent Command.readConfig.encode (.ok ()) :: arrivals [header]) (.error failure)
  | broken {header : Bytes} {count : BlockCount} {frames : List Bytes} {last : List Contact}
      {failure : Failure} : ReadTransfer.announced header = .ok count →
      frames.length < count.val → (∀ frame ∈ frames, frame.length ≤ blockSize) →
      Missed last failure →
      Collected (.sent Command.readConfig.encode (.ok ()) :: arrivals (header :: frames) ++ last)
        (.error failure)
  | whole {header : Bytes} {count : BlockCount} {frames : List Bytes} :
      ReadTransfer.announced header = .ok count → frames.length = count.val →
      (∀ frame ∈ frames, frame.length ≤ blockSize) →
      Collected (.sent Command.readConfig.encode (.ok ()) :: arrivals (header :: frames))
        (.ok (payloadOf (frames.flatMap fun frame => (Block.ofBytes frame).bytes)))

/-- The blocks that come before the row is complete or ends early. -/
theorem ends_receiveBlocks {labels : OperationLabels} {count : BlockCount} {left : Nat}
    {transfer : ReadTransfer} {frames : List Bytes} (holding : transfer.Holding count frames)
    (length_eq : frames.length + left = count.val) {contacts : List Contact}
    {result : Except Failure ReadTransfer}
    (ends : Ends (receiveBlocks labels left transfer).run contacts result) :
    ∃ more : List Bytes, (∀ frame ∈ more, frame.length ≤ blockSize) ∧
      ((more.length = left ∧ contacts = arrivals more ∧
          ∃ final, result = .ok final ∧ final.Holding count (frames ++ more)) ∨
        more.length < left ∧ ∃ last failure, contacts = arrivals more ++ last ∧
          result = .error failure ∧ Missed last failure) := by
  induction left generalizing transfer frames contacts with
  | zero =>
      obtain ⟨rfl, rfl⟩ := ends_done.1 ends
      have held : transfer.Holding count (frames ++ []) := by rwa [List.append_nil]
      exact ⟨[], nofun, .inl ⟨rfl, rfl, transfer, rfl, held⟩⟩
  | succ left ih =>
      unfold receiveBlocks at ends
      obtain ⟨failure, rfl, lost⟩ | ⟨frame, first, more, received, onward, rfl⟩ := ends_then ends
      · obtain ⟨frame, -, same⟩ | ⟨error, rfl, same⟩ := ends_receive lost
        · cases same
        · cases same
          exact ⟨[], nofun, .inr ⟨Nat.succ_pos left, _, _, rfl, rfl, .silent⟩⟩
      obtain ⟨_, rfl, same⟩ | ⟨error, -, same⟩ := ends_receive received
      · cases same
        have room : frames.length < count.val := by omega
        by_cases fits : frame.length ≤ blockSize
        · obtain ⟨accepted, holding'⟩ := ReadTransfer.block_of_holding holding room fits
          simp only [accepted, attempt_ok_bind] at onward
          have taken : (frames ++ [frame]).length + left = count.val := by
            rw [List.length_append, List.length_singleton]
            omega
          obtain ⟨others, small, rest⟩ := ih holding' taken onward
          refine ⟨frame :: others, List.forall_mem_cons.2 ⟨fits, small⟩, ?_⟩
          rcases rest with ⟨rfl, rfl, final, rfl, held⟩ | ⟨early, last, failure, rfl, rfl, missed⟩
          · rw [List.append_assoc] at held
            exact .inl ⟨rfl, rfl, final, rfl, held⟩
          · exact .inr ⟨Nat.succ_lt_succ early, last, failure, rfl, rfl, missed⟩
        · have long := Nat.lt_of_not_le fits
          simp only [ReadTransfer.block_of_oversize holding room long, attempt_error_bind] at onward
          obtain ⟨rfl, rfl⟩ := ends_attempt.1 onward
          exact ⟨[], nofun, .inr ⟨Nat.succ_pos left, _, _, rfl, rfl, .oversize long⟩⟩
      · cases same

/-- What follows a header that is accepted. -/
theorem collected_of_announced {labels : OperationLabels} {header : Bytes} {count : BlockCount}
    (announced : ReadTransfer.announced header = .ok count) {contacts : List Contact}
    {result : Except Failure Bytes}
    (ends : Ends (do
      let transfer ← receiveBlocks labels count.val (ReadTransfer.opened count)
      countBlocks labels "read" count.val
      attempt transfer.finish : Operation Bytes).run contacts result) :
    Collected (.sent Command.readConfig.encode (.ok ()) :: .received (.ok header) :: contacts)
      result := by
  have holding := ReadTransfer.opened_holding count
  have length_eq : ([] : List Bytes).length + count.val = count.val := Nat.zero_add _
  obtain ⟨failure, rfl, lost⟩ | ⟨final, middle, _, gathering, last, rfl⟩ := ends_then ends
  · obtain ⟨frames, small, ⟨-, -, _, same, -⟩ | ⟨early, last, _, rfl, same, missed⟩⟩ :=
      ends_receiveBlocks holding length_eq lost
    · cases same
    · cases same
      exact .broken announced early small missed
  obtain ⟨frames, small, ⟨full, rfl, _, same, held⟩ | ⟨-, _, _, -, same, -⟩⟩ :=
    ends_receiveBlocks holding length_eq gathering
  · cases same
    obtain ⟨failure, rfl, lost⟩ | ⟨_, _, _, counted, finished, rfl⟩ := ends_then last
    · cases (ends_countBlocks lost).2
    obtain ⟨rfl, -⟩ := ends_countBlocks counted
    rw [ReadTransfer.finish_of_holding held full] at finished
    obtain ⟨rfl, rfl⟩ := ends_attempt.1 finished
    rw [List.append_nil, List.append_nil]
    exact .whole announced full small
  · cases same

/-- **What a read takes frame by frame, and what it makes of that.** -/
theorem collected_readBlocks {labels : OperationLabels} {contacts : List Contact}
    {result : Except Failure Bytes} (ends : Ends (readBlocks labels).run contacts result) :
    Collected contacts result := by
  have asked : Trades (sendCommand labels .readConfig >>= fun _ => receive labels)
      [Command.readConfig.encode] .ok := trades_send _ trades_receive
  rw [readBlocks_eq, ← bind_assoc] at ends
  obtain ⟨failure, rfl, lost⟩ | ⟨header, first, _, begun, onward, rfl⟩ := ends_then ends
  · obtain ⟨answer, traded, same⟩ := asked _ _ lost
    cases traded with
    | unsent =>
        cases same
        exact .unsent
    | sent traded =>
        cases traded with
        | unanswered =>
            cases same
            exact .unanswered
        | answered => cases same
  obtain ⟨answer, traded, same⟩ := asked _ _ begun
  cases answer with
  | error _ => cases same
  | ok _ =>
      cases same
      rw [eq_of_traded_single traded]
      cases announced : ReadTransfer.announced header with
      | error failure =>
          rw [announced, attempt_error_bind] at onward
          obtain ⟨rfl, rfl⟩ := ends_attempt.1 onward
          exact .refused announced
      | ok count =>
          rw [announced, attempt_ok_bind] at onward
          exact collected_of_announced announced onward

/-- Blocks before others belong to the same row. -/
theorem gathered_arrivals {frames : List Bytes} {left : Nat} {contacts : List Contact}
    {outcome : Option Failure} (small : ∀ frame ∈ frames, frame.length ≤ blockSize)
    (gathered : Gathered left contacts outcome) :
    Gathered (frames.length + left) (arrivals frames ++ contacts) outcome := by
  induction frames with
  | nil =>
      rw [List.length_nil, Nat.zero_add]
      exact gathered
  | cons frame frames ih =>
      obtain ⟨first, others⟩ := List.forall_mem_cons.1 small
      rw [List.length_cons, Nat.add_right_comm]
      exact .next first (ih others)

theorem gathered_of_missed {last : List Contact} {failure : Failure} (left : Nat)
    (missed : Missed last failure) : Gathered (left + 1) last (some failure) := by
  cases missed with
  | silent => exact .lost
  | oversize long => exact .oversize long

theorem fetched_of_collected {contacts : List Contact} {result : Except Failure Bytes}
    (collected : Collected contacts result) : Fetched contacts result := by
  have asked (header : Bytes) : Traded [Command.readConfig.encode]
      (.sent Command.readConfig.encode (.ok ()) :: arrivals [header]) (.ok header) :=
    .sent .answered
  cases collected with
  | unsent => exact .lost .unsent
  | unanswered => exact .lost (.sent .unanswered)
  | refused refused => exact .refused (asked _) refused
  | @broken header count frames last failure announced early small missed =>
      have gathered := gathered_arrivals small
        (gathered_of_missed (count.val - frames.length - 1) missed)
      rw [show frames.length + (count.val - frames.length - 1 + 1) = count.val by omega]
        at gathered
      have fetched := Fetched.broken (asked header) announced gathered
      exact fetched
  | @whole header count frames announced full small =>
      have gathered := gathered_arrivals small .all
      rw [List.append_nil, Nat.add_zero, full] at gathered
      exact .whole (asked header) announced gathered

theorem fetched_readBlocks {labels : OperationLabels} {contacts : List Contact}
    {result : Except Failure Bytes} (ends : Ends (readBlocks labels).run contacts result) :
    Fetched contacts result :=
  fetched_of_collected (collected_readBlocks ends)

/-! ## Whole operations -/

/-- What a check complains about. -/
def complaint? {ε : Type} : Except ε α → Option ε
  | .ok _ => none
  | .error error => some error

/-- Why a local check refuses the argument of an operation. -/
def Service.unfit? : Service → Option RequestError
  | .writePayload payload => complaint? (WriteTransfer.ofPayload payload)
  | .writeConfig document => complaint? (Config.toPayload document)
  | .flash data => (complaint? (Firmware.Image.ofBytes data)).map .invalidArgument
  | _ => none

/-- The contacts of an operation whose argument a local check may refuse, and its result. -/
inductive Conduct : Option RequestError → List Contact → Except Failure α → Prop where
  | refused {error : RequestError} : Conduct (some error) [] (.error (.validation error))
  | traded {command : Command} {packets : List Block} {contacts : List Contact}
      {answer : Except Failure Bytes} (judge : Bytes → Except Failure α) :
      command.kind ≠ .readConfig → Exchange.followers command = packets.length →
      Traded (command.encode :: packets.map Block.bytes) contacts answer →
      Conduct none contacts (answer >>= judge)
  | fetched {contacts : List Contact} {payload : Except Failure Bytes}
      (judge : Bytes → Except Failure α) : Fetched contacts payload →
      Conduct none contacts (payload >>= judge)
  | updated {image : Firmware.Image} {contacts : List Contact} {result : Except Failure Unit}
      (judge : Unit → Except Failure α) : Updated image contacts result →
      Conduct none contacts (result >>= judge)

section Services

variable {device : String} {contacts : List Contact}

/-- An operation that trades a command alone. -/
theorem conduct_of_trades {operation : Operation α} {command : Command}
    {judge : Bytes → Except Failure α} {result : Except Failure α}
    (trades : Trades operation [command.encode] judge)
    (other : command.kind ≠ .readConfig) (alone : Exchange.followers command = 0)
    (ends : Ends operation.run contacts result) : Conduct none contacts result := by
  obtain ⟨answer, traded, rfl⟩ := trades _ _ ends
  have packets : Exchange.followers command = ([] : List Block).length := alone
  exact .traded judge other packets traded

theorem trades_simple (command : Command) : Trades (simple device command) [command.encode]
    fun frame => reading frame >>= acknowledged :=
  trades_recorded (trades_then (trades_exchange command) fun _ => rfl)

theorem trades_getStatus : Trades (getStatus device) [Command.getState.encode]
    fun frame => reading frame >>= statusOf := by
  refine trades_recorded (trades_then (trades_exchange .getState) fun response => ?_)
  cases response <;> rfl

theorem trades_updateStatus : Trades (updateStatus device) [Command.updateStatus.encode]
    fun frame => reading frame >>= progressOf := by
  refine trades_recorded (trades_then (trades_exchange .updateStatus) fun response => ?_)
  cases response <;> rfl

theorem bind_ok_eq (result : Except Failure α) : (result >>= .ok) = result := by
  cases result <;> rfl

theorem conduct_readPayload {result : Except Failure Bytes}
    (ends : Ends (readPayload device).run contacts result) : Conduct none contacts result := by
  rw [← bind_ok_eq result]
  exact .fetched .ok (fetched_readBlocks (ends_recorded ends))

theorem conduct_readConfig {result : Except Failure Json}
    (ends : Ends (readConfig device).run contacts result) : Conduct none contacts result := by
  unfold readConfig at ends
  obtain ⟨failure, rfl, lost⟩ | ⟨payload, _, _, read, onward, rfl⟩ := ends_then ends
  · exact .fetched Config.ofPayload (fetched_readBlocks (ends_recorded lost))
  · obtain ⟨rfl, rfl⟩ := ends_attempt.1 onward
    rw [List.append_nil]
    exact .fetched Config.ofPayload (fetched_readBlocks (ends_recorded read))

theorem conduct_writePayload {payload : Bytes} {result : Except Failure Unit}
    (ends : Ends (writePayload device payload).run contacts result) :
    Conduct (Service.writePayload payload).unfit? contacts result := by
  have written := ends_recorded ends
  rw [Service.unfit?]
  cases made : WriteTransfer.ofPayload payload with
  | error error =>
      rw [writeBlocks_of_refused _ made] at written
      obtain ⟨rfl, rfl⟩ := ends_attempt.1 written
      exact .refused
  | ok transfer =>
      obtain ⟨-, -, fresh⟩ := WriteTransfer.ofPayload_eq_ok_iff.1 made
      obtain ⟨answer, traded, rfl⟩ := trades_writeBlocks made _ _ written
      have packets : Exchange.followers (.writeConfig transfer.count) = transfer.blocks.length :=
        fresh.length_eq.symm
      exact .traded _ (by simp [Command.kind]) packets traded

theorem conduct_writeConfig {document : Json} {result : Except Failure Unit}
    (ends : Ends (writeConfig device document).run contacts result) :
    Conduct (Service.writeConfig document).unfit? contacts result := by
  unfold writeConfig at ends
  rw [Service.unfit?]
  cases fits : Config.toPayload document with
  | error error =>
      rw [fits] at ends
      obtain ⟨rfl, rfl⟩ := ends_attempt.1 ends
      exact .refused
  | ok payload =>
      rw [fits] at ends
      obtain ⟨-, count, checked⟩ := Config.toPayload_eq_ok_iff.1 fits
      obtain ⟨transfer, made⟩ := WriteTransfer.made_of_checkPayload checked
      have written := conduct_writePayload ends
      rw [Service.unfit?, made] at written
      exact written

theorem updated_flash {data : Bytes} {image : Firmware.Image} {result : Except Failure Unit}
    (accepted : Firmware.Image.ofBytes data = .ok image)
    (ends : Ends (flash device data).run contacts result) : Updated image contacts result := by
  unfold flash at ends
  rw [accepted] at ends
  exact updated_sendImage (ends_recorded ends)

theorem conduct_flash {data : Bytes} {result : Except Failure Unit}
    (ends : Ends (flash device data).run contacts result) :
    Conduct (Service.flash data).unfit? contacts result := by
  rw [Service.unfit?]
  cases made : Firmware.Image.ofBytes data with
  | error error =>
      unfold flash at ends
      rw [made] at ends
      obtain ⟨rfl, rfl⟩ := ends_attempt.1 ends
      exact .refused
  | ok image =>
      rw [← bind_ok_eq result]
      exact .updated .ok (updated_flash made ends)

end Services

/-- **Every operation conducts itself in one of these ways**, whatever the answers are. -/
theorem procedure_conduct (device : String) (service : Service) {contacts : List Contact}
    {result : Except Failure service.Value}
    (ends : Ends (service.procedure device) contacts result) :
    Conduct service.unfit? contacts result := by
  cases service with
  | getStatus => exact conduct_of_trades trades_getStatus (by decide) rfl ends
  | readPayload => exact conduct_readPayload ends
  | readConfig => exact conduct_readConfig ends
  | writePayload payload => exact conduct_writePayload ends
  | writeConfig document => exact conduct_writeConfig ends
  | commitConfig => exact conduct_of_trades (trades_simple _) (by decide) rfl ends
  | setKeepAwake enabled =>
      exact conduct_of_trades (trades_simple _) (by simp [Command.kind]) rfl ends
  | reboot => exact conduct_of_trades (trades_simple _) (by decide) rfl ends
  | updateStatus => exact conduct_of_trades trades_updateStatus (by decide) rfl ends
  | updateAbort => exact conduct_of_trades (trades_simple _) (by decide) rfl ends
  | flash data => exact conduct_flash ends

end ControlLink.Session
