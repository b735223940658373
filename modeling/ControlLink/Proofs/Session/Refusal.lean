/-
# ControlLink.Proofs.Session.Refusal — what a caller is told when the device refuses

A device refuses with an error frame, and its fault is to reach the caller as it is.
`Service.answers` and `Service.accepts` say which of the frames that an operation receives are
responses to it, and which of them it accepts; `Service.firstRefused` is the first response that it
does not.

`refusal_told` says, for any transport and any time of closing, what the caller is told if that
response is an error frame: the fault of the frame, except that a request for the running state
takes the frame for one of the wrong kind. Only the answer to the abort of a firmware update can
keep the caller waiting after that.

Each operation is followed through all that it may hear (`listening`): once it has heard a response
that it does not accept, its result is settled, whatever the abort of an update hears behind it.
-/
import ControlLink.Proofs.Session.Heard
import ControlLink.Session.Script

namespace ControlLink.Session

set_option autoImplicit false

open Wire Transfer

/-! ## Responses to an operation -/

namespace Service

/-- How many of the frames that an operation receives first are responses to it. -/
def answers : Service → Nat
  | .flash data =>
    match Firmware.Image.ofBytes data with
    | .ok image => 1 + image.chunks.length
    | .error _ => 0
  | _ => 1

/-- Whether an operation goes on with a response at this place, or ends well. -/
def accepts : Service → Nat → Response → Bool
  | .getStatus, _, .state _ => true
  | .readPayload, _, .config blocks | .readConfig, _, .config blocks => blocks.toNat ≤ blockLimit
  | .updateStatus, _, .progress _ _ | .updateStatus, _, .ok => true
  | .writePayload _, _, .ok | .writeConfig _, _, .ok => true
  | .commitConfig, _, .ok | .setKeepAwake _, _, .ok | .reboot, _, .ok | .updateAbort, _, .ok => true
  | .flash _, 0, .ok => true
  | .flash _, _ + 1, .ok | .flash _, _ + 1, .progress _ _ | .flash _, _ + 1, .complete => true
  | _, _, _ => false

def accepted (service : Service) (index : Nat) (frame : Bytes) : Bool :=
  match Response.decode frame with
  | .ok response => service.accepts index response
  | .error _ => false

/-- The first response among the frames received that is not accepted. -/
def firstRefused (service : Service) (frames : List Bytes) : Option Bytes :=
  ((frames.take service.answers).zipIdx.find? fun response =>
    !service.accepted response.2 response.1).map Prod.fst

/-- What a caller is told of a fault of the device. -/
def told : Service → Device.Fault → Failure
  | .getStatus, _ => .protocol (.unexpectedResponse .state (.known .error))
  | _, fault => .device fault

variable {service : Service} {frames : List Bytes} {frame : Bytes}

@[simp] theorem firstRefused_nil : service.firstRefused [] = none := by simp [firstRefused]

theorem mem_of_firstRefused (refused : service.firstRefused frames = some frame) :
    frame ∈ frames := by
  obtain ⟨found, first, rfl⟩ := Option.map_eq_some_iff.1 refused
  exact List.mem_of_mem_take (List.fst_mem_of_mem_zipIdx (List.mem_of_find?_eq_some first))

theorem firstRefused_append (short : frames.length < service.answers)
    (clear : service.firstRefused frames = none) :
    service.firstRefused (frames ++ [frame]) =
      if service.accepted frames.length frame then none else some frame := by
  have whole : frames.take service.answers = frames := List.take_of_length_le (by omega)
  have whole' : (frames ++ [frame]).take service.answers = frames ++ [frame] :=
    List.take_of_length_le (by simp; omega)
  unfold firstRefused at clear ⊢
  rw [whole, Option.map_eq_none_iff] at clear
  rw [whole', List.zipIdx_append, List.find?_append, clear]
  cases accepted : service.accepted frames.length frame <;> simp [accepted]

theorem firstRefused_append_of_some (more : List Bytes)
    (refused : service.firstRefused frames = some frame) :
    service.firstRefused (frames ++ more) = some frame := by
  unfold firstRefused at refused ⊢
  obtain ⟨found, first, rfl⟩ := Option.map_eq_some_iff.1 refused
  rw [List.take_append, List.zipIdx_append, List.find?_append, first]
  rfl

theorem firstRefused_append_of_full (more : List Bytes) (full : service.answers ≤ frames.length) :
    service.firstRefused (frames ++ more) = service.firstRefused frames := by
  unfold firstRefused
  rw [List.take_append_of_le_length full]

end Service

/-! ## What a caller is told -/

namespace Service

variable {α β : Type} {service : Service} {heard : Heard}

/-- If the first response that is not accepted is an error frame, its fault is the result. -/
def Tells (service : Service) (result : Except Failure α) (heard : Heard) : Prop :=
  ∀ frame fault, service.firstRefused heard.received = some frame →
    Response.decode frame = .ok (.error fault) → result = .error (service.told fault)

/-- An operation that has got such a frame waits for nothing but the end of its abort. -/
def Lingers (service : Service) (heard : Heard) : Prop :=
  ∀ frame fault, service.firstRefused heard.received = some frame →
    Response.decode frame = .ok (.error fault) →
    (∃ data, service = .flash data) ∧ heard.aborting = true

theorem tells_of_clear (result : Except Failure α)
    (clear : service.firstRefused heard.received = none) : service.Tells result heard := by
  intro frame fault refused
  rw [clear] at refused
  cases refused

theorem lingers_of_clear (clear : service.firstRefused heard.received = none) :
    service.Lingers heard := by
  intro frame fault refused
  rw [clear] at refused
  cases refused

theorem clear_of_nil (nothing : heard.received = []) :
    service.firstRefused heard.received = none := by rw [nothing, firstRefused_nil]

/-- A value is no failure, so there is nothing to tell of. -/
theorem Tells.of_ok {value : α} (tells : service.Tells (.ok value) heard)
    (result : Except Failure β) : service.Tells result heard := by
  intro frame fault refused decoded
  cases tells frame fault refused decoded

theorem Tells.of_error {failure : Failure}
    (tells : service.Tells (.error failure : Except Failure α) heard) :
    service.Tells (.error failure : Except Failure β) heard := by
  intro frame fault refused decoded
  cases tells frame fault refused decoded
  rfl

/-- After one frame, all depends on that frame. -/
theorem tells_of_one {frame : Bytes} {result : Except Failure α} (one : heard.received = [frame])
    (tells : ∀ fault, Response.decode frame = .ok (.error fault) →
      result = .error (service.told fault)) : service.Tells result heard := by
  intro refused fault first decoded
  have member := mem_of_firstRefused first
  rw [one] at member
  cases List.mem_singleton.1 member
  exact tells fault decoded

/-! ## One response -/

section OneResponse

variable {labels : Metrics.OperationLabels}

/-- An exchange whose response decides. -/
theorem tells_exchange {command : Command} {next : Response → Operation α}
    (result : Response → Except Failure α)
    (ends : ∀ response, next response = attempt (result response))
    (refuses : ∀ fault, result (.error fault) = .error (service.told fault)) :
    (exchange labels command >>= next).run.Keeps (listening service.Lingers) service.Tells {} := by
  rw [keeps_then]
  refine listening_exchange labels command (lingers_of_clear firstRefused_nil) (fun frame => ?_)
    fun error => tells_of_clear _ firstRefused_nil
  cases decoded : Response.decode frame with
  | error error =>
      rw [reading, decoded]
      apply tells_of_one rfl
      intro fault refusal
      rw [decoded] at refusal
      cases refusal
  | ok response =>
      rw [reading, decoded]
      simp only [Except.mapError, onward_ok]
      rw [ends, keeps_attempt]
      apply tells_of_one rfl
      intro fault refusal
      rw [decoded] at refusal
      cases refusal
      exact refuses fault

theorem tells_simple (device : String) (command : Command)
    (faithful : ∀ fault, service.told fault = .device fault) :
    (simple device command).run.Keeps (listening service.Lingers) service.Tells {} := by
  unfold simple
  rw [keeps_recorded]
  exact tells_exchange acknowledged (fun _ => rfl) fun fault => by rw [faithful]; rfl

theorem tells_writeBlocks (payload : Bytes)
    (faithful : ∀ fault, service.told fault = .device fault) :
    (writeBlocks labels payload).run.Keeps (listening service.Lingers) service.Tells {} := by
  have clear (heard : Heard) (nothing : heard.received = []) : service.Lingers heard :=
    lingers_of_clear (clear_of_nil nothing)
  have lost (heard : Heard) (nothing : heard.received = []) (error : LinkError) :
      service.Tells (.error (.connectivity error) : Except Failure Unit) heard :=
    tells_of_clear _ (clear_of_nil nothing)
  cases made : WriteTransfer.ofPayload payload with
  | error error =>
      rw [writeBlocks_of_refused labels made, keeps_attempt]
      exact tells_of_clear _ firstRefused_nil
  | ok transfer =>
      rw [writeBlocks_of_made labels made, keeps_then]
      refine listening_send labels (clear _ rfl) ?_ (lost _ rfl)
      rw [onward_ok, keeps_then]
      have unheard : (Heard.send {} (Command.writeConfig transfer.count).encode).received = [] :=
        rfl
      refine listening_blocks labels clear ?_ ?_ _ _ unheard
      · intro heard nothing
        rw [onward_ok, keeps_then, keeps_countBlocks, onward_ok, keeps_then]
        refine listening_receive labels (clear _ nothing) (fun frame => ?_) (lost _ nothing)
        rw [onward_ok, keeps_attempt]
        have one : (heard.receive frame).received = [frame] := by simp [nothing]
        apply tells_of_one one
        intro fault decoded
        rw [WriteTransfer.verdict, decoded, faithful]
      · exact lost

/-- What follows an accepted header are blocks, and no responses. -/
theorem tells_receiveBlocks {goal : Except Failure ReadTransfer → Heard → Prop} {header : Bytes}
    (one : service.answers = 1) (accepted : service.accepted 0 header)
    (after : ∀ result (heard : Heard), service.firstRefused heard.received = none →
      goal result heard) (left : Nat) :
    ∀ (transfer : ReadTransfer) (heard : Heard) (more : List Bytes),
      heard.received = header :: more →
      (receiveBlocks labels left transfer).run.Keeps (listening service.Lingers) goal heard := by
  have clear (heard : Heard) (more : List Bytes) (same : heard.received = header :: more) :
      service.firstRefused heard.received = none := by
    have short : ([] : List Bytes).length < service.answers := by rw [one]; exact Nat.one_pos
    have first : service.firstRefused [header] = none :=
      (firstRefused_append short firstRefused_nil).trans (if_pos accepted)
    have full : service.answers ≤ [header].length := by rw [one]; exact Nat.le_refl 1
    rw [same, ← first]
    exact firstRefused_append_of_full more full
  induction left with
  | zero => exact fun transfer heard more same => after _ heard (clear heard more same)
  | succ left ih =>
      intro transfer heard more same
      unfold receiveBlocks
      rw [keeps_then]
      have now := clear heard more same
      refine listening_receive labels (lingers_of_clear now) (fun frame => ?_)
        fun error => after _ heard now
      have next : (heard.receive frame).received = header :: (more ++ [frame]) := by simp [same]
      rw [onward_ok, keeps_then, keeps_attempt]
      cases (transfer.block frame).1 with
      | error failure => exact after _ _ (clear _ _ next)
      | ok => exact ih _ _ _ next

theorem tells_readBlocks (one : service.answers = 1)
    (faithful : ∀ fault, service.told fault = .device fault)
    (header : ∀ blocks : UInt8, blocks.toNat ≤ blockLimit → service.accepts 0 (.config blocks)) :
    (readBlocks labels).run.Keeps (listening service.Lingers) service.Tells {} := by
  rw [readBlocks_eq, keeps_then]
  refine listening_send labels (lingers_of_clear firstRefused_nil) ?_
    fun error => tells_of_clear _ firstRefused_nil
  rw [onward_ok, keeps_then]
  refine listening_receive labels (lingers_of_clear firstRefused_nil) (fun frame => ?_)
    fun error => tells_of_clear _ firstRefused_nil
  rw [onward_ok, keeps_then, keeps_attempt]
  cases announced : ReadTransfer.announced frame with
  | error failure =>
      apply tells_of_one rfl
      intro fault decoded
      simp only [ReadTransfer.announced, decoded, Except.error.injEq] at announced
      rw [← announced, faithful]
  | ok count =>
      obtain ⟨blocks, decoded, same⟩ := ReadTransfer.announced_eq_ok_iff.1 announced
      have accepted : service.accepted 0 frame := by
        rw [accepted, decoded]
        exact header blocks (same ▸ count.le_limit)
      rw [onward_ok, keeps_then]
      refine tells_receiveBlocks one accepted (fun result heard clear => ?_) _ _ _ [] rfl
      cases result with
      | error failure => exact tells_of_clear _ clear
      | ok transfer =>
          rw [onward_ok, keeps_then, keeps_countBlocks, onward_ok, keeps_attempt]
          exact tells_of_clear _ clear

end OneResponse

/-! ## A firmware update -/

section Update

variable {labels : Metrics.OperationLabels} {data : Bytes} {image : Firmware.Image}

/-- The result is what the caller is told, even if an abort follows. -/
def Settles (service : Service) (result : Except Failure Unit) (heard : Heard) : Prop :=
  service.Tells result heard ∧ ∀ failure, result = .error failure →
    (∃ error, failure = .connectivity error) ∨
      ∀ more, service.Tells result ⟨heard.received ++ more, true⟩

theorem settles_of_lost (clear : service.firstRefused heard.received = none) (error : LinkError) :
    service.Settles (.error (.connectivity error)) heard :=
  ⟨tells_of_clear _ clear, fun _ same => .inl ⟨error, (Except.error.inj same).symm⟩⟩

/-- The first response that is not accepted settles the result. -/
theorem settles_of_refused {received : List Bytes} {frame : Bytes} {result : Except Failure Unit}
    (last : heard.received = received ++ [frame]) (short : received.length < service.answers)
    (clear : service.firstRefused received = none)
    (refused : service.accepted received.length frame = false)
    (tells : ∀ fault, Response.decode frame = .ok (.error fault) →
      result = .error (service.told fault)) : service.Settles result heard := by
  have first : service.firstRefused heard.received = some frame := by
    rw [last, firstRefused_append short clear, refused]
    rfl
  refine ⟨fun other fault same decoded => ?_,
    fun _ _ => .inr fun more other fault same decoded => ?_⟩
  · cases first.symm.trans same
    exact tells fault decoded
  · cases (firstRefused_append_of_some more first).symm.trans same
    exact tells fault decoded

/-- The answer to a chunk lets the update go on, or settles its result. -/
theorem settles_goOn {size : UInt32} {chunks : List Firmware.Chunk} {received : List Bytes}
    {index : Nat} {frame : Bytes} (last : heard.received = received ++ [frame])
    (later : received.length = index + 1) (short : received.length < (flash data).answers)
    (clear : (flash data).firstRefused received = none)
    (rest : (flash data).firstRefused heard.received = none →
      (sendChunks labels size chunks).run.Keeps (listening (flash data).Lingers)
        (flash data).Settles heard) :
    onward (flash data).Settles (fun response => (goOn labels size chunks response).run.Keeps
      (listening (flash data).Lingers) (flash data).Settles) (reading frame) heard := by
  have accepted_eq : (flash data).accepted received.length frame =
      (flash data).accepted (index + 1) frame := by rw [later]
  have onwards (accepted : (flash data).accepted (index + 1) frame) :
      (flash data).firstRefused heard.received = none := by
    rw [last, firstRefused_append short clear, accepted_eq, if_pos accepted]
  have stop (result : Except Failure Unit)
      (refused : (flash data).accepted (index + 1) frame = false)
      (tells : ∀ fault, Response.decode frame = .ok (.error fault) →
        result = .error (.device fault)) : (flash data).Settles result heard :=
    settles_of_refused last short clear (accepted_eq.trans refused) tells
  cases decoded : Response.decode frame with
  | error error =>
      rw [reading, decoded]
      apply stop _ (by rw [accepted, decoded])
      intro fault refusal
      rw [decoded] at refusal
      cases refusal
  | ok response =>
      have verdict : (flash data).accepted (index + 1) frame =
          (flash data).accepts (index + 1) response := by rw [accepted, decoded]
      have other (different : ∀ fault, response ≠ .error fault) (result : Except Failure Unit) :
          ∀ fault, Response.decode frame = .ok (.error fault) →
            result = .error (.device fault) := by
        intro fault refusal
        rw [decoded] at refusal
        exact absurd (Except.ok.inj refusal) (different fault)
      have read : reading frame = .ok response := by
        rw [reading, decoded]
        rfl
      rw [read, onward_ok]
      cases response with
      | progress done total =>
          rw [keeps_goOn_progress]
          exact rest (onwards verdict)
      | ok => exact rest (onwards verdict)
      | complete =>
          rw [keeps_goOn_complete]
          exact ⟨tells_of_clear _ (onwards verdict), fun _ failed => by cases failed⟩
      | error fault =>
          apply stop _ verdict
          intro fault' refusal
          rw [decoded] at refusal
          cases refusal
          rfl
      | state status => exact stop _ verdict (other (by simp) _)
      | config blocks => exact stop _ verdict (other (by simp) _)

theorem tells_sendChunks (size : UInt32) (chunks : List Firmware.Chunk)
    (headed : ∀ chunk ∈ chunks, ∃ command, chunk.header = .ok command) :
    ∀ (heard : Heard) (index : Nat), heard.received.length = index + 1 →
      (flash data).firstRefused heard.received = none →
      heard.received.length + chunks.length = (flash data).answers →
      (sendChunks labels size chunks).run.Keeps (listening (flash data).Lingers)
        (flash data).Settles heard := by
  induction chunks with
  | nil =>
      intro heard index _ clear whole
      refine ⟨tells_of_clear _ clear, fun _ _ => .inr fun more => tells_of_clear _ ?_⟩
      rw [firstRefused_append_of_full more (Nat.le_of_eq whole.symm), clear]
  | cons chunk chunks ih =>
      intro heard index later clear whole
      have short : heard.received.length < (flash data).answers := by
        rw [← whole, List.length_cons]
        omega
      have still (heard' : Heard) (same : heard'.received = heard.received) :
          (flash data).firstRefused heard'.received = none := by rw [same, clear]
      obtain ⟨command, header⟩ := headed chunk (List.mem_cons_self ..)
      rw [sendChunks_cons, keeps_then]
      refine listening_sendChunk labels header (fun _ same => lingers_of_clear (still _ same))
        ?_ (fun _ same => settles_of_lost (still _ same)) rfl
      intro heard' frame last
      apply settles_goOn last later short clear
      intro onwards
      refine ih (fun next member => headed next (List.mem_cons_of_mem _ member)) heard'
        (index + 1) (by simp [last, later]) onwards ?_
      simp only [← whole, last, List.length_append, List.length_cons, List.length_nil]
      omega

theorem tells_sendImage (made : Firmware.Image.ofBytes data = .ok image) :
    (sendImage labels image).run.Keeps (listening (flash data).Lingers)
      (flash data).Tells {} := by
  have answers_eq : (flash data).answers = 1 + image.chunks.length := by simp [answers, made]
  have short : ([] : List Bytes).length < (flash data).answers := by
    rw [answers_eq, List.length_nil]
    omega
  unfold sendImage
  rw [keeps_then]
  refine listening_exchange labels _ (lingers_of_clear firstRefused_nil) (fun frame => ?_)
    fun error => tells_of_clear _ firstRefused_nil
  cases decoded : Response.decode frame with
  | error error =>
      rw [reading, decoded]
      apply tells_of_one rfl
      intro fault refusal
      rw [decoded] at refusal
      cases refusal
  | ok response =>
      rw [reading, decoded]
      simp only [Except.mapError, onward_ok]
      rw [keeps_then, keeps_attempt]
      cases acknowledgement : acknowledged response with
      | error failure =>
          apply tells_of_one rfl
          intro fault refusal
          rw [decoded] at refusal
          cases refusal
          cases acknowledgement
          rfl
      | ok =>
          have agreed : response = .ok := by
            cases response with
            | ok => rfl
            | _ => cases acknowledgement
          have accepted : (flash data).accepted 0 frame := by rw [accepted, decoded, agreed]; rfl
          have clear : (flash data).firstRefused [frame] = none :=
            (firstRefused_append short firstRefused_nil).trans (if_pos accepted)
          rw [onward_ok, ExceptT.run_mk, Dialogue.keeps_bind]
          refine Dialogue.keeps_mono (listening_monotone _) ?_
            (tells_sendChunks (UInt32.ofNat image.size) image.chunks
              (fun _ => Firmware.Chunk.header_of_mem_chunks) _ 0 rfl clear answers_eq.symm)
          rintro (failure | value) heard ⟨tells, aborted⟩
          · rw [Dialogue.keeps_bind]
            refine listening_abort labels failure (fun received _ _ _ _ => ⟨⟨data, rfl⟩, rfl⟩)
              (fun _ _ => tells) ?_
            intro other more
            rcases aborted failure rfl with ⟨error, same⟩ | settled
            · exact absurd same (other error)
            · exact settled more
          · exact tells

end Update

end Service

/-! ## Every operation -/

section Operations

open Service

variable (device : String)

/-- What a request for the running state makes of the answer. -/
def statusOf : Response → Except Failure Device.Status
  | .state status => .ok status
  | response => .error (unexpected .state response)

theorem tells_getStatus : (getStatus device).run.Keeps (listening Service.getStatus.Lingers)
    Service.getStatus.Tells {} := by
  unfold getStatus
  rw [keeps_recorded]
  refine tells_exchange statusOf (fun response => ?_) fun _ => rfl
  cases response <;> rfl

/-- What a request for the progress of an update makes of the answer. -/
def progressOf : Response → Except Failure (Option Progress)
  | .progress received total => .ok (some ⟨received, total⟩)
  | .ok => .ok none
  | .error fault => .error (.device fault)
  | response => .error (unexpected .progress response)

theorem tells_updateStatus : (updateStatus device).run.Keeps
    (listening Service.updateStatus.Lingers) Service.updateStatus.Tells {} := by
  unfold updateStatus
  rw [keeps_recorded]
  refine tells_exchange progressOf (fun response => ?_) fun _ => rfl
  cases response <;> rfl

theorem tells_readPayload : (readPayload device).run.Keeps
    (listening Service.readPayload.Lingers) Service.readPayload.Tells {} := by
  unfold readPayload
  rw [keeps_recorded]
  exact tells_readBlocks rfl (fun _ => rfl) fun _ fits => by simpa [accepts] using fits

theorem tells_readConfig : (readConfig device).run.Keeps
    (listening Service.readConfig.Lingers) Service.readConfig.Tells {} := by
  unfold readConfig readPayload
  rw [keeps_then, keeps_recorded]
  refine Dialogue.keeps_mono (listening_monotone _) ?_ (tells_readBlocks rfl (fun _ => rfl)
    fun _ fits => by simpa [accepts] using fits)
  rintro (failure | payload) heard tells
  · exact tells.of_error
  · exact tells.of_ok _

theorem tells_writePayload (payload : Bytes) : (writePayload device payload).run.Keeps
    (listening (Service.writePayload payload).Lingers) (Service.writePayload payload).Tells {} := by
  unfold writePayload
  rw [keeps_recorded]
  exact tells_writeBlocks payload fun _ => rfl

theorem tells_writeConfig (document : Json) : (writeConfig device document).run.Keeps
    (listening (Service.writeConfig document).Lingers)
    (Service.writeConfig document).Tells {} := by
  unfold writeConfig
  cases Config.toPayload document with
  | error error => exact tells_of_clear _ firstRefused_nil
  | ok payload =>
      simp only [writePayload, keeps_recorded]
      exact tells_writeBlocks payload fun _ => rfl

theorem tells_flash (data : Bytes) : (flash device data).run.Keeps
    (listening (Service.flash data).Lingers) (Service.flash data).Tells {} := by
  unfold flash
  cases made : Firmware.Image.ofBytes data with
  | error error => exact tells_of_clear _ firstRefused_nil
  | ok image =>
      simp only [keeps_recorded]
      exact tells_sendImage made

end Operations

/-- Every operation tells its caller of the first response that it does not accept. -/
theorem procedure_tells (device : String) (service : Service) :
    (service.procedure device).Keeps (listening service.Lingers) service.Tells {} := by
  cases service with
  | getStatus => exact tells_getStatus device
  | readPayload => exact tells_readPayload device
  | readConfig => exact tells_readConfig device
  | writePayload payload => exact tells_writePayload device payload
  | writeConfig document => exact tells_writeConfig device document
  | commitConfig => exact Service.tells_simple device _ fun _ => rfl
  | setKeepAwake enabled => exact Service.tells_simple device _ fun _ => rfl
  | reboot => exact Service.tells_simple device _ fun _ => rfl
  | updateStatus => exact tells_updateStatus device
  | updateAbort => exact Service.tells_simple device _ fun _ => rfl
  | flash data => exact tells_flash device data

/-- **What a caller is told when the device refuses.** Whatever the transport does and whenever the
channel closes: if the first response that an operation does not accept is an error frame, its fault
is what the caller is told; but a request for the running state is answered as if the frame were of
the wrong kind. A caller can be kept waiting then only by an abort that the transport never ends. -/
theorem refusal_told {σ : Type} [Transport σ] (device : String) (service : Service)
    (channel : Channel σ) :
    ∃ events, (channel.run (service.procedure device)).2.seen = channel.seen ++ events ∧
      ∀ frame fault, service.firstRefused (events.filterMap Event.frame?) = some frame →
        Response.decode frame = .ok (.error fault) →
        (channel.run (service.procedure device)).1 = some (.error (service.told fault)) ∨
          ((channel.run (service.procedure device)).1 = none ∧ (∃ data, service = .flash data) ∧
            Event.sending Command.updateAbort.encode ∈ events) := by
  obtain ⟨heard, events, seen, received, ends, hangs⟩ :=
    run_listening (procedure_tells device service) channel
  refine ⟨events, seen, ?_⟩
  intro frame fault refused decoded
  rw [received] at refused
  cases result : (channel.run (service.procedure device)).1 with
  | some value => exact .inl (congrArg some (ends value result frame fault refused decoded))
  | none =>
      obtain ⟨lingers, aborting⟩ := hangs result
      obtain ⟨update, abort⟩ := lingers frame fault refused decoded
      exact .inr ⟨rfl, update, aborting abort⟩

/-- A channel whose device accepts the start of an update and fails to write the first chunk. -/
def failing : Channel Script :=
  { transport := { incoming := [⟨some 0, .ok Response.ok.encode⟩,
      ⟨some 0, .ok (Response.error (.update .writeFailed)).encode⟩,
      ⟨some 0, .ok Response.ok.encode⟩] } }

theorem refusal_told_failing : (failing.run ((Service.flash [0xE9]).procedure "device")).1 =
    some (.error (.device (.update .writeFailed))) := by
  obtain ⟨events, seen, told⟩ := refusal_told "device" (.flash [0xE9]) failing
  have received : events.filterMap Event.frame? = [Response.ok.encode,
      (Response.error (.update .writeFailed)).encode, Response.ok.encode] := by
    have whole : events = (failing.run ((Service.flash [0xE9]).procedure "device")).2.seen :=
      seen.symm
    rw [whole]
    rfl
  rw [received] at told
  rcases told (Response.error (.update .writeFailed)).encode (.update .writeFailed) rfl rfl with
    result | ⟨none, -⟩
  · exact result
  · cases none

/-- A device that has timed out says so, and a request for its state takes that for a frame of the
wrong kind. -/
theorem getStatus_misreports :
    let channel : Channel Script :=
      { transport := { incoming := [⟨some 0, .ok (Response.error .timeout).encode⟩] } }
    let ended := channel.run (Service.getStatus.procedure "device")
    Service.getStatus.firstRefused (ended.2.seen.filterMap Event.frame?) =
        some (Response.error .timeout).encode ∧
      Response.decode (Response.error .timeout).encode = .ok (.error .timeout) ∧
      ended.1 ≠ some (.error (.device .timeout)) := by
  refine ⟨rfl, rfl, ?_⟩
  intro same
  cases same

end ControlLink.Session
