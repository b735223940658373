/-
# ControlLink.Proofs.Session.Validation — a failed check touches nothing

Failures come from the channel, from the frames on it, from the device, or from a check that the
host makes of an argument (`Failure.kind`). What an operation does on its channel fails in the first
three ways only (`Remote`): a check can only fail before anything else is done. So an operation that
reports a failed check has no contacts (`checked_of_ends`), and its channel is as it was apart from
notices (`Channel.run_of_silent`).
-/
import ControlLink.Proofs.Session.Conduct

namespace ControlLink.Session

set_option autoImplicit false

open Wire Transfer

variable {α β : Type}

/-- If there is a failure, it is not that of a check. -/
def Remote (result : Except Failure α) : Prop :=
  ∀ failure, result = .error failure → failure.kind ≠ .validation

/-! ## What comes from elsewhere -/

section Remote

theorem remote_ok (value : α) : Remote (.ok value : Except Failure α) := by
  intro failure same
  cases same

theorem remote_error {failure : Failure} (other : failure.kind ≠ .validation) :
    Remote (.error failure : Except Failure α) := by
  rintro _ ⟨⟩
  exact other

theorem remote_bind {result : Except Failure α} {next : α → Except Failure β}
    (remote : Remote result) (rest : ∀ value, Remote (next value)) : Remote (result >>= next) := by
  cases result with
  | ok value => exact rest value
  | error failure => exact remote_error (remote failure rfl)

theorem remote_lost (error : LinkError) :
    Remote (.error (.connectivity error) : Except Failure α) := remote_error nofun

theorem remote_breach (error : WireError) : Remote (.error (.protocol error) : Except Failure α) :=
  remote_error nofun

theorem remote_document (error : DocumentError) :
    Remote (.error (.document error) : Except Failure α) := remote_error nofun

theorem remote_device (fault : Device.Fault) :
    Remote (.error (.device fault) : Except Failure α) := remote_error nofun

theorem remote_ofWire (error : WireError) :
    Remote (.error (Failure.ofWire error) : Except Failure α) := by
  cases error with
  | device fault => exact remote_device fault
  | _ => exact remote_breach _

theorem remote_reading (frame : Bytes) : Remote (reading frame) := by
  unfold reading
  cases Response.decode frame with
  | ok response => exact remote_ok response
  | error error => exact remote_ofWire error

theorem remote_acknowledged (response : Response) : Remote (acknowledged response) := by
  cases response with
  | ok => exact remote_ok ()
  | error fault => exact remote_device fault
  | _ => exact remote_breach _

theorem remote_statusOf (response : Response) : Remote (statusOf response) := by
  cases response with
  | state status => exact remote_ok status
  | _ => exact remote_breach _

theorem remote_progressOf (response : Response) : Remote (progressOf response) := by
  cases response with
  | progress received total => exact remote_ok _
  | ok => exact remote_ok none
  | error fault => exact remote_device fault
  | _ => exact remote_breach _

theorem remote_verdict (frame : Bytes) : Remote (WriteTransfer.verdict frame) := by
  obtain ⟨-, accepted⟩ | ⟨fault, -, refused⟩ | ⟨-, -, error, garbled⟩ :=
    WriteTransfer.verdict_cases frame
  · rw [accepted]
    exact remote_ok ()
  · rw [refused]
    exact remote_device fault
  · rw [garbled]
    exact remote_breach error

theorem remote_announced (frame : Bytes) : Remote (ReadTransfer.announced frame) := by
  unfold ReadTransfer.announced
  split
  · split
    · exact remote_ok _
    · exact remote_ofWire _
  · exact remote_device _
  · exact remote_breach _
  · exact remote_ofWire _

theorem remote_ofPayload (payload : Bytes) : Remote (Config.ofPayload payload) := by
  unfold Config.ofPayload
  split
  · exact remote_ok _
  · exact remote_document _

variable {frames : List Bytes} {contacts : List Contact}

theorem remote_of_traded {answer : Except Failure Bytes} (traded : Traded frames contacts answer) :
    Remote answer := by
  induction traded with
  | answered => exact remote_ok _
  | unanswered => exact remote_lost _
  | unsent => exact remote_lost _
  | sent _ ih => exact ih

theorem remote_of_trades {operation : Operation α} {judge : Bytes → Except Failure α}
    {result : Except Failure α} (trades : Trades operation frames judge)
    (remote : ∀ frame, Remote (judge frame)) (ends : Ends operation.run contacts result) :
    Remote result := by
  obtain ⟨answer, traded, rfl⟩ := trades _ _ ends
  exact remote_bind (remote_of_traded traded) remote

theorem remote_of_collected {result : Except Failure Bytes}
    (collected : Collected contacts result) : Remote result := by
  cases collected with
  | unsent => exact remote_lost _
  | unanswered => exact remote_lost _
  | @refused header _ refused => exact remote_error (remote_announced header _ refused)
  | broken _ _ _ missed =>
      cases missed with
      | silent => exact remote_lost _
      | oversize => exact remote_breach _
  | whole => exact remote_ok _

theorem remote_of_delivered {size : UInt32} {chunks : List Firmware.Chunk}
    {result : Except Failure Unit} (delivered : Delivered size chunks contacts result) :
    Remote result := by
  induction delivered with
  | exhausted => exact remote_breach _
  | lost traded => exact remote_error (remote_of_traded traded _ rfl)
  | unreadable _ read => exact remote_error (remote_reading _ _ read)
  | refused => exact remote_device _
  | misplaced => exact remote_breach _
  | complete => exact remote_ok ()
  | acknowledged _ _ _ ih => exact ih
  | progress _ _ _ ih => exact ih

theorem remote_of_updated {image : Firmware.Image} {result : Except Failure Unit}
    (updated : Updated image contacts result) : Remote result := by
  cases updated with
  | lost traded => exact remote_error (remote_of_traded traded _ rfl)
  | refused _ refused =>
      exact remote_error (remote_bind (remote_reading _) remote_acknowledged _ refused)
  | complete => exact remote_ok ()
  | broken => exact remote_lost _
  | aborted _ _ delivered => exact remote_of_delivered delivered

end Remote

/-! ## Operations -/

section Operations

variable {device : String} {contacts : List Contact}

theorem remote_simple {command : Command} {result : Except Failure Unit}
    (ends : Ends (simple device command).run contacts result) : Remote result :=
  remote_of_trades (trades_simple command)
    (fun frame => remote_bind (remote_reading frame) remote_acknowledged) ends

theorem remote_readConfig {result : Except Failure Json}
    (ends : Ends (readConfig device).run contacts result) : Remote result := by
  unfold readConfig at ends
  obtain ⟨failure, rfl, lost⟩ | ⟨payload, _, _, -, onward, -⟩ := ends_then ends
  · exact remote_error
      (remote_of_collected (collected_readBlocks (ends_recorded lost)) failure rfl)
  · obtain ⟨-, rfl⟩ := ends_attempt.1 onward
    exact remote_ofPayload payload

theorem remote_writePayload {payload : Bytes} {transfer : WriteTransfer}
    (made : WriteTransfer.ofPayload payload = .ok transfer) {result : Except Failure Unit}
    (ends : Ends (writePayload device payload).run contacts result) : Remote result :=
  remote_of_trades (trades_recorded (trades_writeBlocks made)) remote_verdict ends

/-- **An operation whose argument passes the checks fails for another reason**, if it fails. -/
theorem remote_of_fit {service : Service} (fit : service.unfit? = none)
    {result : Except Failure service.Value}
    (ends : Ends (service.procedure device) contacts result) : Remote result := by
  cases service with
  | getStatus =>
      exact remote_of_trades trades_getStatus
        (fun frame => remote_bind (remote_reading frame) remote_statusOf) ends
  | readPayload => exact remote_of_collected (collected_readBlocks (ends_recorded ends))
  | readConfig => exact remote_readConfig ends
  | writePayload payload =>
      cases made : WriteTransfer.ofPayload payload with
      | ok transfer => exact remote_writePayload made ends
      | error error => simp [Service.unfit?, made, complaint?] at fit
  | writeConfig document =>
      cases fits : Config.toPayload document with
      | ok payload =>
          obtain ⟨-, count, checked⟩ := Config.toPayload_eq_ok_iff.1 fits
          obtain ⟨transfer, made⟩ := WriteTransfer.made_of_checkPayload checked
          have written : Ends (writeConfig device document).run contacts result := ends
          rw [writeConfig, fits] at written
          exact remote_writePayload made written
      | error error => simp [Service.unfit?, fits, complaint?] at fit
  | commitConfig => exact remote_simple ends
  | setKeepAwake enabled => exact remote_simple ends
  | reboot => exact remote_simple ends
  | updateStatus =>
      exact remote_of_trades trades_updateStatus
        (fun frame => remote_bind (remote_reading frame) remote_progressOf) ends
  | updateAbort => exact remote_simple ends
  | flash data =>
      cases accepted : Firmware.Image.ofBytes data with
      | ok image => exact remote_of_updated (updated_flash accepted ends)
      | error error => simp [Service.unfit?, accepted, complaint?] at fit

/-- **An operation that reports a failed check has no contacts**: the check is that of its
argument. -/
theorem checked_of_ends {service : Service} {failure : Failure}
    (ends : Ends (service.procedure device) contacts (.error failure))
    (kind : failure.kind = .validation) :
    contacts = [] ∧ ∃ error, service.unfit? = some error ∧ failure = .validation error := by
  cases unfit : service.unfit? with
  | none => exact absurd kind (remote_of_fit unfit ends failure rfl)
  | some error =>
      have conduct := procedure_conduct device service ends
      rw [unfit] at conduct
      generalize outcome : (.error failure : Except Failure service.Value) = result at conduct
      cases conduct
      cases outcome
      exact ⟨rfl, error, rfl, rfl⟩

end Operations

/-! ## Channels -/

/-- A channel with which a procedure has no contact takes notices only. -/
theorem Channel.run_of_silent {σ : Type} [Transport σ] {procedure : Procedure α} {value : α}
    {channel channel' : Channel σ} (ran : channel.run procedure = (some value, channel'))
    (silent : channel.contacts procedure = []) :
    ∃ notices : List Notice,
      channel' = { channel with history := notices.map Event.noted ++ channel.history } := by
  induction procedure generalizing channel with
  | done result =>
      cases ran
      exact ⟨[], rfl⟩
  | ask action next ih =>
      have asked : Dialogue.run Channel.answer (.ask action next) channel =
          (some value, channel') := ran
      rw [Dialogue.run] at asked
      rw [Channel.contacts] at silent
      cases answered : channel.answer action with
      | mk reply between =>
          rw [answered] at asked silent
          cases reply with
          | none => cases asked
          | some reply =>
              obtain ⟨own, rest⟩ := List.append_eq_nil_iff.1 silent
              cases action with
              | note notice =>
                  cases answered
                  obtain ⟨notices, rfl⟩ := ih reply asked rest
                  refine ⟨notices ++ [notice], ?_⟩
                  simp [Channel.happen]
              | send frame => cases own
              | receive => cases own
              | close => cases own

end ControlLink.Session
