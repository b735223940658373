/-
# ControlLink.Proofs.CommandLine.Validation — a command that fails a check has changed nothing

A command may fail a check at the beginning, when it reads its file, after it has asked the device
for its state, when the firmware is too old, or at its end, when a file cannot be written. Before
each of these it has sent nothing, or nothing but questions (`Inquires`); what comes after anything
else fails for another reason, if it fails (`Unchecked`). So a command whose failure is that of a
check has only asked (`Cautious`), and an operation of a session has not even done that
(`validation_harmless`).
-/
import ControlLink.Proofs.CommandLine.Gate
import ControlLink.Proofs.Session.Validation
import ControlLink.Session.Script

namespace ControlLink.CommandLine

set_option autoImplicit false

open Session Wire

/-- The questions that change nothing on the device: for its state, and for its configuration. -/
def questions : List Bytes := [Wire.Command.getState.encode, Wire.Command.readConfig.encode]

variable {α β : Type} {device : String} {files left : Files} {contacts : List Contact}

/-! ## Jobs -/

/-- Whatever comes of the job, it attempts to send questions only. -/
def Inquires (files : Files) (job : Job α) : Prop :=
  ∀ contacts result left, Yields files job contacts result left → attempts contacts ⊆ questions

/-- A failure of the job is not that of a check. -/
def Unchecked (files : Files) (job : Job α) : Prop :=
  ∀ contacts result left, Yields files job contacts result left → Remote result

/-- If the job fails a check, it has attempted to send questions only. -/
def Cautious (files : Files) (job : Job α) : Prop :=
  ∀ contacts failure left, Yields files job contacts (.error failure) left →
    failure.kind = .validation → attempts contacts ⊆ questions

section Jobs

variable {job : Job α} {next : α → Job β}

theorem Inquires.then (first : Inquires files job)
    (rest : ∀ value left, Inquires left (next value)) : Inquires files (job >>= next) := by
  intro contacts result left yields
  obtain ⟨failure, -, lost⟩ | ⟨value, between, own, more, begun, onward, rfl⟩ := yields_then yields
  · exact first _ _ _ lost
  · rw [attempts_append]
    exact List.append_subset.2 ⟨first _ _ _ begun, rest _ _ _ _ _ onward⟩

theorem Inquires.cautious (inquires : Inquires files job) : Cautious files job :=
  fun contacts failure left yields _ => inquires contacts (.error failure) left yields

theorem Inquires.of_known {outcome : Except Failure α} (known : Known files job outcome) :
    Inquires files job := by
  intro contacts result left yields
  rw [(known _ _ _ yields).1]
  exact List.nil_subset _

theorem Unchecked.then (first : Unchecked files job)
    (rest : ∀ value left, Unchecked left (next value)) : Unchecked files (job >>= next) := by
  intro contacts result left yields
  obtain ⟨failure, rfl, lost⟩ | ⟨value, between, own, more, -, onward, -⟩ := yields_then yields
  · exact remote_error (first _ _ _ lost failure rfl)
  · exact rest _ _ _ _ _ onward

theorem Unchecked.cautious (unchecked : Unchecked files job) : Cautious files job :=
  fun contacts failure left yields kind =>
    absurd kind (unchecked contacts (.error failure) left yields failure rfl)

theorem Unchecked.of_known {value : α} (known : Known files job (.ok value)) :
    Unchecked files job := by
  intro contacts result left yields
  rw [(known _ _ _ yields).2.1]
  exact remote_ok value

theorem unchecked_operate {operation : Operation α}
    (remote : ∀ contacts result, Ends operation.run contacts result → Remote result) :
    Unchecked files (operate operation) :=
  fun _ _ _ yields => remote _ _ (yields_operate yields).1

/-- A check may fail after questions. -/
theorem Cautious.after (first : Inquires files job)
    (rest : ∀ value left, Cautious left (next value)) : Cautious files (job >>= next) := by
  intro contacts failure left yields kind
  obtain ⟨_, -, lost⟩ | ⟨value, between, own, more, begun, onward, rfl⟩ := yields_then yields
  · exact first _ _ _ lost
  · rw [attempts_append]
    exact List.append_subset.2 ⟨first _ _ _ begun, rest _ _ _ _ _ onward kind⟩

/-- What is done after a check does not fail one any more. -/
theorem Cautious.before (first : Cautious files job)
    (rest : ∀ value left, Unchecked left (next value)) : Cautious files (job >>= next) := by
  intro contacts failure left yields kind
  obtain ⟨_, same, lost⟩ | ⟨value, between, own, more, -, onward, -⟩ := yields_then yields
  · cases same
    exact first _ _ _ lost kind
  · exact absurd kind (rest _ _ _ _ _ onward failure rfl)

end Jobs

/-! ## Commands -/

/-- An operation that fails a check has no contacts. -/
theorem cautious_operate {service : Service} :
    Cautious files (operate (service.operation device)) := by
  intro contacts failure left yields kind
  have ends : Ends (service.procedure device) contacts (.error failure) :=
    (yields_operate yields).1
  rw [(checked_of_ends ends kind).1]
  exact List.nil_subset _

theorem inquires_requireConfiguration : Inquires files (requireConfiguration device) := by
  intro contacts result left yields
  obtain ⟨-, answer, traded, -⟩ := yields_requireConfiguration yields
  rw [attempts_of_traded_single traded]
  decide

theorem inquires_readConfig : Inquires files (operate (readConfig device)) := by
  intro contacts result left yields
  obtain ⟨answer, rest, rfl, silent⟩ := begins_of_readConfig (yields_operate yields).1
  show [0x72] :: attempts rest ⊆ questions
  rw [silent]
  decide

theorem inquires_deliver (output : Option String) (document : Json) :
    Inquires files (deliver output document) := by
  intro contacts result left yields
  rw [eq_nil_of_deliver yields]
  exact List.nil_subset _

theorem unchecked_commitConfiguration : Unchecked files (commitConfiguration device) :=
  .then (unchecked_operate fun _ _ => remote_simple) fun _ _ => .of_known (known_logged _)

theorem cautious_stage (document : Json) (commit : Bool) :
    Cautious files (stage device document commit) := by
  have last (left : Files) :
      Unchecked left (if commit then commitConfiguration device else pure ()) := by
    split
    · exact unchecked_commitConfiguration
    · exact .of_known (known_pure ())
  have write (left : Files) : Cautious left (operate (writeConfig device document)) :=
    @cautious_operate device left (.writeConfig document)
  refine .after inquires_requireConfiguration fun status left => ?_
  refine .after (.of_known (known_warning status document)) fun _ left => ?_
  exact .before (write left) fun _ left =>
    .then (.of_known (known_logged _)) fun _ left => last left

theorem cautious_writeConfiguration (file : String) (commit noValidate : Bool) :
    Cautious files (writeConfiguration device file commit noValidate) := by
  intro contacts failure left yields kind
  obtain ⟨-, -, rfl, -⟩ | ⟨document, -, staged⟩ := yields_writeConfiguration yields
  · exact List.nil_subset _
  · exact cautious_stage document commit _ _ _ staged kind

theorem cautious_readConfiguration (output : Option String) :
    Cautious files (readConfiguration device output) := by
  rw [readConfiguration_eq]
  exact Inquires.cautious (.then inquires_requireConfiguration fun _ _ =>
    .then inquires_readConfig fun document _ => inquires_deliver output document)

theorem cautious_flashFile (file : String) : Cautious files (flashFile device file) := by
  have update (image : Bytes) (left : Files) : Cautious left (operate (flash device image)) :=
    @cautious_operate device left (.flash image)
  refine .after (.of_known (known_readFile file)) fun image left => ?_
  exact .before (update image left) fun _ left =>
    .then (.of_known (known_printed _ _)) fun _ left => .of_known (known_logged _)

theorem unchecked_showStatus (json : Bool) : Unchecked files (showStatus device json) := by
  refine .then (unchecked_operate fun contacts result ends => ?_) fun _ _ =>
    .of_known (known_printed _ _)
  have asked : Ends (Service.getStatus.procedure device) contacts result := ends
  exact remote_of_fit rfl asked

/-- **A command that fails a check has only asked.** -/
theorem cautious_execute (command : CommandLine.Command) :
    Cautious files (execute device command) := by
  cases command with
  | status json => exact (unchecked_showStatus json).cautious
  | readConfig output => exact cautious_readConfiguration output
  | writeConfig file commit noValidate => exact cautious_writeConfiguration file commit noValidate
  | commit => exact unchecked_commitConfiguration.cautious
  | keepAwake enabled => exact (unchecked_operate fun _ _ => remote_simple).cautious
  | reboot =>
      exact (Unchecked.then (unchecked_operate fun _ _ => remote_simple) fun _ _ =>
        .of_known (known_logged _)).cautious
  | flash file => exact cautious_flashFile file

/-! ## What is seen -/

/-- What is seen of a frame belongs to an attempt to send it. -/
theorem attempted_of_shows {before after : Bool} {contact : Contact} {events : List Event}
    (shows : contact.Shows before events after) {frame : Bytes}
    (member : .sending frame ∈ events ∨ .sent frame ∈ events) : frame ∈ attempts [contact] := by
  cases shows with
  | sent | unsent | cutSending => exact List.mem_singleton.2 (by simpa using member)
  | _ => simp at member

theorem attempted_of_shown {before after : Bool} {events : List Event}
    (shown : Shown before contacts events after) {frame : Bytes}
    (member : .sending frame ∈ events ∨ .sent frame ∈ events) : frame ∈ attempts contacts := by
  induction shown with
  | nil => simp at member
  | @cons _ _ _ contact contacts own events shows _ ih =>
      have both : attempts (contact :: contacts) = attempts [contact] ++ attempts contacts :=
        attempts_append [contact] contacts
      rw [both, List.mem_append]
      rw [List.mem_append, List.mem_append, or_or_or_comm] at member
      exact member.imp (attempted_of_shows shows) ih

/-- The frames that are seen on a channel are those of its contacts. -/
theorem attempted_of_met {σ : Type} {channel channel' : Channel σ} {events : List Event}
    (met : Met channel channel' contacts events) {frame : Bytes}
    (member : .sending frame ∈ events ∨ .sent frame ∈ events) : frame ∈ attempts contacts := by
  apply attempted_of_shown met.shown
  exact member.imp (fun begun => List.mem_filter.2 ⟨begun, rfl⟩)
    fun done => List.mem_filter.2 ⟨done, rfl⟩

/-- **A failed check changes nothing on the device.** An operation that reports one has left its
channel as it was, apart from notices. A command that reports one has sent questions only. -/
theorem validation_harmless {σ : Type} [Transport σ] :
    (∀ (channel : Channel σ) device (service : Service) failure,
      (channel.run (service.procedure device)).1 = some (.error failure) →
      failure.kind = .validation → ∃ notices : List Notice,
        (channel.run (service.procedure device)).2 =
          { channel with history := notices.map Event.noted ++ channel.history }) ∧
    ∀ (host : Host σ) command failure, (host.execute command).1 = some (.error failure) →
      failure.kind = .validation → ∃ events,
        (host.execute command).2.channel.seen = host.channel.seen ++ events ∧
        ∀ frame, .sending frame ∈ events ∨ .sent frame ∈ events →
          frame = Wire.Command.getState.encode ∨ frame = Wire.Command.readConfig.encode := by
  constructor
  · intro channel device service failure failed kind
    have ran : channel.run (service.procedure device) = (some (.error failure), _) :=
      Prod.ext failed rfl
    obtain ⟨ends, -⟩ := ends_contacts ran
    exact Channel.run_of_silent ran (checked_of_ends ends kind).1
  · intro host command failure failed kind
    have keeps : host.Keeps command fun contacts result =>
        ∀ failure, result = .error failure → failure.kind = .validation →
          attempts contacts ⊆ questions := by
      apply Host.keeps_of_yields
      rintro contacts _ left yields failure rfl kind
      exact cautious_execute command _ _ _ yields kind
    obtain ⟨⟨events, met⟩, asked⟩ := keeps.ended _ failed
    refine ⟨events, met.seen, fun frame member => ?_⟩
    have question := asked failure rfl kind (attempted_of_met met member)
    simpa [questions] using question

/-- A device whose firmware is just too old to have a configuration. -/
def outdated : Host Script :=
  { channel := { transport := { incoming :=
      [⟨some 0, .ok ([0x73, 0, 5, 255] ++ List.replicate 10 0)⟩] } } }

/-- A payload that cannot be sent is refused without a contact, and a read of the configuration ends
behind the question for the state. -/
theorem validation_harmless_outdated :
    (∃ notices : List Notice,
      (outdated.channel.run ((Service.writePayload [0xFF]).procedure "device")).2 =
        { outdated.channel with history := notices.map Event.noted ++ [] }) ∧
    ∃ events, (outdated.execute (.readConfig none)).2.channel.seen = events ∧
      .sent [0x73] ∈ events ∧ ∀ frame, .sending frame ∈ events ∨ .sent frame ∈ events →
        frame = Wire.Command.getState.encode ∨ frame = Wire.Command.readConfig.encode := by
  have refused : (outdated.channel.run ((Service.writePayload [0xFF]).procedure "device")).1 =
      some (.error (.validation (.unrepresentableByte 0xFF 0))) := rfl
  have old : (outdated.execute (.readConfig none)).1 = some (.error
      (.validation (.unsupportedFirmware ⟨0, 5, 255⟩ Device.Version.configuration))) := rfl
  obtain ⟨operations, commands⟩ := @validation_harmless Script _
  obtain ⟨events, seen, asked⟩ := commands outdated (.readConfig none) _ old rfl
  refine ⟨operations outdated.channel "device" (.writePayload [0xFF]) _ refused rfl, events, seen,
    ?_, asked⟩
  have first : (outdated.execute (.readConfig none)).2.channel.seen =
      .sending [0x73] :: .sent [0x73] ::
        (outdated.execute (.readConfig none)).2.channel.seen.drop 2 := rfl
  rw [← show (outdated.execute (.readConfig none)).2.channel.seen = events from seen, first]
  exact List.mem_cons_of_mem _ List.mem_cons_self

end ControlLink.CommandLine
