/-
# ControlLink.Proofs.CommandLine.Gate — a configuration is written round by round

To write a configuration is to ask for the state of the device, then to send the configuration, and
then, if that was asked for, to commit it: two rounds or three.

`configuration_gated` says of every command that writes or reads a configuration, on any host, how
far it comes. A file that is not loaded or not valid sends nothing, firmware that is too old gets
nothing but the question for its state, and a configuration is committed only when all of it has
been sent and acknowledged.
-/
import ControlLink.Proofs.CommandLine.Rounds
import ControlLink.Proofs.Config.Payload
import ControlLink.Session.Script

namespace ControlLink.CommandLine

set_option autoImplicit false

open Session Wire Transfer

/-! ## The rounds of a configuration -/

/-- The state of a device whose firmware has a configuration. -/
def Supported (reply : Bytes) : Prop :=
  ∃ status, Response.decode reply = .ok (.state status) ∧
    status.version.atLeast ⟨0, 6, 0⟩ = true

def Acknowledged (reply : Bytes) : Prop := Response.decode reply = .ok .ok

def asking : Round := ⟨[[0x73]], Supported⟩

def writing (blocks : List Bytes) : Round :=
  ⟨[0x77, UInt8.ofNat blocks.length] :: blocks, Acknowledged⟩

def committing : Round := ⟨[[0x63]], Acknowledged⟩

/-- What a device has to say that is asked for its state. -/
def supported (status : Device.Status) : Except Failure Device.Status :=
  if status.version.supportsConfiguration then .ok status
  else .error (.validation (.unsupportedFirmware status.version Device.Version.configuration))

theorem supported_iff (reply : Bytes) :
    (reading reply >>= statusOf >>= supported).isOk = true ↔ Supported reply := by
  unfold Supported reading
  cases Response.decode reply with
  | error error => exact ⟨nofun, nofun⟩
  | ok response =>
      cases response with
      | state status =>
          show (supported status).isOk = true ↔ _
          by_cases new : status.version.supportsConfiguration
          · rw [supported, if_pos new]
            exact ⟨fun _ => ⟨status, rfl, new⟩, fun _ => rfl⟩
          · rw [supported, if_neg new]
            refine ⟨nofun, ?_⟩
            rintro ⟨_, ⟨⟩, recent⟩
            exact absurd recent new
      | _ => exact ⟨nofun, nofun⟩

theorem acknowledged_iff (reply : Bytes) :
    (reading reply >>= acknowledged).isOk = true ↔ Acknowledged reply := by
  unfold Acknowledged reading
  cases Response.decode reply with
  | error error => exact ⟨nofun, nofun⟩
  | ok response =>
      cases response with
      | ok => exact ⟨fun _ => rfl, fun _ => rfl⟩
      | _ => exact ⟨nofun, nofun⟩

theorem verdict_iff (reply : Bytes) :
    (WriteTransfer.verdict reply).isOk = true ↔ Acknowledged reply := by
  unfold Acknowledged WriteTransfer.verdict
  cases Response.decode reply with
  | error error => exact ⟨nofun, nofun⟩
  | ok response =>
      cases response with
      | ok => exact ⟨fun _ => rfl, fun _ => rfl⟩
      | _ => exact ⟨nofun, nofun⟩

section Commands

variable {device : String} {files left : Files} {contacts : List Contact}

theorem known_supported (status : Device.Status) :
    Known files (if status.version.supportsConfiguration then pure status else
      throw (.validation (.unsupportedFirmware status.version Device.Version.configuration)) :
        Job Device.Status) (supported status) := by
  unfold supported
  split
  · exact .of_eq rfl
  · exact .of_eq rfl

/-- A device is asked for its state, and nothing else is asked of the channel. -/
theorem yields_requireConfiguration {result : Except Failure Device.Status}
    (yields : Yields files (requireConfiguration device) contacts result left) :
    left = files ∧ ∃ answer, Traded [[0x73]] contacts answer ∧
      result = answer >>= fun reply => reading reply >>= statusOf >>= supported := by
  unfold requireConfiguration at yields
  obtain ⟨failure, rfl, lost⟩ | ⟨status, between, first, more, asked, judged, rfl⟩ :=
    yields_then yields
  · obtain ⟨ends, rfl⟩ := yields_operate lost
    obtain ⟨answer, traded, same⟩ := trades_getStatus _ _ ends
    refine ⟨rfl, answer, traded, ?_⟩
    exact (congrArg (· >>= supported) same).trans (bind_assoc answer _ supported)
  · obtain ⟨ends, rfl⟩ := yields_operate asked
    obtain ⟨answer, traded, same⟩ := trades_getStatus _ _ ends
    obtain ⟨rfl, rfl, rfl⟩ := known_supported status _ _ _ judged
    rw [List.append_nil]
    refine ⟨rfl, answer, traded, ?_⟩
    exact (congrArg (· >>= supported) same).trans (bind_assoc answer _ supported)

theorem advances_requireConfiguration :
    Advances files (requireConfiguration device) [asking] := by
  intro contacts result left yields
  obtain ⟨-, answer, traded, rfl⟩ := yields_requireConfiguration yields
  exact proceeds_of_traded supported_iff traded []

theorem advances_commitConfiguration :
    Advances files (commitConfiguration device) [committing] :=
  advances_then_silent (advances_operate (trades_simple .commitConfig) acknowledged_iff)
    fun _ _ => advances_of_known (known_logged _)

/-- What is done with the document of a file. -/
def stage (device : String) (document : Json) (commit : Bool) : Job Unit := do
  let status ← requireConfiguration device
  (if hasLandingPage document && !status.version.supportsLandingPage then
    logged (.landingPageIgnored status.version) else pure ())
  operate (writeConfig device document)
  logged .configurationStaged
  (if commit then commitConfiguration device else pure ())

/-- A step that may be left out, and what comes after it. -/
theorem ite_then {condition : Prop} [Decidable condition] (step : Job Unit)
    (next : Unit → Job Unit) :
    (if condition then step >>= next else next ()) =
      (if condition then step else pure ()) >>= next := by
  split
  · rfl
  · exact (pure_bind () next).symm

theorem writeConfiguration_eq (file : String) (commit noValidate : Bool) :
    writeConfiguration device file commit noValidate = (do
      let content ← readFile file
      let document ← orFail (fileFailure file) (Config.loadFile file content)
      (if !noValidate then orFail id (validateDocument file document) else pure ())
      stage device document commit) := by
  unfold writeConfiguration stage
  simp only [ite_then]

/-- Whether a document describes settings within their limits, where that matters. -/
def valid (file : String) (noValidate : Bool) (document : Json) : Except Failure Unit :=
  if noValidate then .ok () else validateDocument file document

/-- The document of a file that can be read and holds a valid mapping. -/
def admitted (files : Files) (file : String) (noValidate : Bool) : Except Failure Json := do
  let content ← (files.read file).mapError (fileFailure file)
  let document ← (Config.loadFile file content).mapError (fileFailure file)
  valid file noValidate document
  return document

theorem known_valid (file : String) (document : Json) (noValidate : Bool) :
    Known files (if !noValidate then orFail id (validateDocument file document) else pure ())
      (valid file noValidate document) := by
  have same : (validateDocument file document).mapError id = validateDocument file document := by
    cases validateDocument file document <;> rfl
  cases noValidate
  · have known : Known files _ _ := known_orFail id (validateDocument file document)
    rw [same] at known
    exact known
  · exact known_pure ()

/-- A file that is not admitted is the end of it. -/
theorem yields_writeConfiguration {file : String} {commit noValidate : Bool}
    {result : Except Failure Unit}
    (yields : Yields files (writeConfiguration device file commit noValidate) contacts result
      left) :
    (∃ failure, admitted files file noValidate = .error failure ∧ contacts = [] ∧
      result = .error failure) ∨
      ∃ document, admitted files file noValidate = .ok document ∧
        Yields files (stage device document commit) contacts result left := by
  rw [writeConfiguration_eq] at yields
  obtain ⟨failure, read, rfl, rfl, -⟩ | ⟨content, read, loading⟩ :=
    (known_readFile file).yields yields
  · exact .inl ⟨failure, by simp only [admitted, bind, Except.bind, read], rfl, rfl⟩
  obtain ⟨failure, loaded, rfl, rfl, -⟩ | ⟨document, loaded, validating⟩ :=
    (known_orFail _ _).yields loading
  · exact .inl ⟨failure, by simp only [admitted, bind, Except.bind, read, loaded], rfl, rfl⟩
  obtain ⟨failure, refused, rfl, rfl, -⟩ | ⟨_, accepted, staging⟩ :=
    (known_valid _ _ _).yields validating
  · refine .inl ⟨failure, ?_, rfl, rfl⟩
    simp only [admitted, bind, Except.bind, read, loaded, refused]
  · refine .inr ⟨document, ?_, staging⟩
    simp only [admitted, bind, Except.bind, read, loaded, accepted, pure, Except.pure]

theorem advances_writeConfig {document : Json}
    (fits : (Text.Utf8.encode document.compact).length ≤ payloadLimit) :
    ∃ blocks : List Bytes,
      blocks.length = ((Text.Utf8.encode document.compact).length + 63) / 64 ∧
      blocks.length ≤ 64 ∧ (∀ block ∈ blocks, block.length = 64) ∧
      (∃ zeros, blocks.flatten =
        Text.Utf8.encode document.compact ++ List.replicate zeros 0) ∧
      ∀ device files, Advances files (operate (writeConfig device document)) [writing blocks] := by
  obtain ⟨count, checked⟩ := Config.checkPayload_compact fits
  obtain ⟨blocks, counted, limit, whole, carried, written⟩ := frames_of_checkPayload checked
  refine ⟨blocks, counted, limit, whole, carried, ?_⟩
  intro device files contacts result left yields
  obtain ⟨ends, -⟩ := yields_operate yields
  rw [writeConfig, Config.toPayload_eq_ok_iff.2 ⟨rfl, count, checked⟩] at ends
  cases written device contacts result ends with
  | unsent split => exact .unsent split
  | unanswered => exact .unanswered
  | @answered reply => exact proceeds_of_judged verdict_iff reply

theorem known_warning (status : Device.Status) (document : Json) :
    Known files (if hasLandingPage document && !status.version.supportsLandingPage then
      logged (.landingPageIgnored status.version) else pure ()) (.ok ()) := by
  split
  · exact known_logged _
  · exact known_pure ()

/-- The rounds of a configuration in these blocks. -/
def rounds (blocks : List Bytes) (commit : Bool) : List Round :=
  asking :: writing blocks :: if commit then [committing] else []

theorem advances_stage {document : Json} {blocks : List Bytes} (commit : Bool)
    (written : ∀ left, Advances left (operate (writeConfig device document)) [writing blocks]) :
    Advances files (stage device document commit) (rounds blocks commit) := by
  have last (left : Files) : Advances left (if commit then commitConfiguration device else pure ())
      (if commit then [committing] else []) := by
    split
    · exact advances_commitConfiguration
    · exact advances_of_known (known_pure ())
  unfold stage
  refine advances_then advances_requireConfiguration fun status left => ?_
  refine advances_then (advances_of_known (known_warning status document)) fun _ left => ?_
  refine advances_then (written left) fun _ left => ?_
  exact advances_then (advances_of_known (known_logged _)) fun _ left => last left

/-- Of a document that is too long nothing is sent. -/
theorem yields_stage_of_large {document : Json} {commit : Bool} {result : Except Failure Unit}
    (large : payloadLimit < (Text.Utf8.encode document.compact).length)
    (yields : Yields files (stage device document commit) contacts result left) :
    attempts contacts = [[0x73]] ∧ (∀ value, result ≠ .ok value) ∧
      (Passed [asking] contacts → result = .error (.validation
        (.configTooLarge (Text.Utf8.encode document.compact).length payloadLimit))) := by
  unfold stage at yields
  obtain ⟨failure, rfl, lost⟩ | ⟨status, between, first, more, asked, onward, rfl⟩ :=
    yields_then yields
  · obtain ⟨-, answer, traded, -⟩ := yields_requireConfiguration lost
    refine ⟨attempts_of_traded_single traded, nofun, fun passed => ?_⟩
    cases all_of_passed passed (advances_requireConfiguration _ _ _ lost)
  · obtain ⟨-, answer, traded, -⟩ := yields_requireConfiguration asked
    have refused : Known between (operate (writeConfig device document)) (.error (.validation
        (.configTooLarge (Text.Utf8.encode document.compact).length payloadLimit))) := by
      rw [writeConfig, Config.toPayload_of_large large]
      exact .of_eq rfl
    obtain ⟨failure, never, -⟩ | ⟨_, -, writing⟩ := (known_warning status document).yields onward
    · cases never
    obtain ⟨failure, same, rfl, rfl, -⟩ | ⟨_, never, -⟩ := refused.yields writing
    · cases same
      rw [List.append_nil]
      exact ⟨attempts_of_traded_single traded, nofun, fun _ => rfl⟩
    · cases never

/-! ## Commands -/

/-- What a command promises that writes the configuration in a file. -/
structure Writes (files : Files) (file : String) (commit noValidate : Bool)
    (contacts : List Contact) (result : Except Failure Unit) : Prop where
  /-- A file that is not admitted ends it before anything is sent. -/
  unadmitted : ∀ failure, admitted files file noValidate = .error failure →
    contacts = [] ∧ result = .error failure
  /-- Of a document with more than 4096 bytes of text nothing is sent. -/
  large : ∀ document, admitted files file noValidate = .ok document →
    4096 < (Text.Utf8.encode document.compact).length →
    attempts contacts = [[0x73]] ∧ (∀ value, result ≠ .ok value) ∧
      (Passed [asking] contacts → result = .error (.validation
        (.configTooLarge (Text.Utf8.encode document.compact).length 4096)))
  /-- Any other goes round by round, in blocks that hold its text and behind it only zeros. -/
  small : ∀ document, admitted files file noValidate = .ok document →
    (Text.Utf8.encode document.compact).length ≤ 4096 →
    ∃ blocks : List Bytes,
      blocks.length = ((Text.Utf8.encode document.compact).length + 63) / 64 ∧
      blocks.length ≤ 64 ∧ (∀ block ∈ blocks, block.length = 64) ∧
      (∃ zeros, blocks.flatten =
        Text.Utf8.encode document.compact ++ List.replicate zeros 0) ∧
      Gated (rounds blocks commit) contacts result

theorem writes_of_yields {file : String} {commit noValidate : Bool} {result : Except Failure Unit}
    (yields : Yields files (writeConfiguration device file commit noValidate) contacts result
      left) :
    Writes files file commit noValidate contacts result := by
  obtain ⟨failure, refused, rfl, rfl⟩ | ⟨document, accepted, staged⟩ :=
    yields_writeConfiguration yields
  · constructor
    · intro other same
      cases refused.symm.trans same
      exact ⟨rfl, rfl⟩
    · intro document same
      cases refused.symm.trans same
    · intro document same
      cases refused.symm.trans same
  · constructor
    · intro failure same
      cases accepted.symm.trans same
    · intro other same long
      cases accepted.symm.trans same
      exact yields_stage_of_large long staged
    · intro other same short
      cases accepted.symm.trans same
      obtain ⟨blocks, counted, limit, whole, carried, written⟩ := advances_writeConfig short
      have advances : Advances files (stage device document commit) _ :=
        advances_stage commit fun left => written device left
      exact ⟨blocks, counted, limit, whole, carried, gated_of_proceeds (advances _ _ _ staged)⟩

/-- What a command promises that reads the configuration. -/
structure Reads (contacts : List Contact) : Prop where
  /-- It attempts to send the question for the state and then that for the configuration. -/
  sends : attempts contacts <+: [[0x73], [0x72]]
  /-- Before the second there is nothing but the first and a reply to it that shows firmware with a
  configuration. -/
  gate : ∀ before answer after, contacts = before ++ .sent [0x72] answer :: after →
    ∃ reply, Supported reply ∧ before = [.sent [0x73] (.ok ()), .received (.ok reply)]
  /-- After such a reply the configuration is asked for. -/
  asks : ∀ reply after, Supported reply →
    contacts = .sent [0x73] (.ok ()) :: .received (.ok reply) :: after →
    ∃ answer rest, after = .sent [0x72] answer :: rest

/-- Where a document is left that has been read. -/
def deliver (output : Option String) (document : Json) : Job Unit :=
  match output with
  | some path => do
    writeFile path (Text.Utf8.encode (Config.renderFile output document))
    logged (.configurationSaved path)
  | none => printed .output (String.ofList (Config.renderFile output document))

theorem readConfiguration_eq (output : Option String) :
    readConfiguration device output = (do
      let _ ← requireConfiguration device
      let document ← operate (readConfig device)
      deliver output document) := by
  cases output <;> rfl

theorem eq_nil_of_deliver {output : Option String} {document : Json} {result : Except Failure Unit}
    (yields : Yields files (deliver output document) contacts result left) : contacts = [] := by
  cases output with
  | none => exact (known_printed _ _ _ _ _ yields).1
  | some path =>
      obtain ⟨failure, -, lost⟩ | ⟨_, _, _, _, wrote, saved, rfl⟩ := yields_then yields
      · exact (yields_writeFile lost).1
      · rw [(yields_writeFile wrote).1, (known_logged _ _ _ _ saved).1]
        rfl

/-- A read of the configuration begins with its question and sends nothing else. -/
theorem begins_of_readConfig {result : Except Failure Json}
    (ends : Ends (readConfig device).run contacts result) :
    ∃ answer rest, contacts = .sent [0x72] answer :: rest ∧ attempts rest = [] := by
  unfold readConfig at ends
  obtain ⟨_, -, lost⟩ | ⟨_, _, _, read, parsed, rfl⟩ := ends_then ends
  · exact begins_of_collected (collected_readBlocks (ends_recorded lost))
  · obtain ⟨rfl, -⟩ := ends_attempt.1 parsed
    rw [List.append_nil]
    exact begins_of_collected (collected_readBlocks (ends_recorded read))

/-- What is asked of a device whose firmware has a configuration. -/
theorem reads_of_supported {reply : Bytes} {answer : Except LinkError Unit} {rest : List Contact}
    (recent : Supported reply) (silent : attempts rest = []) :
    Reads (.sent [0x73] (.ok ()) :: .received (.ok reply) :: .sent [0x72] answer :: rest) where
  sends := ⟨[], (List.append_nil _).trans (congrArg ([0x73] :: [0x72] :: ·) silent)⟩
  gate before answer' after same := by
    have outside : .sent [0x72] answer' ∉ rest := by
      intro member
      have tried : [0x72] ∈ attempts rest := List.mem_filterMap.2 ⟨_, member, rfl⟩
      rw [silent] at tried
      cases tried
    cases before with
    | nil => cases (List.cons.inj same).1
    | cons first before =>
        obtain ⟨rfl, behind⟩ := List.cons.inj same
        cases before with
        | nil => cases (List.cons.inj behind).1
        | cons second before =>
            obtain ⟨rfl, later⟩ := List.cons.inj behind
            cases before with
            | nil => exact ⟨reply, recent, rfl⟩
            | cons third before =>
                -- A second question would stand in the rest.
                obtain ⟨rfl, rfl⟩ := List.cons.inj later
                exact absurd (List.mem_append_right _ List.mem_cons_self) outside
  asks reply' after _ same := by
    cases same
    exact ⟨answer, rest, rfl⟩

/-- What is asked of any other device. -/
theorem reads_of_unsupported {answer : Except Failure Bytes}
    (traded : Traded [[0x73]] contacts answer)
    (refused : ∀ reply, answer = .ok reply → ¬ Supported reply) : Reads contacts where
  sends := by
    rw [attempts_of_traded_single traded]
    exact ⟨[[0x72]], rfl⟩
  gate before answer' after same := by
    have tried : [0x72] ∈ attempts contacts :=
      List.mem_filterMap.2 ⟨.sent [0x72] answer', by simp [same], rfl⟩
    rw [attempts_of_traded_single traded] at tried
    exact absurd tried (by decide)
  asks reply after recent same := by
    cases traded with
    | unsent => cases same
    | sent traded =>
        cases traded with
        | answered =>
            cases same
            exact absurd recent (refused _ rfl)
        | @unanswered error => cases error <;> cases same

theorem reads_of_yields {output : Option String} {result : Except Failure Unit}
    (yields : Yields files (readConfiguration device output) contacts result left) :
    Reads contacts := by
  rw [readConfiguration_eq] at yields
  obtain ⟨failure, rfl, lost⟩ | ⟨status, between, first, more, asked, onward, rfl⟩ :=
    yields_then yields
  · obtain ⟨-, answer, traded, same⟩ := yields_requireConfiguration lost
    refine reads_of_unsupported traded fun reply replied recent => ?_
    have good := (supported_iff reply).2 recent
    rw [replied] at same
    rw [show reading reply >>= statusOf >>= supported = .error failure from same.symm] at good
    cases good
  · obtain ⟨-, answer, traded, same⟩ := yields_requireConfiguration asked
    cases answer with
    | error _ => cases same
    | ok reply =>
        have good : Supported reply := by
          rw [← supported_iff, show reading reply >>= statusOf >>= supported = .ok status from
            same.symm]
          rfl
        have begins : ∃ answer rest, more = .sent [0x72] answer :: rest ∧ attempts rest = [] := by
          obtain ⟨_, -, lost⟩ | ⟨document, _, own, _, read, delivered, rfl⟩ := yields_then onward
          · exact begins_of_readConfig (yields_operate lost).1
          · rw [eq_nil_of_deliver delivered, List.append_nil]
            exact begins_of_readConfig (yields_operate read).1
        obtain ⟨answer, rest, rfl, silent⟩ := begins
        rw [eq_of_traded_single traded]
        exact reads_of_supported good silent

end Commands

/-- **A configuration is written round by round, and read after the first round**, on any host and
whatever its channel does. -/
theorem configuration_gated {σ : Type} [Transport σ] (host : Host σ) :
    (∀ file commit noValidate, host.Keeps (.writeConfig file commit noValidate)
      (Writes host.files file commit noValidate)) ∧
    ∀ output, host.Keeps (.readConfig output) fun contacts _ => Reads contacts :=
  ⟨fun _ _ _ => Host.keeps_of_yields fun _ _ _ => writes_of_yields,
    fun _ => Host.keeps_of_yields fun _ _ _ => reads_of_yields⟩

/-- A host with an empty mapping in a file, and a device that accepts what it is sent. -/
def attentive : Host Script :=
  { channel := { transport := { incoming :=
      [⟨some 0, .ok ([0x73, 0, 6, 0] ++ List.replicate 10 0)⟩,
        ⟨some 0, .ok Response.ok.encode⟩, ⟨some 0, .ok Response.ok.encode⟩] } }
    files := ⟨[("c.json", [0x7B, 0x7D])]⟩ }

/-- The mapping, which is not valid, is written and committed in three rounds if it is not checked,
and otherwise not even the state is asked for. -/
theorem configuration_gated_attentive :
    (∃ blocks : List Bytes, blocks.length = 1 ∧ (∃ zeros, blocks.flatten =
        [0x7B, 0x7D] ++ List.replicate zeros 0) ∧
      Passed (rounds blocks true) (attentive.contacts (.writeConfig "c.json" true true))) ∧
    attentive.contacts (.writeConfig "c.json" true false) = [] := by
  obtain ⟨writes, -⟩ := configuration_gated attentive
  have loaded : admitted attentive.files "c.json" true = .ok (.object []) := rfl
  have text : Text.Utf8.encode (Json.object []).compact = [0x7B, 0x7D] := rfl
  have wrote : ((attentive.execute (.writeConfig "c.json" true true)).1.map Except.isOk) =
      some true := by decide +kernel
  have invalid : (admitted attentive.files "c.json" false).isOk = false := by decide +kernel
  have stopped : ((attentive.execute (.writeConfig "c.json" true false)).1.map Except.isOk) =
      some false := by decide +kernel
  constructor
  · obtain ⟨result, ended, good⟩ := Option.map_eq_some_iff.1 wrote
    obtain ⟨-, kept⟩ := (writes "c.json" true true).ended result ended
    obtain ⟨blocks, counted, -, -, carried, gated⟩ := kept.small _ loaded (by rw [text]; decide)
    rw [text] at counted carried
    refine ⟨blocks, counted, carried, gated.ok_iff.1 ?_⟩
    cases result with
    | ok => rfl
    | error => cases good
  · obtain ⟨result, ended, -⟩ := Option.map_eq_some_iff.1 stopped
    obtain ⟨-, kept⟩ := (writes "c.json" true false).ended result ended
    cases checked : admitted attentive.files "c.json" false with
    | error failure => exact (kept.unadmitted failure checked).1
    | ok document =>
        rw [checked] at invalid
        cases invalid

end ControlLink.CommandLine
