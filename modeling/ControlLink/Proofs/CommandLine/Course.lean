/-
# ControlLink.Proofs.CommandLine.Course — what a command has to do with its channel

A command reads and writes files and prints beside what it asks of its channel. Given the files,
what is left of it is a procedure on the channel (`withFiles`), and the channel of a host that runs
the command goes through just that procedure (`Host.run_withFiles`).

`Yields` says to which result and which files a job may come, and through which contacts; the lemmas
`yields_…` take jobs apart, as `ends_…` does with operations. What holds of everything that a job
yields holds of its runs on hosts (`Host.keeps_of_yields`).
-/
import ControlLink.CommandLine.Host
import ControlLink.Proofs.Session.Contact

namespace ControlLink.CommandLine

set_option autoImplicit false

open Session

variable {α β : Type}

/-- A program as a procedure on a channel, when the files are known. What it prints is left out. -/
def withFiles : Files → Program α → Procedure (α × Files)
  | files, .done value => .done (value, files)
  | files, .ask (.channel action) next => .ask action fun answer => withFiles files (next answer)
  | files, .ask (.readFile path) next => withFiles files (next (files.read path))
  | files, .ask (.writeFile path content) next =>
    match files.write path content with
    | .ok written => withFiles written (next (.ok ()))
    | .error fault => withFiles files (next (.error fault))
  | files, .ask (.print _ _) next => withFiles files (next ())

theorem withFiles_bind (files : Files) (program : Program α) (next : α → Program β) :
    withFiles files (program >>= next) =
      withFiles files program >>= fun result => withFiles result.2 (next result.1) := by
  induction program generalizing files with
  | done value => rfl
  | ask effect rest ih =>
      cases effect with
      | channel action =>
          exact congrArg (Dialogue.ask action) (funext fun answer => ih answer files)
      | readFile path => exact ih _ files
      | writeFile path content =>
          rw [Dialogue.ask_bind, withFiles, withFiles]
          cases files.write path content with
          | ok written => exact ih _ written
          | error fault => exact ih _ files
      | print stream text => exact ih _ files

/-- A procedure has nothing to do with files. -/
theorem withFiles_ofProcedure (files : Files) (procedure : Procedure α) :
    withFiles files (ofProcedure procedure) = procedure >>= fun value => pure (value, files) := by
  induction procedure with
  | done value => rfl
  | ask action next ih =>
      rw [ofProcedure, withFiles, Dialogue.ask_bind]
      refine congrArg (Dialogue.ask action) (funext fun answer => ?_)
      cases shown action with
      | none => exact ih answer
      | some line => exact ih answer

/-! ## Hosts -/

section Hosts

variable {σ : Type} [Transport σ]

/-- **The channel of a host goes through the procedure that is left of a program**, and the files in
which it ends are those of the host. -/
theorem Host.run_withFiles (host : Host σ) (program : Program α) :
    (host.channel.run (withFiles host.files program)).1 =
        (host.run program).1.map (fun value => (value, (host.run program).2.files)) ∧
      (host.channel.run (withFiles host.files program)).2 = (host.run program).2.channel := by
  induction program generalizing host with
  | done value => exact ⟨rfl, rfl⟩
  | ask effect next ih =>
      cases effect with
      | channel action =>
          unfold Host.run Channel.run
          simp only [withFiles, Dialogue.run, Host.reply]
          cases asked : Channel.answer action host.channel with
          | mk answer channel =>
              cases answer with
              | none => exact ⟨rfl, rfl⟩
              | some answer => exact ih answer { host with channel }
      | readFile path => exact ih _ host
      | writeFile path content =>
          unfold Host.run Channel.run
          simp only [withFiles, Dialogue.run, Host.reply]
          cases host.files.write path content with
          | ok files => exact ih _ { host with files }
          | error fault => exact ih _ host
      | print stream text => exact ih _ { host with printed := (stream, text) :: host.printed }

/-- The contacts of a command that a host runs. -/
def Host.contacts (host : Host σ) (command : Command) : List Contact :=
  host.channel.contacts
    (withFiles host.files (CommandLine.execute host.channel.describe command).run)

/-- What is seen of a command and what comes of it has this shape. If the command never ends, so
have contacts that go on from those it has had: with an answer to the action that gets none, and with
what a closed channel answers to the rest. -/
structure Host.Keeps (host : Host σ) (command : Command)
    (shape : List Contact → Except Failure Unit → Prop) : Prop where
  ended : ∀ result, (host.execute command).1 = some result →
    (∃ events, Met host.channel (host.execute command).2.channel (host.contacts command) events) ∧
      shape (host.contacts command) result
  unending : (host.execute command).1 = none →
    ∃ events between action answer more result,
      Met host.channel between (host.contacts command) events ∧
      between.answer action = (none, (host.execute command).2.channel) ∧
      refusal action = some answer ∧
      shape (host.contacts command ++ (Contact.ofAnswer action answer ++ more)) result

end Hosts

/-! ## Jobs -/

/-- A job may come to this result and these files through these contacts. -/
def Yields (files : Files) (job : Job α) (contacts : List Contact) (result : Except Failure α)
    (left : Files) : Prop :=
  Ends (withFiles files job.run) contacts (result, left)

theorem Host.keeps_of_yields {σ : Type} [Transport σ] {host : Host σ} {command : Command}
    {shape : List Contact → Except Failure Unit → Prop}
    (shaped : ∀ contacts result left, Yields host.files
      (CommandLine.execute host.channel.describe command) contacts result left →
      shape contacts result) : host.Keeps command shape := by
  obtain ⟨value, channel⟩ :=
    host.run_withFiles (CommandLine.execute host.channel.describe command).run
  have each (contacts : List Contact) (outcome : Except Failure Unit × Files)
      (ends : Ends (withFiles host.files
        (CommandLine.execute host.channel.describe command).run) contacts outcome) :
      shape contacts outcome.1 := shaped contacts outcome.1 outcome.2 ends
  obtain ⟨ended, unending⟩ := runs_of_ends each host.channel
  constructor
  · intro result same
    rw [Host.execute] at same ⊢
    rw [← channel]
    exact ended (result, _) (by rw [value, same]; rfl)
  · intro never
    rw [Host.execute] at never ⊢
    rw [← channel]
    obtain ⟨events, between, action, answer, more, outcome, rest⟩ :=
      unending (by rw [value, never]; rfl)
    exact ⟨events, between, action, answer, more, outcome.1, rest⟩

section Jobs

variable {files left : Files} {contacts : List Contact}

/-- One job after the other: the first fails, or the second goes on with its value and the files. -/
theorem yields_then {job : Job α} {next : α → Job β} {result : Except Failure β}
    (yields : Yields files (job >>= next) contacts result left) :
    (∃ failure, result = .error failure ∧ Yields files job contacts (.error failure) left) ∨
      ∃ value between first more, Yields files job first (.ok value) between ∧
        Yields between (next value) more result left ∧ contacts = first ++ more := by
  rw [Yields, ExceptT.run_bind, withFiles_bind] at yields
  obtain ⟨⟨outcome, between⟩, first, more, begun, onward, rfl⟩ := ends_bind.1 yields
  cases outcome with
  | ok value => exact .inr ⟨value, between, first, more, begun, onward, rfl⟩
  | error failure =>
      obtain ⟨rfl, same⟩ := ends_done.1 onward
      cases same
      exact .inl ⟨failure, rfl, by rwa [List.append_nil]⟩

theorem yields_operate {operation : Operation α} {result : Except Failure α}
    (yields : Yields files (operate operation) contacts result left) :
    Ends operation.run contacts result ∧ left = files := by
  rw [Yields, operate, ExceptT.run_mk, withFiles_ofProcedure] at yields
  obtain ⟨outcome, first, _, own, returned, rfl⟩ := ends_bind.1 yields
  obtain ⟨rfl, same⟩ := ends_done.1 returned
  cases same
  exact ⟨by rwa [List.append_nil], rfl⟩

/-- The files alone decide what comes of the job, and it leaves them as they are. -/
def Known (files : Files) (job : Job α) (outcome : Except Failure α) : Prop :=
  ∀ contacts result left, Yields files job contacts result left →
    contacts = [] ∧ result = outcome ∧ left = files

theorem Known.of_eq {job : Job α} {outcome : Except Failure α}
    (same : withFiles files job.run = pure (outcome, files)) : Known files job outcome := by
  intro contacts result left yields
  rw [Yields, same] at yields
  obtain ⟨rfl, equal⟩ := ends_done.1 yields
  cases equal
  exact ⟨rfl, rfl, rfl⟩

/-- What follows a job of which the outcome is known. -/
theorem Known.yields {job : Job α} {outcome : Except Failure α} {next : α → Job β}
    {result : Except Failure β} (known : Known files job outcome)
    (yields : Yields files (job >>= next) contacts result left) :
    (∃ failure, outcome = .error failure ∧ contacts = [] ∧ result = .error failure ∧
      left = files) ∨
      ∃ value, outcome = .ok value ∧ Yields files (next value) contacts result left := by
  obtain ⟨failure, rfl, lost⟩ | ⟨value, between, first, more, begun, onward, rfl⟩ :=
    yields_then yields
  · obtain ⟨rfl, same, rfl⟩ := known _ _ _ lost
    exact .inl ⟨failure, same.symm, rfl, rfl, rfl⟩
  · obtain ⟨rfl, same, rfl⟩ := known _ _ _ begun
    exact .inr ⟨value, same.symm, onward⟩

theorem known_pure (value : α) : Known files (pure value) (.ok value) := .of_eq rfl

theorem known_orFail {ε : Type} (failure : ε → Failure) (attempted : Except ε α) :
    Known files (orFail failure attempted) (attempted.mapError failure) := .of_eq rfl

theorem known_printed (stream : Stream) (text : String) :
    Known files (printed stream text) (.ok ()) := .of_eq rfl

theorem known_readFile (path : String) :
    Known files (readFile path) ((files.read path).mapError (fileFailure path)) := .of_eq rfl

theorem known_logged (entry : LogEntry) : Known files (logged entry) (.ok ()) := by
  have unfolded : (logged entry).run = ofProcedure (log entry >>= fun _ => pure (.ok ())) := rfl
  intro contacts result left yields
  rw [Yields, unfolded, withFiles_ofProcedure] at yields
  obtain ⟨outcome, first, _, own, returned, rfl⟩ := ends_bind.1 yields
  obtain ⟨rfl, same⟩ := ends_done.1 returned
  cases same
  have noted : Ends (note (.log entry) >>= fun _ => pure (.ok ())) first result := own
  have ended : Ends (pure (.ok ())) first result := ends_of_note rfl noted
  obtain ⟨rfl, rfl⟩ := ends_done.1 ended
  exact ⟨rfl, rfl, rfl⟩

/-- A file that cannot be written leaves the files as they are. -/
theorem yields_writeFile {path : String} {content : Bytes} {result : Except Failure Unit}
    (yields : Yields files (writeFile path content) contacts result left) :
    contacts = [] ∧
      ((files.write path content = .ok left ∧ result = .ok ()) ∨
        ∃ fault, files.write path content = .error fault ∧ left = files ∧
          result = .error (fileFailure path fault)) := by
  have asked : withFiles files (writeFile path content).run =
      withFiles files (.ask (.writeFile path content) fun written =>
        pure (written.mapError (fileFailure path))) := rfl
  rw [Yields, asked, withFiles] at yields
  cases wrote : files.write path content with
  | ok written =>
      rw [wrote] at yields
      obtain ⟨rfl, same⟩ := ends_done.1 yields
      cases same
      exact ⟨rfl, .inl ⟨rfl, rfl⟩⟩
  | error fault =>
      rw [wrote] at yields
      obtain ⟨rfl, same⟩ := ends_done.1 yields
      cases same
      exact ⟨rfl, .inr ⟨fault, rfl, rfl, rfl⟩⟩

end Jobs

end ControlLink.CommandLine
