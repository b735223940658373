/-
# ControlLink.CommandLine.Program — what each command does

A program is a dialogue with a channel and with the host: it reads and writes files and prints. A
file is read before anything is sent, and a configuration is checked and the firmware asked for its
version before a configuration is sent.
-/
import ControlLink.CommandLine.Command
import ControlLink.Config.File
import ControlLink.Config.Validation
import ControlLink.Device.Report
import ControlLink.Session.Operation

namespace ControlLink.CommandLine

set_option autoImplicit false

open Session

/-- Where text is printed. -/
inductive Stream where
  | output
  | error
deriving DecidableEq

/-- What a program asks for. -/
inductive Effect where
  | channel (action : Session.Action)
  | readFile (path : String)
  | writeFile (path : String) (content : Bytes)
  | print (stream : Stream) (text : String)

/-- What it is answered. -/
abbrev Reply : Effect → Type
  | .channel action => Session.Answer action
  | .readFile _ => Except FileFault Bytes
  | .writeFile _ _ => Except FileFault Unit
  | .print _ _ => Unit

abbrev Program (α : Type) := Dialogue Reply α

/-- A program that may fail. -/
abbrev Job (α : Type) := ExceptT Failure (Dialogue Reply) α

def print (stream : Stream) (text : String) : Program Unit :=
  Dialogue.perform (Effect.print stream text)

/-- What a notice shows at once: the progress of an update. -/
def shown : Session.Action → Option String
  | .note (.progress progress) => some progress.line
  | _ => none

/-- A procedure as a program that shows progress. -/
def ofProcedure {α : Type} : Procedure α → Program α
  | .done value => .done value
  | .ask action next =>
    .ask (Effect.channel action) fun answer =>
      match shown action with
      | some line => .ask (Effect.print .error line) fun () => ofProcedure (next answer)
      | none => ofProcedure (next answer)

def operate {α : Type} (operation : Operation α) : Job α := ExceptT.mk (ofProcedure operation.run)

def logged (entry : LogEntry) : Job Unit := ExceptT.lift (ofProcedure (log entry))

def printed (stream : Stream) (text : String) : Job Unit := ExceptT.lift (print stream text)

def orFail {ε α : Type} (failure : ε → Failure) (result : Except ε α) : Job α :=
  ExceptT.mk (pure (result.mapError failure))

def fileFailure (path : String) (fault : FileFault) : Failure := .validation (.file path fault)

def readFile (path : String) : Job Bytes := do
  let result ← ExceptT.lift (Dialogue.perform (Effect.readFile path))
  orFail (fileFailure path) result

def writeFile (path : String) (content : Bytes) : Job Unit := do
  let result ← ExceptT.lift (Dialogue.perform (Effect.writeFile path content))
  orFail (fileFailure path) result

/-! ## Commands -/

/-- The state of a device whose firmware has a configuration. -/
def requireConfiguration (device : String) : Job Device.Status := do
  let status ← operate (getStatus device)
  if status.version.supportsConfiguration then return status
  else
    throw (.validation (.unsupportedFirmware status.version Device.Version.configuration))

def showStatus (device : String) (json : Bool) : Job Unit := do
  let status ← operate (getStatus device)
  let text := if json then String.ofList (status.report.pretty ++ ['\n']) else status.describe
  printed .output text

def readConfiguration (device : String) (output : Option String) : Job Unit := do
  let _ ← requireConfiguration device
  let document ← operate (readConfig device)
  let text := Config.renderFile output document
  match output with
  | some path =>
    writeFile path (Text.Utf8.encode text)
    logged (.configurationSaved path)
  | none => printed .output (String.ofList text)

/-- Checks that a document describes settings within the limits of the firmware. -/
def validateDocument (path : String) (document : Json) : Except Failure Unit :=
  match Config.Settings.ofDocument document with
  | .error error => .error (fileFailure path (.notSettings error))
  | .ok settings => settings.validate.mapError .validation

/-- Whether a document sets the landing page. -/
def hasLandingPage (document : Json) : Bool :=
  (document.get? Config.Field.webusbUrl.key).any fun value => !value.isNull

def commitConfiguration (device : String) : Job Unit := do
  operate (commitConfig device)
  logged .configurationCommitted

def writeConfiguration (device file : String) (commit noValidate : Bool) : Job Unit := do
  let content ← readFile file
  let document ← orFail (fileFailure file) (Config.loadFile file content)
  if !noValidate then orFail id (validateDocument file document)
  let status ← requireConfiguration device
  if hasLandingPage document && !status.version.supportsLandingPage then
    logged (.landingPageIgnored status.version)
  operate (writeConfig device document)
  logged .configurationStaged
  if commit then commitConfiguration device

def flashFile (device file : String) : Job Unit := do
  let image ← readFile file
  operate (flash device image)
  printed .error "\n"
  logged .updateComplete

/-- Runs a command on a channel to a device. -/
def execute (device : String) : Command → Job Unit
  | .status json => showStatus device json
  | .readConfig output => readConfiguration device output
  | .writeConfig file commit noValidate => writeConfiguration device file commit noValidate
  | .commit => commitConfiguration device
  | .keepAwake enabled => operate (setKeepAwake device enabled)
  | .reboot => do
    operate (reboot device)
    logged .restarting
  | .flash file => flashFile device file

end ControlLink.CommandLine
