/-
# ControlLink.Main — the command line on a real host

Understands the arguments, connects to the bridge and carries out the effects of the command: frames
go over the connection, files are read and written, and text is printed. Log entries go to the
standard error when the verbosity asks for them.
-/
import ControlLink.Bridge.Address
import ControlLink.CommandLine.Arguments
import ControlLink.CommandLine.Host
import ControlLink.CommandLine.Usage
import Std.Async.DNS
import Std.Async.Select
import Std.Async.TCP
import Std.Async.Timer

namespace ControlLink.Main

set_option autoImplicit false

open Bridge CommandLine Std.Async Std.Net

/-! ## Errors of the system -/

/-- The number of a system error; some libraries give it negated in 32 bits. -/
def errorNumber (code : UInt32) : Nat := if code < 0x80000000 then code.toNat else (-code).toNat

/-- The number and the words of a system error. -/
def systemReason : IO.Error → Nat × String
  | .noFileOrDirectory _ code details | .permissionDenied _ code details
  | .inappropriateType _ code details | .alreadyExists _ code details
  | .resourceExhausted _ code details | .invalidArgument _ code details
  | .noSuchThing _ code details | .interrupted _ code details =>
    (errorNumber code, details.capitalize)
  | .resourceVanished code details | .resourceBusy code details
  | .timeExpired code details | .otherError code details | .hardwareFault code details
  | .unsatisfiedConstraints code details | .illegalOperation code details
  | .protocolError code details | .unsupportedOperation code details =>
    (errorNumber code, details.capitalize)
  | .userError details => (0, details)
  | .unexpectedEof => (0, "unexpected end of file")

def reasonText (error : IO.Error) : String :=
  match systemReason error with
  | (0, details) => details
  | (code, details) => s!"{details} (os error {code})"

def fileFault (error : IO.Error) : FileFault :=
  match (systemReason error).1 with
  | 2 => .notFound
  | 20 => .notDirectory
  | 21 => .isDirectory
  | 36 => .nameTooLong
  | _ => .system (reasonText error)

/-- Runs an action and keeps the error in which it ends. -/
def caught {ε α : Type} (cause : IO.Error → ε) (action : IO α) : IO (Except ε α) := do
  match ← action.toBaseIO with
  | .ok value => return .ok value
  | .error error => return .error (cause error)

/-! ## The connection -/

structure Connection where
  socket : TCP.Socket.Client
  peer : String
  codec : Codec := { side := .host }
  /-- How long a receive may take, in milliseconds. -/
  timeout : Option Nat
  closed : Bool := false

/-- The addresses that a host stands for. -/
def resolve (host : String) : IO (Array IPAddr) :=
  match IPv4Addr.ofString host, IPv6Addr.ofString host with
  | some address, _ => return #[.v4 address]
  | none, some address => return #[.v6 address]
  | none, none => (DNS.getAddrInfo host "").block

def socketAddress (service : UInt16) : IPAddr → SocketAddress
  | .v4 address => .v4 ⟨address, service⟩
  | .v6 address => .v6 ⟨address, service⟩

def peerName (service : UInt16) : IPAddr → String
  | .v4 address => s!"tcp://{address.toString}:{service}"
  | .v6 address => s!"tcp://[{address.toString}]:{service}"

def connectTo (service : UInt16) (timeout : Option Nat) (address : IPAddr) : IO Connection := do
  let socket ← TCP.Socket.Client.mk
  (socket.connect (socketAddress service address)).block
  let _ ← caught id socket.noDelay
  return { socket, peer := peerName service address, timeout }

/-- Connects to the first address that answers. -/
def connectFirst (service : UInt16) (timeout : Option Nat) :
    List IPAddr → Option String → IO (Except LinkError Connection)
  | [], reason => return .error (.connectionFailed (reason.getD "could not resolve to any address"))
  | address :: rest, _ => do
    match ← caught reasonText (connectTo service timeout address) with
    | .ok connection => return .ok connection
    | .error reason => connectFirst service timeout rest (some reason)

def connect (text : String) (timeout : Option Nat) : IO (Except LinkError Connection) := do
  match Address.ofText text with
  | .error fault => return .error fault.toLinkError
  | .ok address =>
    match ← caught reasonText (resolve address.host) with
    | .error reason => return .error (.connectionFailed reason)
    | .ok addresses => connectFirst address.service timeout addresses.toList none

/-- The next bytes, or none at the end of the stream. A read that is not over at a moment of the
monotonic clock times out. -/
def readUntil (socket : TCP.Socket.Client) (deadline : Option Nat) :
    IO (Except LinkError (Option ByteArray)) := do
  match deadline with
  | none => caught (fun error => .io (reasonText error)) (socket.recv? 512).block
  | some moment =>
    let now ← IO.monoMsNow
    let read : Async (Option (Option ByteArray)) := do
      let timer ← Selector.sleep ⟨Int.ofNat (moment - now)⟩
      Selectable.one #[
        .case (socket.recvSelector 512) fun data => return some data,
        .case timer fun () => return none]
    match ← caught (fun error => LinkError.io (reasonText error)) read.block with
    | .ok (some data) => return .ok data
    | .ok none => return .error .timedOut
    | .error error => return .error error

namespace Connection

/-- Reads until the codec yields a frame or an error. -/
partial def pull (connection : Connection) (deadline : Option Nat) :
    IO (Except LinkError Bytes × Connection) := do
  match connection.codec.next with
  | (.ok (some frame), codec) => return (.ok frame, { connection with codec })
  | (.error error, codec) => return (.error error, { connection with codec })
  | (.ok none, codec) =>
    match ← readUntil connection.socket deadline with
    | .error error => return (.error error, { connection with codec })
    | .ok none => return (.error .closed, { connection with codec })
    | .ok (some data) => pull { connection with codec := codec.push data.toList } deadline

def receive (connection : Connection) : IO (Except LinkError Bytes × Connection) := do
  let now ← IO.monoMsNow
  connection.pull (connection.timeout.map (now + ·))

def send (connection : Connection) (frame : Bytes) : IO (Except LinkError Unit) :=
  match connection.codec.wrap frame with
  | .error error => return .error error
  | .ok bytes =>
    caught (fun error => .io (reasonText error))
      (connection.socket.send ⟨bytes.toArray⟩).block

end Connection

/-! ## Effects -/

/-- Whether a log entry is shown: warnings always, the rest if more messages were asked for. -/
def isShown (verbose : Nat) (entry : Session.LogEntry) : Bool :=
  entry.level == .warn || 0 < verbose

def tell (verbose : Nat) : Session.Notice → IO Unit
  | .log entry => if isShown verbose entry then IO.eprintln entry.line else pure ()
  | _ => pure ()

/-- Carries out one effect. -/
def reply (verbose : Nat) (connection : Connection) :
    (effect : Effect) → IO (Reply effect × Connection)
  | .channel (.send frame) => do
    if connection.closed then return (.error .closed, connection)
    else return (← connection.send frame, connection)
  | .channel .receive =>
    if connection.closed then return (.error .closed, connection) else connection.receive
  | .channel .close => return ((), { connection with closed := true })
  | .channel (.note notice) => do
    tell verbose notice
    return ((), connection)
  | .readFile path => do
    let content ← caught fileFault (IO.FS.readBinFile path)
    return (content.map ByteArray.toList, connection)
  | .writeFile path content => do
    let result ← caught fileFault (IO.FS.writeBinFile path ⟨content.toArray⟩)
    return (result, connection)
  | .print .output text => do
    IO.print text
    (← IO.getStdout).flush
    return ((), connection)
  | .print .error text => do
    IO.eprint text
    return ((), connection)

/-- Carries out a program to its end. -/
def carryOut {α : Type} (verbose : Nat) : Program α → Connection → IO α
  | .done value, _ => pure value
  | .ask effect next, connection => do
    let (answer, connection) ← reply verbose connection effect
    carryOut verbose (next answer) connection

def invoke (invocation : Invocation) : IO (Except Failure Unit) := do
  match ← connect invocation.address invocation.receiveTimeout with
  | .error error => return .error (.connectivity error)
  | .ok connection =>
    carryOut invocation.verbose (execute connection.peer invocation.command).run connection

/-- Runs the program. The result is the status of the process. -/
def run (words : List String) : IO UInt32 := do
  match parse words with
  | .error error =>
    if error.exitCode = 0 then IO.print error.text else IO.eprint error.text
    return error.exitCode.toUInt32
  | .ok invocation =>
    let result ← invoke invocation
    if let .error failure := result then IO.eprintln s!"error: {failure.message}"
    return (exitCode result).toUInt32

end ControlLink.Main

def main (args : List String) : IO UInt32 := ControlLink.Main.run args
