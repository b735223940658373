/-
# ControlLink.CommandLine.Host — a host on which programs run

A host has a channel to a device, the files of a working directory, and what has been printed. It
carries out the effects of a program one after the other.
-/
import ControlLink.CommandLine.Program
import ControlLink.Files
import ControlLink.Session.Channel

namespace ControlLink.CommandLine

set_option autoImplicit false

structure Host (σ : Type) where
  channel : Session.Channel σ
  files : Files := {}
  /-- What has been printed, the last first. -/
  printed : List (Stream × String) := []

namespace Host

variable {σ α : Type} [Session.Transport σ]

/-- Carries out one effect. -/
def reply : (effect : Effect) → Host σ → Option (Reply effect) × Host σ
  | .channel action, host =>
    let (answer, channel) := Session.Channel.answer action host.channel
    (answer, { host with channel })
  | .readFile path, host => (some (host.files.read path), host)
  | .writeFile path content, host =>
    match host.files.write path content with
    | .ok files => (some (.ok ()), { host with files })
    | .error fault => (some (.error fault), host)
  | .print stream text, host => (some (), { host with printed := (stream, text) :: host.printed })

/-- Runs a program to its end. No value if it never ends. -/
def run (host : Host σ) (program : Program α) : Option α × Host σ := program.run reply host

/-- Runs a command. -/
def execute (host : Host σ) (command : Command) : Option (Except Failure Unit) × Host σ :=
  host.run (CommandLine.execute host.channel.describe command).run

end Host

variable {σ : Type}

/-- What has been printed to a stream. -/
def Host.text (host : Host σ) (stream : Stream) : String :=
  String.join ((host.printed.reverse.filter (·.1 == stream)).map Prod.snd)

/-- The status with which a process ends. -/
def exitCode : Except Failure Unit → UInt8
  | .ok () => 0
  | .error failure => failure.kind.exitCode

end ControlLink.CommandLine
