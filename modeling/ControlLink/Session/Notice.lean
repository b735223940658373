/-
# ControlLink.Session.Notice — what an operation reports while it runs

Besides its result an operation reports log entries, metric samples and the progress of a firmware
update.
-/
import ControlLink.Decimal.Shortest
import ControlLink.Failure
import ControlLink.Metrics.Metric

namespace ControlLink.Session

set_option autoImplicit false

open Decimal

/-- How much of an image the device has written. -/
structure Progress where
  received : UInt32
  total : UInt32
deriving DecidableEq

/-- The quotient in percent, at most one hundred; nothing of nothing is zero percent. -/
def Progress.percent (progress : Progress) : Binary64 :=
  if progress.total = 0 then Binary64.ofNat 0
  else
    let quotient := (Binary64.ofNat progress.received.toNat).div
      (Binary64.ofNat progress.total.toNat)
    (quotient.mul (Binary64.ofNat 100)).min (Binary64.ofNat 100)

/-- The percentage with one place, filled up to five characters with blanks in front. -/
def Progress.percentText (progress : Progress) : List Char :=
  let text := progress.percent.fixed 1
  List.replicate (5 - text.length) ' ' ++ text

/-- What a terminal shows in place of the line before. -/
def Progress.line (progress : Progress) : String :=
  let percent := String.ofList progress.percentText
  s!"\rflashing: {percent}% ({progress.received.toNat}/{progress.total.toNat} bytes)"

inductive LogLevel where
  | warn
  | info
deriving DecidableEq

def LogLevel.name : LogLevel → String
  | warn => "WARN"
  | info => "INFO"

inductive LogEntry where
  | receiveTimedOut
  | deviceError (fault : Device.Fault)
  | updateFailed (failure : Failure)
  | landingPageIgnored (version : Device.Version)
  | configurationSaved (path : String)
  | configurationStaged
  | configurationCommitted
  | restarting
  | updateComplete

namespace LogEntry

def level : LogEntry → LogLevel
  | receiveTimedOut | deviceError _ | updateFailed _ | landingPageIgnored _ => .warn
  | _ => .info

def message : LogEntry → String
  | receiveTimedOut => "receive timed out, closing session"
  | deviceError _ => "device reported an error"
  | updateFailed _ => "firmware update failed, aborting"
  | landingPageIgnored _ => "firmware ignores webusb_url"
  | configurationSaved _ => "configuration saved"
  | configurationStaged => "configuration staged"
  | configurationCommitted => "configuration committed, device is restarting"
  | restarting => "device is restarting"
  | updateComplete => "firmware update complete, device is restarting"

def line (entry : LogEntry) : String := s!"{entry.level.name} {entry.message}"

end LogEntry

inductive Notice where
  | log (entry : LogEntry)
  | sample (sample : Metrics.Sample)
  | progress (progress : Progress)

end ControlLink.Session
