/-
# ControlLink.CommandLine.Usage — the text that says how to call the program

Asking for help prints this text; a line that cannot be understood is answered by the reason.
-/
import ControlLink.CommandLine.Command

namespace ControlLink.CommandLine

set_option autoImplicit false

def programName : String := "control-link"

def programVersion : String := "0.1.0"

/-- What follows the name of a command. -/
def Name.parameters : Name → List String
  | status => ["[--json]"]
  | readConfig => ["[-o FILE]"]
  | writeConfig => ["[--commit]", "[--no-validate]", "FILE"]
  | keepAwake => ["on|off"]
  | flash => ["FILE"]
  | commit | reboot => []

def Name.purpose : Name → String
  | status => "show the device state"
  | readConfig => "print or save the stored configuration"
  | writeConfig => "stage a configuration file"
  | commit => "persist the staged configuration and restart"
  | keepAwake => "turn keep-awake on or off"
  | reboot => "restart the device"
  | flash => "flash a firmware image"

/-- Two lines about a command: how it is called and what it does. -/
def Name.usage (name : Name) : String :=
  let call := String.intercalate " " (name.text :: name.parameters)
  s!"  {call}\n      {name.purpose}\n"

def usage : String :=
  let commands := String.join (Name.all.map Name.usage)
  "Control a device through a USB bridge.\n\n" ++
    s!"Usage: {programName} [-v]... [--connect HOST:PORT] [--timeout-ms N] COMMAND\n\n" ++
    s!"Commands:\n{commands}"

namespace UsageError

def message : UsageError → String
  | unknownArgument => "unexpected argument"
  | invalidValue => "invalid or missing value"
  | valueValidation => "invalid number"
  | missingRequiredArgument => "a required argument is missing"
  | invalidSubcommand => "unrecognized command"
  | argumentConflict => "an option is given twice"
  | missingSubcommand => "a command is required"
  | tooManyValues => "unexpected value for an option"
  | displayHelp | displayHelpOnMissingArgument => usage
  | displayVersion => s!"{programName} {programVersion}\n"

/-- What is printed: help, or the reason and help. -/
def text (error : UsageError) : String :=
  match error with
  | displayHelp | displayVersion | displayHelpOnMissingArgument => error.message
  | _ => s!"error: {error.message}\n\n{usage}"

end UsageError

end ControlLink.CommandLine
