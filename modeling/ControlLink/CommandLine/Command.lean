/-
# ControlLink.CommandLine.Command — what a command line may say

A command line has options, the name of a command, and the options and the operand of that command.
Some options may stand in front of the name or behind it. A line that cannot be understood is a
`UsageError`; so is one that asks for help, since no command is run then either.
-/

namespace ControlLink.CommandLine

set_option autoImplicit false

inductive UsageError where
  | unknownArgument
  | invalidValue
  | valueValidation
  | missingRequiredArgument
  | invalidSubcommand
  | argumentConflict
  | missingSubcommand
  | tooManyValues
  | displayHelp
  | displayVersion
  /-- Nothing was given, so help is shown. -/
  | displayHelpOnMissingArgument
deriving DecidableEq

/-- The status with which the process ends. -/
def UsageError.exitCode : UsageError → UInt8
  | displayHelp | displayVersion => 0
  | _ => 2

/-- The commands by name. -/
inductive Name where
  | status
  | readConfig
  | writeConfig
  | commit
  | keepAwake
  | reboot
  | flash
deriving DecidableEq

namespace Name

def all : List Name := [status, readConfig, writeConfig, commit, keepAwake, reboot, flash]

def text : Name → String
  | status => "status"
  | readConfig => "read-config"
  | writeConfig => "write-config"
  | commit => "commit"
  | keepAwake => "keep-awake"
  | reboot => "reboot"
  | flash => "flash"

def ofText? (text : String) : Option Name := all.find? (·.text == text)

end Name

/-- The options. -/
inductive Switch where
  | verbose
  | connect
  | timeout
  | json
  | output
  | commit
  | noValidate
  | help
  | version
deriving DecidableEq

namespace Switch

def long : Switch → String
  | verbose => "verbose"
  | connect => "connect"
  | timeout => "timeout-ms"
  | json => "json"
  | output => "output"
  | commit => "commit"
  | noValidate => "no-validate"
  | help => "help"
  | version => "version"

def short : Switch → Option Char
  | verbose => some 'v'
  | output => some 'o'
  | help => some 'h'
  | version => some 'V'
  | _ => none

def takesValue : Switch → Bool
  | connect | timeout | output => true
  | _ => false

/-- The options that may stand in front of the name of a command and behind it. -/
def everywhere : List Switch := [verbose, connect, timeout, help]

end Switch

/-- What a command does, with its options and its operand. -/
inductive Command where
  | status (json : Bool)
  | readConfig (output : Option String)
  | writeConfig (file : String) (commit noValidate : Bool)
  | commit
  | keepAwake (enabled : Bool)
  | reboot
  | flash (file : String)
deriving DecidableEq

/-- A command line that was understood. -/
structure Invocation where
  /-- How often more messages were asked for, at most 255. -/
  verbose : Nat
  /-- Where the bridge is. -/
  address : String
  /-- How long a receive may take in milliseconds; zero is for ever. -/
  timeout : Nat
  command : Command
deriving DecidableEq

/-- The limit of a receive, if there is one. -/
def Invocation.receiveTimeout (invocation : Invocation) : Option Nat :=
  if invocation.timeout = 0 then none else some invocation.timeout

end ControlLink.CommandLine
