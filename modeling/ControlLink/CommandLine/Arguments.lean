/-
# ControlLink.CommandLine.Arguments — reading a command line

The words in front of the name of a command make one level, those behind it another. On each level
an option waits for its value until the next word, and what a word gives is only checked when the
next option or operand comes or the level ends (`Level.settle`); an error in a word that cannot
stand there at all comes first. A value given on the inner level replaces one of the outer.
-/
import ControlLink.CommandLine.Command
import ControlLink.Decimal.Numeral

namespace ControlLink.CommandLine

set_option autoImplicit false

/-! ## One level -/

/-- What takes a value. -/
inductive Target where
  | switch (switch : Switch)
  | operand
deriving DecidableEq

/-- What was given on one level. -/
structure Level where
  /-- The command to which the level belongs; none in front of its name. -/
  name : Option Name
  verbose : Option Nat := none
  address : Option String := none
  timeout : Option Nat := none
  output : Option String := none
  flags : List Switch := []
  operand : Option String := none
  /-- What waits to be checked: where the value belongs, and the value if it has come. -/
  pending : Option (Target × Option String) := none

namespace Level

/-- The options of the level. -/
def switches (level : Level) : List Switch :=
  Switch.everywhere ++
    match level.name with
    | none => [.version]
    | some .status => [.json]
    | some .readConfig => [.output]
    | some .writeConfig => [.commit, .noValidate]
    | some _ => []

/-- Whether the level has an operand. -/
def hasOperand (level : Level) : Bool :=
  [some Name.writeConfig, some .keepAwake, some .flash].contains level.name

/-- Whether the operand of the level is a path. -/
def operandIsPath (level : Level) : Bool := level.name != some .keepAwake

/-- Whether something was given. -/
def isGiven (level : Level) : Bool :=
  level.verbose.isSome || level.address.isSome || level.timeout.isSome || level.output.isSome ||
    !level.flags.isEmpty || level.operand.isSome

/-! ## Values -/

/-- A path is not empty. -/
def checkPath (text : String) : Except UsageError String :=
  if text.isEmpty then .error .invalidValue else .ok text

/-- A number of milliseconds in 64 bits. -/
def checkTimeout (text : String) : Except UsageError Nat :=
  match Decimal.bounded? (1 <<< 64 - 1) text.toList with
  | some n => .ok n
  | none => .error .valueValidation

/-- An option is given once. -/
def once {α : Type} (given : Option α) : Except UsageError Unit :=
  if given.isSome then .error .argumentConflict else .ok ()

/-- Takes the value of an option. -/
def setSwitch (level : Level) (switch : Switch) (value : String) : Except UsageError Level := do
  match switch with
  | .connect =>
    once level.address
    return { level with address := some value }
  | .timeout =>
    once level.timeout
    return { level with timeout := some (← checkTimeout value) }
  | .output =>
    once level.output
    return { level with output := some (← checkPath value) }
  | _ => throw .tooManyValues

def setOperand (level : Level) (value : String) : Except UsageError Level := do
  if level.operandIsPath then return { level with operand := some (← checkPath value) }
  else if ["on", "off"].contains value then return { level with operand := some value }
  else throw .invalidValue

/-- Checks what waits. -/
def settle (level : Level) : Except UsageError Level :=
  let settled := { level with pending := none }
  match level.pending with
  | none => .ok settled
  | some (_, none) => .error .invalidValue
  | some (.switch switch, some value) => settled.setSwitch switch value
  | some (.operand, some value) => settled.setOperand value

/-- Takes an option without a value. -/
def setFlag (level : Level) (switch : Switch) : Except UsageError Level := do
  let level ← level.settle
  match switch with
  | .help => throw .displayHelp
  | .version => throw .displayVersion
  | .verbose => return { level with verbose := some (min 255 (level.verbose.getD 0 + 1)) }
  | switch =>
    if level.flags.contains switch then throw .argumentConflict
    else return { level with flags := switch :: level.flags }

/-- Takes an option with a value behind it in the same word, or waits for its value. The second
part says whether it waits. -/
def setValue (level : Level) (switch : Switch) (attached : Option String) :
    Except UsageError (Level × Bool) := do
  let level ← level.settle
  match attached with
  | some value => return (← level.setSwitch switch value, false)
  | none => return ({ level with pending := some (.switch switch, none) }, true)

/-! ## Words -/

/-- Takes a word that starts with two hyphens, without them. -/
def long (level : Level) (word : List Char) : Except UsageError (Level × Bool) :=
  let name := String.ofList (word.takeWhile (· != '='))
  let attached := match word.dropWhile (· != '=') with
    | _ :: value => some (String.ofList value)
    | [] => none
  match level.switches.find? (·.long == name) with
  | none => .error .unknownArgument
  | some switch =>
    if switch.takesValue then level.setValue switch attached
    else if attached.isSome then .error .tooManyValues
    else (level.setFlag switch).map (·, false)

/-- Takes the letters behind one hyphen. -/
def short (level : Level) : List Char → Except UsageError (Level × Bool)
  | [] => .ok (level, false)
  | letter :: rest =>
    match level.switches.find? (·.short == some letter) with
    | none => .error .unknownArgument
    | some switch =>
      if switch.takesValue then
        let attached := match rest with
          | [] => none
          | '=' :: value => some (String.ofList value)
          | value => some (String.ofList value)
        level.setValue switch attached
      else
        match level.setFlag switch with
        | .ok level => level.short rest
        | .error error => .error error

/-- Whether a word asks for help or names a command. -/
def isCommandWord (text : String) : Bool := text == "help" || (Name.ofText? text).isSome

/-- Takes a word that is no option: the operand, if there is still room for it. -/
def word (level : Level) (plain : Bool) (text : String) : Except UsageError Level := do
  if level.hasOperand && level.operand.isNone && level.pending.all (·.1 != .operand) then
    let level ← level.settle
    return { level with pending := some (.operand, some text) }
  else if level.name.isSome || (plain && isCommandWord text) then throw .unknownArgument
  else throw .invalidSubcommand

/-- Gives a word to the option that waits for it. -/
def supply (level : Level) (text : String) : Level :=
  match level.pending with
  | some (target, none) => { level with pending := some (target, some text) }
  | _ => level

/-- The words of a request for help name a command, a command under it, and so on. -/
def helpError : List String → UsageError
  | [] => .displayHelp
  | name :: rest =>
    if rest.isEmpty && isCommandWord name then .displayHelp else .invalidSubcommand

/-- Reads the words of a level, up to the name of a command if it has commands. `waiting` says that
an option waits for its value, `plain` that two hyphens have ended the options. -/
def read (level : Level) (waiting plain : Bool) :
    List String → Except UsageError (Level × Option (Name × List String))
  | [] => .ok (level, none)
  | text :: rest => do
    if plain then (← level.word true text).read false true rest
    else
      let called := if level.name.isNone && !waiting then Name.ofText? text else none
      if let some name := called then return (level, some (name, rest))
      if level.name.isNone && !waiting && text == "help" then throw (helpError rest)
      match text.toList with
      | ['-', '-'] => level.read false true rest
      | '-' :: '-' :: chars =>
        let (level, waiting) ← level.long chars
        level.read waiting false rest
      | '-' :: letter :: letters =>
        let (level, waiting) ← level.short (letter :: letters)
        level.read waiting false rest
      | _ =>
        if waiting then (level.supply text).read false false rest
        else (← level.word false text).read false false rest

end Level

/-! ## The whole line -/

/-- The command of a level that was read to its end. -/
def Level.toCommand (level : Level) (name : Name) : Except UsageError Command := do
  let operand : Except UsageError String := match level.operand with
    | some operand => .ok operand
    | none => .error .missingRequiredArgument
  match name with
  | .status => return .status (level.flags.contains .json)
  | .readConfig => return .readConfig level.output
  | .writeConfig =>
    return .writeConfig (← operand) (level.flags.contains .commit)
      (level.flags.contains .noValidate)
  | .commit => return .commit
  | .keepAwake => return .keepAwake ((← operand) == "on")
  | .reboot => return .reboot
  | .flash => return .flash (← operand)

/-- The address and the limit that hold where none is given. -/
def defaultAddress : String := "127.0.0.1:7777"

def defaultTimeout : Nat := 2000

/-- Understands the words of a command line. -/
def parse (words : List String) : Except UsageError Invocation := do
  let (outer, called) ← Level.read { name := none } false false words
  match called with
  | none =>
    let outer ← outer.settle
    if outer.isGiven then throw .missingSubcommand else throw .displayHelpOnMissingArgument
  | some (name, words) =>
    let (inner, _) ← Level.read { name := some name } false false words
    let inner ← inner.settle
    let command ← inner.toCommand name
    let outer ← outer.settle
    return {
      verbose := (inner.verbose.or outer.verbose).getD 0
      address := (inner.address.or outer.address).getD defaultAddress
      timeout := (inner.timeout.or outer.timeout).getD defaultTimeout
      command }

end ControlLink.CommandLine
