/-!
The arguments of the command line: at most one bound on the run, at most one
request for the listing, and exactly one file, where `-` names the standard
input. Arguments are read from left to right, and the first one that asks for
help or cannot be accepted decides.
-/

namespace GateMachine

namespace Console

structure Arguments where
  maxSteps : Option Nat
  debugProgram : Bool
  file : String
  deriving DecidableEq

/-- Why there is nothing to run. -/
inductive Refusal where
  | help
  | misuse
  deriving DecidableEq

/-- What has been read of the arguments. -/
structure Settings where
  maxSteps : Option Nat := none
  debugProgram : Bool := false
  file : Option String := none
  deriving DecidableEq

/-- A number of steps: decimal digits, perhaps after a plus sign, for a 64-bit number. -/
def stepCount? (text : List Char) : Option Nat :=
  let digits := match text with
    | '+' :: rest => rest
    | _ => text
  let number := Nat.ofDigitChars 10 digits 0
  if !digits.isEmpty && digits.all Char.isDigit && number < UInt64.size then some number else none

namespace Settings

def bound (settings : Settings) (value : List Char) : Except Refusal Settings :=
  match settings.maxSteps, stepCount? value with
  | none, some number => .ok { settings with maxSteps := some number }
  | _, _ => .error .misuse

def debug (settings : Settings) : Except Refusal Settings :=
  if settings.debugProgram then .error .misuse else .ok { settings with debugProgram := true }

/-- A second file is too many, and an empty name is none. -/
def name (settings : Settings) (file : String) : Except Refusal Settings :=
  if settings.file.isSome || file.isEmpty then .error .misuse
  else .ok { settings with file := some file }

def files (settings : Settings) : List String → Except Refusal Settings
  | [] => .ok settings
  | file :: rest =>
      match settings.name file with
      | .error refusal => .error refusal
      | .ok settings => files settings rest

def finish (settings : Settings) : Except Refusal Arguments :=
  match settings.file with
  | some file =>
      .ok { maxSteps := settings.maxSteps, debugProgram := settings.debugProgram, file }
  | none => .error .misuse

end Settings

/-- What a single argument says. -/
inductive Argument where
  | endOfOptions
  | bound
  | boundOf (value : List Char)
  | debug
  | help
  | file (name : String)
  | unknown
  deriving DecidableEq

def boundOption : List Char := "--max-steps".toList

/-- A lone hyphen is a file; all else with a hyphen in front is an option. -/
def Argument.read (text : String) : Argument :=
  let chars := text.toList
  if text = "--" then .endOfOptions
  else if chars = boundOption then .bound
  else if (boundOption ++ ['=']).isPrefixOf chars then .boundOf (chars.drop (boundOption.length + 1))
  else if text = "--debug-program" then .debug
  else if text = "--help" || ['-', 'h'].isPrefixOf chars then .help
  else if text = "-" || chars.head? != some '-' then .file text
  else .unknown

/-- Whether an argument can be the value of the option before it. -/
def isValue (text : String) : Bool := text = "-" || text.toList.head? != some '-'

def readFrom (settings : Settings) : List String → Except Refusal Settings
  | [] => .ok settings
  | text :: rest =>
      match Argument.read text, rest with
      | .endOfOptions, files => settings.files files
      | .bound, value :: rest =>
          -- An option in the place of the value means that the value is missing.
          if isValue value then
            match settings.bound value.toList with
            | .error refusal => .error refusal
            | .ok settings => readFrom settings rest
          else
            .error .misuse
      | .bound, [] => .error .misuse
      | .boundOf value, rest =>
          match settings.bound value with
          | .error refusal => .error refusal
          | .ok settings => readFrom settings rest
      | .debug, rest =>
          match settings.debug with
          | .error refusal => .error refusal
          | .ok settings => readFrom settings rest
      | .file name, rest =>
          match settings.name name with
          | .error refusal => .error refusal
          | .ok settings => readFrom settings rest
      | .help, _ => .error .help
      | .unknown, _ => .error .misuse

def Arguments.read (texts : List String) : Except Refusal Arguments :=
  match readFrom {} texts with
  | .error refusal => .error refusal
  | .ok settings => settings.finish

end Console

end GateMachine
