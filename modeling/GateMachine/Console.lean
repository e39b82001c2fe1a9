import GateMachine.Console.Arguments
import GateMachine.Console.ReadError
import GateMachine.Execution
import GateMachine.Program.Listing
import GateMachine.Report

/-!
What the command line prints. A transcript is the exit code and the two
streams of a whole invocation; it follows from the arguments and from what the
input that they name holds.
-/

namespace GateMachine

namespace Console

structure Transcript where
  exit : Nat
  stdout : String
  stderr : String
  deriving DecidableEq

def usage : String := "Usage: nibble [OPTIONS] <FILE>\n"

def helpText : String :=
  "Run Nibble assembly programs\n\n" ++ usage ++
  "\nArguments:\n" ++
  "  <FILE>  Program file to run, or `-` to read from stdin\n" ++
  "\nOptions:\n" ++
  "      --max-steps <N>  Give up after this many instructions (runs until `stop` if not set)\n" ++
  "      --debug-program  Print the loaded program listing (for debugging)\n" ++
  "  -h, --help           Print help\n"

def Refusal.transcript : Refusal → Transcript
  | .help => { exit := 0, stdout := helpText, stderr := "" }
  | .misuse => { exit := 2, stdout := "", stderr := usage }

/-- Where a source is read from. -/
inductive Input where
  | standard
  | file (path : String)
  deriving DecidableEq

/-- A lone hyphen names the standard input, and no file. -/
def Arguments.input (arguments : Arguments) : Input :=
  if arguments.file = "-" then .standard else .file arguments.file

def readText (content : ByteArray) : Except ReadError String :=
  match String.fromUTF8? content with
  | some text => .ok text
  | none => .error .notText

/-- The listing that is printed before a run. -/
def listingBlock (arguments : Arguments) (program : Program) : String :=
  if arguments.debugProgram then "=== Program ===\n" ++ program.listing ++ "\n\n" else ""

/-- Each printed text on a line of its own. -/
def outputText (output : Output) : String :=
  String.join (output.toList.map (· ++ "\n"))

/-- A failed invocation. The standard error holds the report alone: the log lines that go
there as well, such as the one about an exceeded step limit, are left out. -/
def failed (before : String) (failure : Failure) : Transcript :=
  { exit := 1
    stdout := before ++ outputText (failure.partialOutput.getD #[])
    stderr := failure.report true }

/-- Loads and runs a source; none if the run is not over when the fuel is. -/
def runSource (fuel : Nat) (arguments : Arguments) (source : String) : Option Transcript :=
  match (Draft.source source).load with
  -- Nothing was loaded, so there is no listing either.
  | .error failure => some (failed "" failure)
  | .ok program =>
      let before := listingBlock arguments program
      (program.execute fuel arguments.maxSteps).map fun
        | .ok output => { exit := 0, stdout := before ++ outputText output, stderr := "" }
        | .error failure => failed before failure

/-- A whole invocation, given what each input holds. -/
def invoke (fuel : Nat) (texts : List String) (read : Input → Except ReadError ByteArray) :
    Option Transcript :=
  match Arguments.read texts with
  | .error refusal => some refusal.transcript
  | .ok arguments =>
      match read arguments.input >>= readText with
      | .error error =>
          some { exit := 1, stdout := "", stderr := error.report arguments.file }
      | .ok source => runSource fuel arguments source

end Console

end GateMachine
