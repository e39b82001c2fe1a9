import GateMachine.Machine.Run
import GateMachine.Source.Statement

/-!
Everything that can keep a program from finishing, from its source text to
its last tick, and what had been printed by then.
-/

namespace GateMachine

inductive Failure where
  | compilation (diagnostics : List Diagnostic) (source : String)
  | load (error : LoadError)
  | runtime (fault : Fault)
  | resourceExceeded (limit : StepLimit)
  deriving DecidableEq

namespace Failure

def errorCount (diagnostics : List Diagnostic) : Nat :=
  diagnostics.countP fun diagnostic => diagnostic.severity = .error

def message : Failure → String
  | .compilation diagnostics _ => s!"compilation failed with {errorCount diagnostics} error(s)"
  | .load error => "load error: " ++ error.message
  | .runtime fault => "runtime error: " ++ fault.message
  | .resourceExceeded limit => "resource limit exceeded: " ++ limit.message

/-- Only a program that was loaded can have printed something. -/
def partialOutput : Failure → Option Output
  | .compilation _ _ => none
  | .load _ => none
  | .runtime fault => some fault.output
  | .resourceExceeded limit => some limit.output

def ofSourceError (source : String) (error : SourceError) : Failure :=
  .compilation [error.diagnostic] source

def ofRunError : RunError → Failure
  | .fault cause => .runtime cause
  | .stepLimit limit => .resourceExceeded limit

end Failure

end GateMachine
