import GateMachine.Failure
import GateMachine.Report.Figure

/-!
Reports about failures. Diagnostics are drawn against the source text, one
after another; a failure without a place in a text is a single line.
-/

namespace GateMachine

namespace Failure

def reportRows (color : Bool) : Failure → List String
  | .compilation diagnostics source =>
      diagnostics.flatMap (Report.diagnosticRows color source.toList)
  | .load error => ["Load error: " ++ error.message]
  | .runtime fault => ["Runtime error: " ++ fault.message]
  | .resourceExceeded limit => ["Resource limit exceeded: " ++ limit.message]

/-- Every row of a report ends with a line feed. -/
def report (color : Bool) (failure : Failure) : String :=
  String.join ((failure.reportRows color).map (· ++ "\n"))

end Failure

end GateMachine
