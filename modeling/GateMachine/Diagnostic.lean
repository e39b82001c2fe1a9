import GateMachine.Source.Span

/-!
Messages about a source text, each pointing at a span of it.
-/

namespace GateMachine

inductive Severity where
  | error
  | warning
  | info
  deriving DecidableEq

def Severity.text : Severity → String
  | .error => "error"
  | .warning => "warning"
  | .info => "info"

structure Diagnostic where
  severity : Severity
  message : String
  span : Span
  help : List String
  code : Option String
  deriving DecidableEq

/-- The message on one line, and each help on a line of its own. -/
def Diagnostic.text (diagnostic : Diagnostic) : String :=
  let code := match diagnostic.code with
    | some code => s!" [{code}]"
    | none => ""
  let help := diagnostic.help.map fun help => "\nhelp: " ++ help
  diagnostic.severity.text ++ ": " ++ diagnostic.message ++ code ++ String.join help

end GateMachine
