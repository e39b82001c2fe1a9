import GateMachine.Text.Fill

/-!
Why a source could not be read, and the report about it. The report names the
source in lines that are filled to the width of a terminal, and the reason
below them.
-/

namespace GateMachine

namespace Console

inductive ReadError where
  | missing
  | denied
  | notDirectory
  | isDirectory
  | nameTooLong
  | notText
  deriving DecidableEq

namespace ReadError

def reason : ReadError → String
  | .missing => "No such file or directory (os error 2)"
  | .denied => "Permission denied (os error 13)"
  | .notDirectory => "Not a directory (os error 20)"
  | .isDirectory => "Is a directory (os error 21)"
  | .nameTooLong => "File name too long (os error 36)"
  | .notText => "stream did not contain valid UTF-8"

/-- The columns that a message has beside its margin. -/
def messageColumns : Nat := 74

def messageLines (file : String) : List String :=
  (Text.fill messageColumns ("could not read " ++ file).toList).map String.ofList

/-- The first line of a message bears the sign of an error, the others a bar. -/
def withMargin : List String → List String
  | [] => []
  | first :: rest => ("  × " ++ first) :: rest.map ("  │ " ++ ·)

def reportRows (file : String) (error : ReadError) : List String :=
  ["Error: nibble::read", ""] ++ withMargin (messageLines file) ++
    ["  ╰─▶ " ++ error.reason, ""]

/-- Every row of the report ends with a line feed. -/
def report (file : String) (error : ReadError) : String :=
  String.join ((error.reportRows file).map (· ++ "\n"))

end ReadError

end Console

end GateMachine
