import GateMachine.Diagnostic
import GateMachine.Location
import GateMachine.Text.WhiteSpace

/-!
What can be wrong with a source text, and how it is said. A syntax error says
what was expected and what was found instead; the other kinds name an operand
that does not fit.
-/

namespace GateMachine

namespace Source

/-- What a reader can be told to write. -/
inductive Concept where
  | word
  | line
  | quoted
  | endOfInput
  | instruction
  deriving DecidableEq

namespace Concept

def text : Concept → String
  | word => "a word (0 to 15, `true` or `false`)"
  | line => "a line number"
  | quoted => "a quoted string"
  | endOfInput => "end of input"
  | instruction => "an instruction"

/-- Joins phrases: `a`, `a or b`, `a, b or c`. -/
def alternatives : List String → String
  | [] => "something else"
  | [last] => last
  | [first, last] => first ++ " or " ++ last
  | first :: rest => first ++ ", " ++ alternatives rest

/-- Names each concept once, in the order of their first mention. -/
def expected (concepts : List Concept) : String :=
  alternatives (concepts.eraseDups.map text)

end Concept

/-- At most this many characters of what was found are quoted. -/
def foundWidth : Nat := 16

/-- Describes what stands at the front of a text. -/
def found (rest : List Char) : String :=
  let token := (rest.takeWhile fun c => !Text.isWhiteSpace c).take foundWidth
  -- Without a token there is white space or nothing at all.
  if token.isEmpty then
    match rest with
    | [] => "end of input"
    | '\n' :: _ => "end of line"
    | '\r' :: _ => "end of line"
    | _ => "whitespace"
  else
    "'" ++ String.ofList token ++ "'"

end Source

namespace SourceError

inductive Kind where
  | unexpected (expected found : String)
  | invalidWord (text : String)
  | invalidLine (text : String)
  | lineOutOfRange (line : Line) (len : Nat)
  | other (message : String)
  deriving DecidableEq

namespace Kind

def message : Kind → String
  | .unexpected expected found => s!"Expected {expected}, found {found}"
  | .invalidWord text => s!"Invalid word literal '{text}'"
  | .invalidLine text => s!"Invalid line number '{text}'"
  | .lineOutOfRange line len =>
      s!"Jump to line {line.text}, but the program has {len} instruction(s)"
  | .other message => message

def code : Kind → String
  | .unexpected _ _ => "P001"
  | .invalidWord _ => "P002"
  | .invalidLine _ => "P003"
  | .lineOutOfRange _ _ => "P004"
  | .other _ => "P999"

def help : Kind → List String
  | .invalidWord _ => ["Words are 4 bits wide: use 0 to 15, `true` or `false`"]
  | .lineOutOfRange _ _ =>
      ["Lines count instructions from 1; blank and comment lines are not counted"]
  | _ => []

end Kind

end SourceError

structure SourceError where
  kind : SourceError.Kind
  span : Span
  deriving DecidableEq

namespace SourceError

def diagnostic (error : SourceError) : Diagnostic :=
  { severity := .error
    message := error.kind.message
    span := error.span
    help := error.kind.help
    code := some error.kind.code }

def message (error : SourceError) : String := error.diagnostic.text

/-- A syntax error at a place in a source, where any of the concepts could have stood. -/
def unexpected (source : List Char) (position : Nat) (concepts : List Source.Concept) :
    SourceError :=
  { kind := .unexpected (Source.Concept.expected concepts)
      (Source.found (Source.dropBytes position source))
    span := ⟨position, position⟩ }

end SourceError

end GateMachine
