/-!
Colored text for terminals. Every painted piece carries its own escape
sequences, and a report without color is the same report without them.
-/

namespace GateMachine

namespace Report

inductive Ink where
  | red
  | yellow
  | indexed (color : Nat)
  deriving DecidableEq

def Ink.code : Ink → String
  | .red => "31"
  | .yellow => "33"
  | .indexed color => "38;5;" ++ toString color

namespace Ink

/-- The heading of an advice. -/
def advice : Ink := .indexed 147

/-- The frame around a report. -/
def margin : Ink := .indexed 246

/-- The frame beside rows that are not numbered. -/
def skipped : Ink := .indexed 240

/-- Source text that the report is not about. -/
def unimportant : Ink := .indexed 249

/-- The marked text and the arrow to the message. -/
def label : Ink := .indexed 155

/-- The word before a help. -/
def note : Ink := .indexed 115

end Ink

def paint (color : Bool) (ink : Ink) (text : String) : String :=
  if color then "\x1b[" ++ ink.code ++ "m" ++ text ++ "\x1b[0m" else text

end Report

end GateMachine
