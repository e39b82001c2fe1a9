import GateMachine.Failure

/-!
Loading and running programs, with every way to fail gathered in one type.
-/

namespace GateMachine

/-- A program in one of the forms in which it can be handed over. -/
inductive Draft where
  | source (text : String)
  | lines (instructions : List (Instruction Line))
  | addresses (instructions : List (Instruction Address))
  deriving DecidableEq

def Draft.load : Draft → Except Failure Program
  | .source text => (Program.ofSource text).mapError (Failure.ofSourceError text)
  | .lines instructions =>
      (Program.ofLines instructions).mapError fun stray => .load (.line stray)
  | .addresses instructions =>
      (Program.ofAddresses instructions).mapError fun stray => .load (.address stray)

/-- Runs a program, within a number of ticks if one is given. Without a bound
    there is no result while the fuel is not enough. -/
def Program.execute (program : Program) (fuel : Nat) (maxSteps : Option Nat) :
    Option (Except Failure Output) :=
  match maxSteps with
  | some bound => some ((program.runWithin bound).mapError Failure.ofRunError)
  | none => (program.run fuel).map (Except.mapError Failure.runtime)

end GateMachine
