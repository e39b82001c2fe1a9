import GateMachine.Execution
import GateMachine.Wire.Code

/-!
A session holds one program at a time and a bound for its runs. A draft that
does not load leaves the session as it was.
-/

namespace GateMachine

structure Session where
  maxSteps : Option Nat
  program : Option Program := none
  deriving DecidableEq

namespace Session

/-- What can be asked about the current program. -/
inductive Query where
  | run
  | runWith (maxSteps : Option Nat)
  | inspect
  | roundTrip
  deriving DecidableEq

inductive Request where
  | load (draft : Draft)
  | query (query : Query)
  deriving DecidableEq

inductive Reply where
  | loaded (size : Nat) (sameAsBefore : Bool)
  | refused (failure : Failure)
  | noProgram
  | finished (result : Except Failure Output)
  | program (program : Program)
  | encoded (bytes : Nat) (decodesToSame : Bool)

def load (session : Session) (draft : Draft) : Reply × Session :=
  match draft.load with
  -- A program that was loaded before stays.
  | .error failure => (.refused failure, session)
  | .ok program =>
      (.loaded program.size (session.program = some program),
        { session with program := some program })

/-- Encodes a program and tells whether decoding gives it back. -/
def roundTrip (program : Program) : Reply :=
  let bytes := Wire.encodeProgram program
  let same := match Wire.Decoder.program bytes with
    | .ok (decoded, _) => decide (decoded = program)
    | .error _ => false
  .encoded bytes.length same

/-- The answer to a query about a program; none if its run is not over when the fuel is. -/
def ask (session : Session) (fuel : Nat) (program : Program) : Query → Option Reply
  | .run => (program.execute fuel session.maxSteps).map .finished
  | .runWith maxSteps => (program.execute fuel maxSteps).map .finished
  | .inspect => some (.program program)
  | .roundTrip => some (roundTrip program)

def answer (session : Session) (fuel : Nat) : Request → Option Reply × Session
  | .load draft =>
      let (reply, session) := session.load draft
      (some reply, session)
  | .query query =>
      match session.program with
      | none => (some .noProgram, session)
      | some program => (session.ask fuel program query, session)

end Session

end GateMachine
