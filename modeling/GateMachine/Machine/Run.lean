import GateMachine.Machine

/-!
Runs of the machine. `Finishes` says what a run comes to that goes on until
`stop` or a fault; a program that never ends finishes with nothing. `run`
computes it with fuel, one unit a tick, and any fuel that is enough gives the
same result (`finishes_iff`). `runWithin` is a run that gives up after a number
of ticks and says so. `after` and `tick` are the state and the report of each
single tick, also beyond a halt or a fault.
-/

namespace GateMachine

/-- A run that was given up, and what it had printed by then. -/
structure StepLimit where
  maxSteps : Nat
  output : Output
  deriving DecidableEq

def StepLimit.message (limit : StepLimit) : String :=
  s!"program did not stop within {limit.maxSteps} step(s)"

inductive RunError where
  | fault (fault : Fault)
  | stepLimit (limit : StepLimit)
  deriving DecidableEq

namespace RunError

def message : RunError → String
  | .fault cause => cause.message
  | .stepLimit limit => limit.message

def output : RunError → Output
  | .fault cause => cause.output
  | .stepLimit limit => limit.output

end RunError

namespace Program

section Ticks

/-- The state after a number of ticks. -/
def after (program : Program) : Nat → State → State
  | 0, state => state
  | ticks + 1, state => after program ticks (program.step state).2

/-- What the tick after `ticks` others reports. -/
def tick (program : Program) (ticks : Nat) (state : State) : Except Fault Tick :=
  (program.step (program.after ticks state)).1

/-- Each of the first ticks with the state it leaves. -/
def trace (program : Program) : Nat → State → List (Except Fault Tick × State)
  | 0, _ => []
  | ticks + 1, state =>
      let outcome := program.step state
      outcome :: trace program ticks outcome.2

end Ticks

section Runs

/-- The result of going on from a state until `stop` or a fault. -/
inductive Finishes (program : Program) : State → Except Fault Output → Prop where
  | fault {state after : State} {fault : Fault}
      (faulted : program.step state = (.error fault, after)) :
      Finishes program state (.error fault)
  | halt {state final : State} (halted : program.step state = (.ok .halted, final)) :
      Finishes program state (.ok final.output)
  | tick {state next : State} {result : Except Fault Output}
      (running : program.step state = (.ok .running, next))
      (rest : Finishes program next result) : Finishes program state result

/-- Goes on from a state until `stop` or a fault, if either comes while fuel lasts. -/
def resume (program : Program) : Nat → State → Option (Except Fault Output)
  | 0, _ => none
  | fuel + 1, state =>
      match program.step state with
      | (.error fault, _) => some (.error fault)
      | (.ok .halted, final) => some (.ok final.output)
      | (.ok .running, next) => resume program fuel next

def run (program : Program) (fuel : Nat) : Option (Except Fault Output) :=
  program.resume fuel .start

theorem finishes_of_resume {program : Program} {fuel : Nat} {state : State}
    {result : Except Fault Output} (done : program.resume fuel state = some result) :
    program.Finishes state result := by
  induction fuel generalizing state with
  | zero => simp [resume] at done
  | succ fuel ih =>
      simp only [resume] at done
      split at done
      · next fault after faulted =>
          cases done
          exact .fault faulted
      · next final halted =>
          cases done
          exact .halt halted
      · next next running => exact .tick running (ih done)

theorem resume_of_finishes {program : Program} {state : State} {result : Except Fault Output}
    (finishes : program.Finishes state result) :
    ∃ fuel, program.resume fuel state = some result := by
  induction finishes with
  | fault faulted => exact ⟨1, by simp [resume, faulted]⟩
  | halt halted => exact ⟨1, by simp [resume, halted]⟩
  | tick running _ ih =>
      obtain ⟨fuel, done⟩ := ih
      exact ⟨fuel + 1, by simp [resume, running, done]⟩

theorem finishes_iff {program : Program} {state : State} {result : Except Fault Output} :
    program.Finishes state result ↔ ∃ fuel, program.resume fuel state = some result :=
  ⟨resume_of_finishes, fun ⟨_, done⟩ => finishes_of_resume done⟩

/-- Goes on for at most `ticks` more ticks of a budget of `maxSteps`. -/
def resumeWithin (program : Program) (maxSteps : Nat) : Nat → State → Except RunError Output
  | 0, state => .error (.stepLimit { maxSteps, output := state.output })
  | ticks + 1, state =>
      match program.step state with
      | (.error fault, _) => .error (.fault fault)
      | (.ok .halted, final) => .ok final.output
      | (.ok .running, next) => resumeWithin program maxSteps ticks next

def runWithin (program : Program) (maxSteps : Nat) : Except RunError Output :=
  program.resumeWithin maxSteps maxSteps .start

end Runs

end Program

end GateMachine
