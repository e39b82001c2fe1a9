import GateMachine.Program
import GateMachine.Stack
import GateMachine.Word.Arithmetic

/-!
The machine and its single step. A step either runs one instruction or faults;
a fault leaves the state as it was, so it can be met again but never passed.
What an instruction needs on the stack is checked before it runs, and the
check is handed on as a proof, so no access to the stack can fail.
-/

namespace GateMachine

/-- The texts printed so far, oldest first. -/
abbrev Output := Array String

structure State where
  pc : Nat
  stack : Stack Word
  output : Output
  halted : Bool
  deriving DecidableEq

def State.start : State := { pc := 0, stack := .empty, output := #[], halted := false }

/-- What a step that did not fault has to say. -/
inductive Tick where
  | running
  | halted
  deriving DecidableEq

namespace Fault

inductive Kind where
  | pcOutOfBounds (len : Nat)
  | stackUnderflow (opcode : Opcode) (needed found : Nat)
  | divisionByZero
  deriving DecidableEq

def Kind.message : Kind → String
  | .pcOutOfBounds len =>
      s!"program counter ran past the end of the program ({len} instruction(s))"
  | .stackUnderflow opcode needed found =>
      s!"`{opcode.mnemonic}` needs {needed} stack word(s) but the stack holds {found}"
  | .divisionByZero => "division by zero"

/-- Faults that the program's shape is to blame for, whatever it computes. -/
def Kind.isMalformedProgram : Kind → Bool
  | .pcOutOfBounds _ => true
  | .stackUnderflow _ _ _ => true
  | .divisionByZero => false

end Fault

/-- Why a run cannot go on, where, and what was printed before. -/
structure Fault where
  kind : Fault.Kind
  pc : Nat
  output : Output
  deriving DecidableEq

def Fault.message (fault : Fault) : String :=
  s!"{fault.kind.message} (at line {fault.pc + 1})"

namespace State

/-- The same state, beside a fault at its instruction. -/
def fail (state : State) (kind : Fault.Kind) : Except Fault Tick × State :=
  (.error { kind, pc := state.pc, output := state.output }, state)

/-- Goes on with the next instruction and another stack. -/
@[inline] def next (state : State) (stack : Stack Word) : Except Fault Tick × State :=
  (.ok .running, { state with pc := state.pc + 1, stack })

/-- Goes on at an address. -/
@[inline] def goto (state : State) (address : Address) (stack : Stack Word) :
    Except Fault Tick × State :=
  (.ok .running, { state with pc := address.position, stack })

/-- Goes on with the next instruction after one more text. -/
@[inline] def print (state : State) (text : String) : Except Fault Tick × State :=
  (.ok .running, { state with pc := state.pc + 1, output := state.output.push text })

/-- Runs one instruction on a stack that is deep enough for it. -/
def perform (state : State) (instruction : Instruction Address)
    (enough : instruction.opcode.stackInputs ≤ state.stack.size) : Except Fault Tick × State :=
  match instruction, enough with
  | .push word, _ => state.next (state.stack.push word)
  | .pop, _ => state.next state.stack.drop
  | .dup, enough => state.next (state.stack.dupAt 0 enough)
  | .peek, enough => state.next (state.stack.dupAt 1 enough)
  | .replace word, enough => state.next (state.stack.set 0 word enough)
  | .inc, enough =>
      let head := state.stack.get 0 enough
      state.next (state.stack.set 0 (head.add .one) enough)
  | .mod word, enough =>
      match (state.stack.get 0 enough).modulo word with
      | some remainder => state.next (state.stack.set 0 remainder enough)
      -- The head is still on the stack: a fault takes nothing away.
      | none => state.fail .divisionByZero
  | .eq word, enough =>
      let head := state.stack.get 0 enough
      state.next (state.stack.push (head.eq word))
  | .jump address, _ => state.goto address state.stack
  | .ifNZero address, enough =>
      if (state.stack.get 0 enough).isZero then state.next state.stack.drop
      else state.goto address state.stack.drop
  -- The program counter stays at the instruction that halted the machine.
  | .stop, _ => (.ok .halted, { state with halted := true })
  | .printHead, enough =>
      let head := state.stack.get 0 enough
      state.print head.decimal
  | .print text, _ => state.print text

end State

namespace Program

/-- One tick. A halted machine stays as it is. -/
def step (program : Program) (state : State) : Except Fault Tick × State :=
  if state.halted then
    (.ok .halted, state)
  else
    match program.get? state.pc with
    | none => state.fail (.pcOutOfBounds program.size)
    | some instruction =>
        if enough : instruction.opcode.stackInputs ≤ state.stack.size then
          state.perform instruction enough
        else
          state.fail (.stackUnderflow instruction.opcode instruction.opcode.stackInputs
            state.stack.size)

end Program

end GateMachine
