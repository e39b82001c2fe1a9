/-!
The operation codes of the machine: how each is spelled and how many words
it needs on the stack.
-/

namespace GateMachine

inductive Opcode where
  | push
  | pop
  | dup
  | peek
  | replace
  | inc
  | mod
  | eq
  | jump
  | ifNZero
  | stop
  | printHead
  | print
  deriving DecidableEq

namespace Opcode

def all : List Opcode :=
  [push, pop, dup, peek, replace, inc, mod, eq, jump, ifNZero, stop, printHead, print]

def mnemonic : Opcode → String
  | push => "push"
  | pop => "pop"
  | dup => "dup"
  | peek => "peek"
  | replace => "replace"
  | inc => "inc"
  | mod => "mod"
  | eq => "eq"
  | jump => "jump"
  | ifNZero => "ifNZero"
  | stop => "stop"
  | printHead => "printHead"
  | print => "print"

/-- The mnemonic with a capital letter, for headings. -/
def title (opcode : Opcode) : String := opcode.mnemonic.capitalize

/-- How many words must be on the stack before the instruction runs. -/
def stackInputs : Opcode → Nat
  | push | jump | stop | print => 0
  | pop | dup | replace | inc | mod | eq | ifNZero | printHead => 1
  | peek => 2

end Opcode

end GateMachine
