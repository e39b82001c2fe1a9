import GateMachine.Word.Arithmetic

/-!
Calculations on words. An `Expression` is a tree of operations with words at
its leaves; `accumulate` runs a line of operations against one running total.
Both have no result for a division by zero, and `accumulate` then keeps the
total it had.
-/

namespace GateMachine

namespace Word

inductive Operation where
  | add
  | sub
  | mul
  | bitwiseAnd
  | eq
  | div
  | modulo
  deriving DecidableEq

namespace Operation

/-- A quotient is the count of a division. -/
def apply : Operation → Word → Word → Option Word
  | .add, a, b => some (a.add b)
  | .sub, a, b => some (a.sub b)
  | .mul, a, b => some (a.mul b)
  | .bitwiseAnd, a, b => some (a.bitwiseAnd b)
  | .eq, a, b => some (a.eq b)
  | .div, a, b => (a.div b).map Division.count
  | .modulo, a, b => a.modulo b

end Operation

inductive Expression where
  | leaf (word : Word)
  | node (operation : Operation) (left right : Expression)
  deriving DecidableEq

def Expression.eval : Expression → Option Word
  | .leaf word => some word
  | .node operation left right =>
      match left.eval, right.eval with
      | some a, some b => operation.apply a b
      | _, _ => none

/-- One operation on a running total, which stands on the left unless swapped. -/
structure Step where
  operation : Operation
  operand : Word
  swapped : Bool := false
  deriving DecidableEq

structure Entry where
  result : Option Word
  total : Word
  deriving DecidableEq

def Step.apply (step : Step) (total : Word) : Entry :=
  let result :=
    if step.swapped then step.operation.apply step.operand total
    else step.operation.apply total step.operand
  { result, total := result.getD total }

def accumulate : Word → List Step → List Entry
  | _, [] => []
  | total, step :: rest =>
      let entry := step.apply total
      entry :: accumulate entry.total rest

end Word

end GateMachine
