import GateMachine.Proofs.WordArithmetic
import GateMachine.Word.Expression
import Mathlib.Data.Int.Bitwise

/-!
Calculations on words against calculations on integers. `Evaluates` gives an expression its
value by ordinary arithmetic: sums, differences and products are reduced modulo sixteen at
each node, quotients are rounded down, and nothing is divided by zero. The circuits compute
that value wherever there is one, to any depth, and give no result exactly where a
node divides by zero (`circuits_compute_integers`).

`Loop` is the subtraction loop of a division, turn by turn; it ends whenever the divisor is
not zero, after as many turns as the quotient says.
-/

namespace GateMachine

namespace Word

section Integers

/-- The operations whose right side is a divisor. -/
def Operation.divides : Operation → Bool
  | .div | .modulo => true
  | .add | .sub | .mul | .bitwiseAnd | .eq => false

/-- The operation on integers; a difference is reduced to a number from 0 to 15 as well. -/
def Operation.onIntegers : Operation → Int → Int → Int
  | .add, a, b => (a + b) % 16
  | .sub, a, b => (a - b) % 16
  | .mul, a, b => (a * b) % 16
  | .bitwiseAnd, a, b => Int.land a b
  | .eq, a, b => if a = b then 1 else 0
  | .div, a, b => Int.fdiv a b
  | .modulo, a, b => Int.fmod a b

namespace Expression

/-- The value of an expression over the integers. -/
inductive Evaluates : Expression → Int → Prop where
  | leaf (word : Word) : Evaluates (.leaf word) word.value
  | node {operation : Operation} {left right : Expression} {a b : Int}
      (first : Evaluates left a) (second : Evaluates right b)
      (defined : operation.divides = true → b ≠ 0) :
      Evaluates (.node operation left right) (operation.onIntegers a b)

/-- The first expression is the second one or stands somewhere inside it. -/
inductive Within : Expression → Expression → Prop where
  | here (expression : Expression) : Within expression expression
  | left {part left right : Expression} {operation : Operation} (inside : Within part left) :
      Within part (.node operation left right)
  | right {part left right : Expression} {operation : Operation} (inside : Within part right) :
      Within part (.node operation left right)

/-- Some node divides, both its sides have a value, and the divisor's is zero. -/
def DividesByZero (expression : Expression) : Prop :=
  ∃ operation left right a, operation.divides = true ∧
    Within (.node operation left right) expression ∧ Evaluates left a ∧ Evaluates right 0

end Expression

end Integers

section Operations

variable {operation : Operation} {a b word : Word}

theorem apply_eq_none_iff (operation : Operation) (a b : Word) :
    operation.apply a b = none ↔ operation.divides = true ∧ b.value = 0 := by
  cases operation with
  | div | modulo =>
      simp only [Operation.apply, modulo, Option.map_eq_none_iff, div_eq_none_iff]
      exact ⟨fun vanishes => ⟨rfl, vanishes⟩, And.right⟩
  | _ => simp [Operation.apply, Operation.divides]

theorem value_of_apply (applied : operation.apply a b = some word) :
    (word.value : Int) = operation.onIntegers a.value b.value := by
  cases operation with
  | div =>
      obtain ⟨division, divided, rfl⟩ := Option.map_eq_some_iff.mp applied
      rw [(value_of_div divided).1]
      exact Int.ofNat_fdiv a.value b.value
  | modulo =>
      obtain ⟨division, divided, rfl⟩ := Option.map_eq_some_iff.mp applied
      rw [(value_of_div divided).2]
      exact Int.ofNat_fmod a.value b.value
  | add =>
      cases applied
      rw [value_add]
      rfl
  | sub =>
      cases applied
      exact value_sub a b
  | mul =>
      cases applied
      rw [value_mul]
      rfl
  | bitwiseAnd =>
      cases applied
      rw [value_bitwiseAnd]
      rfl
  | eq =>
      cases applied
      rw [value_eq]
      simp [Operation.onIntegers]

end Operations

section Trees

namespace Expression

variable {expression part : Expression} {number : Int}

theorem eval_node (operation : Operation) (left right : Expression) :
    (node operation left right).eval =
      left.eval.bind fun a => right.eval.bind fun b => operation.apply a b := by
  rw [eval]
  cases left.eval <;> cases right.eval <;> rfl

/-- Circuits and integers agree on the value of an expression, and on whether it has one. -/
theorem evaluates_iff (expression : Expression) (number : Int) :
    expression.Evaluates number ↔
      ∃ word, expression.eval = some word ∧ (word.value : Int) = number := by
  induction expression generalizing number with
  | leaf word =>
      constructor
      · rintro ⟨⟩
        exact ⟨word, rfl, rfl⟩
      · rintro ⟨found, read, rfl⟩
        cases read
        exact .leaf word
  | node operation left right leftIh rightIh =>
      rw [eval_node]
      constructor
      · rintro (_ | ⟨first, second, defined⟩)
        obtain ⟨a, leftRead, rfl⟩ := (leftIh _).mp first
        obtain ⟨b, rightRead, rfl⟩ := (rightIh _).mp second
        rw [leftRead, rightRead]
        cases applied : operation.apply a b with
        | none =>
            have ⟨divides, vanishes⟩ := (apply_eq_none_iff operation a b).mp applied
            exact absurd (by exact_mod_cast vanishes) (defined divides)
        | some word => exact ⟨word, applied, value_of_apply applied⟩
      · rintro ⟨word, applied, rfl⟩
        obtain ⟨a, leftRead, later⟩ := Option.bind_eq_some_iff.mp applied
        obtain ⟨b, rightRead, last⟩ := Option.bind_eq_some_iff.mp later
        rw [value_of_apply last]
        refine .node ((leftIh _).mpr ⟨a, leftRead, rfl⟩) ((rightIh _).mpr ⟨b, rightRead, rfl⟩) ?_
        intro divides vanishes
        have failed := (apply_eq_none_iff operation a b).mpr ⟨divides, by exact_mod_cast vanishes⟩
        rw [last] at failed
        contradiction

/-- What has no result gives none to anything built on it. -/
theorem eval_eq_none_of_within (inside : Within part expression) (failed : part.eval = none) :
    expression.eval = none := by
  induction inside with
  | here => exact failed
  | left _ ih => rw [eval_node, ih, Option.bind_none]
  | right _ ih => simp [eval_node, ih]

theorem DividesByZero.left {operation : Operation} {left : Expression} (right : Expression) :
    left.DividesByZero → (node operation left right).DividesByZero
  | ⟨divider, a, b, number, divides, inside, values⟩ =>
      ⟨divider, a, b, number, divides, .left inside, values⟩

theorem DividesByZero.right {operation : Operation} {right : Expression} (left : Expression) :
    right.DividesByZero → (node operation left right).DividesByZero
  | ⟨divider, a, b, number, divides, inside, values⟩ =>
      ⟨divider, a, b, number, divides, .right inside, values⟩

theorem eval_eq_none_of_dividesByZero (divides : expression.DividesByZero) :
    expression.eval = none := by
  obtain ⟨operation, left, right, number, divider, inside, first, second⟩ := divides
  obtain ⟨a, leftRead, _⟩ := (evaluates_iff left number).mp first
  obtain ⟨b, rightRead, vanishes⟩ := (evaluates_iff right 0).mp second
  apply eval_eq_none_of_within inside
  rw [eval_node, leftRead, rightRead, Option.bind_some, Option.bind_some]
  exact (apply_eq_none_iff operation a b).mpr ⟨divider, by exact_mod_cast vanishes⟩

-- The node that fails first, in the order of evaluation, is the one that divides by zero.
theorem dividesByZero_of_eval_eq_none (failed : expression.eval = none) :
    expression.DividesByZero := by
  induction expression with
  | leaf word => cases failed
  | node operation left right leftIh rightIh =>
      cases leftRead : left.eval with
      | none => exact .left right (leftIh leftRead)
      | some a =>
          cases rightRead : right.eval with
          | none => exact .right left (rightIh rightRead)
          | some b =>
              rw [eval_node, leftRead, rightRead, Option.bind_some, Option.bind_some,
                apply_eq_none_iff] at failed
              have first := (evaluates_iff left a.value).mpr ⟨a, leftRead, rfl⟩
              have second := (evaluates_iff right 0).mpr
                ⟨b, rightRead, by exact_mod_cast failed.2⟩
              exact ⟨operation, left, right, a.value, failed.1, .here _, first, second⟩

end Expression

end Trees

section Loops

/-- What one turn of a division does: one divisor less remains, and one more is counted. -/
def Division.turn (divisor : Word) (division : Division) : Division where
  count := add division.count one
  remainder := sub division.remainder divisor

/-- The loop of a division, from what is held before it to what is held when it ends, with
the number of its turns. -/
inductive Loop (divisor : Word) : Division → Nat → Division → Prop where
  | ends {division : Division} (less : (compare division.remainder divisor).less.isSet = true) :
      Loop divisor division 0 division
  | turn {division result : Division} {turns : Nat}
      (notLess : (compare division.remainder divisor).less.isSet = false)
      (later : Loop divisor (division.turn divisor) turns result) :
      Loop divisor division (turns + 1) result

theorem loop_subtractOut (divisor : Word) (nonzero : divisor.isZero = false)
    (count remainder : Word) :
    Loop divisor ⟨count, remainder⟩ (remainder.value / divisor.value)
      (subtractOut divisor nonzero count remainder) := by
  fun_induction subtractOut divisor nonzero count remainder with
  | case1 count remainder less =>
      have small := (less_iff remainder divisor).mp less
      rw [Nat.div_eq_of_lt small]
      exact .ends less
  | case2 count remainder notLess ih =>
      have fits : divisor.value ≤ remainder.value :=
        Nat.le_of_not_lt fun small => notLess ((less_iff remainder divisor).mpr small)
      have positive : 0 < divisor.value :=
        Nat.pos_of_ne_zero ((isZero_eq_false_iff divisor).mp nonzero)
      rw [Nat.div_eq_sub_div positive fits]
      rw [value_sub_of_le fits] at ih
      exact .turn (by simpa using notLess) ih

/-- The loop of a division ends unless the divisor is zero, and leaves the result. -/
theorem loop_div {numerator divisor : Word} (nonzero : divisor.value ≠ 0) :
    ∃ result, div numerator divisor = some result ∧
      Loop divisor ⟨zero, numerator⟩ (numerator.value / divisor.value) result := by
  have set := (isZero_eq_false_iff divisor).mpr nonzero
  refine ⟨subtractOut divisor set zero numerator, ?_, loop_subtractOut divisor set zero numerator⟩
  rw [div, dif_pos set]

end Loops

/-- Gate-level arithmetic is exact. An expression has no result if and only if some node of it
divides by zero, and otherwise its result is its value over the integers. The loop of a
division by anything but zero ends; sums with their carry and differences with their borrow
lose nothing. -/
theorem circuits_compute_integers (expression : Expression) :
    (expression.eval = none ↔ expression.DividesByZero) ∧
      (∀ number, expression.Evaluates number ↔
        ∃ word, expression.eval = some word ∧ (word.value : Int) = number) ∧
      (∀ numerator divisor : Word, divisor.value ≠ 0 →
        ∃ result, div numerator divisor = some result ∧
          Loop divisor ⟨zero, numerator⟩ (numerator.value / divisor.value) result) ∧
      (∀ a b : Word, (a.value : Int) + b.value =
        (addWithCarry a b).1.value + 16 * (addWithCarry a b).2.toNat) ∧
      (∀ a b : Word, (a.value : Int) - b.value =
        (subWithBorrow a b).1.value - 16 * (subWithBorrow a b).2.toNat) := by
  refine ⟨?_, expression.evaluates_iff, fun _ _ => loop_div, ?_, ?_⟩
  · exact ⟨Expression.dividesByZero_of_eval_eq_none, Expression.eval_eq_none_of_dividesByZero⟩
  · intro a b
    have exact := addWithCarry_exact a b
    omega
  · intro a b
    have exact := subWithBorrow_exact a b
    omega

end Word

end GateMachine
