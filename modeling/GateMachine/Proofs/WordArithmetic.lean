import GateMachine.Word.Arithmetic

/-!
What the word circuits compute, read off as numbers. Sums, differences and
products wrap at sixteen, equality answers with one or zero, and the
subtraction loop leaves the quotient, wrapped by the adder that counts it,
and the remainder.
-/

namespace GateMachine

namespace Word

theorem value_zero : zero.value = 0 := rfl

theorem value_one : one.value = 1 := rfl

theorem value_add (a b : Word) : (add a b).value = (a.value + b.value) % 16 := by
  have exact := addWithCarry_exact a b
  have bound := value_lt (addWithCarry a b).1
  simp only [add]
  omega

theorem value_sub (a b : Word) : ((sub a b).value : Int) = ((a.value : Int) - b.value) % 16 := by
  have exact := subWithBorrow_exact a b
  have bound := value_lt (subWithBorrow a b).1
  simp only [sub]
  omega

theorem value_eq : ∀ a b : Word, (eq a b).value = if a.value = b.value then 1 else 0 := by
  decide

theorem isZero_eq_false_iff (word : Word) : word.isZero = false ↔ word.value ≠ 0 := by
  rw [ne_eq, ← isZero_iff]
  simp

section Products

theorem value_bitwiseAnd : ∀ a b : Word, (bitwiseAnd a b).value = a.value &&& b.value := by
  decide

theorem value_shiftLeft : ∀ word : Word, word.shiftLeft.value = 2 * word.value % 16 := by
  decide

theorem value_mask : ∀ (select : Bit) (word : Word),
    (mask select word).value = select.toNat * word.value := by
  decide

/-- A row of a long multiplication, cut down to four bits. -/
theorem value_row {word : Word} {number : Nat} (cut : word.value = number % 16) (select : Bit) :
    (mask select word).value = select.toNat * number % 16 := by
  rw [value_mask, cut]
  cases select <;> simp [Bit.toNat]

-- The rows are those of the number `b`, doubled from one bit of `a` to the next. What is cut
-- off from a row, or from a sum on the way, is a multiple of sixteen.
theorem value_mul (a b : Word) : (mul a b).value = a.value * b.value % 16 := by
  have single : b.value = b.value % 16 := (Nat.mod_eq_of_lt (value_lt b)).symm
  have double : b.shiftLeft.value = 2 * b.value % 16 := value_shiftLeft b
  have fourfold : b.shiftLeft.shiftLeft.value = 4 * b.value % 16 := by
    rw [value_shiftLeft, double]
    omega
  have eightfold : b.shiftLeft.shiftLeft.shiftLeft.value = 8 * b.value % 16 := by
    rw [value_shiftLeft, fourfold]
    omega
  have product : a.value * b.value =
      a.b0.toNat * b.value + a.b1.toNat * (2 * b.value) + a.b2.toNat * (4 * b.value) +
        a.b3.toNat * (8 * b.value) := by
    simp only [value, Nat.add_mul, Nat.mul_assoc, Nat.mul_left_comm]
  rw [product]
  simp only [mul, partialProducts, List.foldl, value_add, value_zero, value_row single,
    value_row double, value_row fourfold, value_row eightfold]
  omega

end Products

section Division

-- Each turn moves one divisor from the remainder to the count, so the sum of
-- the count and the quotient still to come is the invariant of the loop.
theorem subtractOut_exact (divisor : Word) (nonzero : divisor.isZero = false)
    (count remainder : Word) :
    (subtractOut divisor nonzero count remainder).count.value =
        (count.value + remainder.value / divisor.value) % 16 ∧
      (subtractOut divisor nonzero count remainder).remainder.value =
        remainder.value % divisor.value := by
  fun_induction subtractOut divisor nonzero count remainder with
  | case1 count remainder less =>
      have small := (less_iff remainder divisor).mp less
      have bound := value_lt count
      constructor
      · rw [Nat.div_eq_of_lt small, Nat.add_zero, Nat.mod_eq_of_lt bound]
      · rw [Nat.mod_eq_of_lt small]
  | case2 count remainder notLess ih =>
      have fits : divisor.value ≤ remainder.value :=
        Nat.le_of_not_lt fun small => notLess ((less_iff remainder divisor).mpr small)
      have positive : 0 < divisor.value :=
        Nat.pos_of_ne_zero ((isZero_eq_false_iff divisor).mp nonzero)
      have quotient := Nat.div_eq_sub_div positive fits
      have rest := Nat.mod_eq_sub_mod fits
      rw [value_sub_of_le fits, value_add, value_one] at ih
      constructor
      · rw [ih.1, quotient]
        omega
      · rw [ih.2, rest]

theorem div_exact (numerator divisor : Word) :
    (div numerator divisor).map (fun division => (division.count.value, division.remainder.value)) =
      if divisor.value = 0 then none
      else some (numerator.value / divisor.value, numerator.value % divisor.value) := by
  by_cases nonzero : divisor.isZero = false
  · have positive := (isZero_eq_false_iff divisor).mp nonzero
    have loop := subtractOut_exact divisor nonzero zero numerator
    have small : numerator.value / divisor.value < 16 :=
      Nat.lt_of_le_of_lt (Nat.div_le_self _ _) (value_lt numerator)
    rw [value_zero, Nat.zero_add, Nat.mod_eq_of_lt small] at loop
    simp [div, nonzero, positive, loop.1, loop.2]
  · have vanishes : divisor.value = 0 := by
      by_cases same : divisor.value = 0
      · exact same
      · exact absurd ((isZero_eq_false_iff divisor).mpr same) nonzero
    simp [div, nonzero, vanishes]

theorem div_eq_none_iff (numerator divisor : Word) :
    div numerator divisor = none ↔ divisor.value = 0 := by
  rw [← Option.map_eq_none_iff, div_exact]
  simp

theorem value_of_div {numerator divisor : Word} {division : Division}
    (divided : div numerator divisor = some division) :
    division.count.value = numerator.value / divisor.value ∧
      division.remainder.value = numerator.value % divisor.value := by
  have exact := div_exact numerator divisor
  rw [divided, Option.map_some] at exact
  split at exact
  · contradiction
  · exact Prod.mk.inj (Option.some.inj exact)

theorem modulo_exact (numerator divisor : Word) :
    (modulo numerator divisor).map value =
      if divisor.value = 0 then none else some (numerator.value % divisor.value) := by
  have both := congrArg (Option.map Prod.snd) (div_exact numerator divisor)
  rw [Option.map_map] at both
  simp only [modulo, Option.map_map]
  refine Eq.trans both ?_
  split <;> rfl

/-- Only zero leaves no remainder. -/
theorem modulo_eq_none_iff (numerator divisor : Word) :
    modulo numerator divisor = none ↔ divisor = zero := by
  have remainder := modulo_exact numerator divisor
  by_cases vanishes : divisor.value = 0
  · rw [if_pos vanishes, Option.map_eq_none_iff] at remainder
    exact ⟨fun _ => value_injective vanishes, fun _ => remainder⟩
  · rw [if_neg vanishes] at remainder
    constructor
    · intro none
      rw [none] at remainder
      contradiction
    · rintro rfl
      exact absurd value_zero vanishes

end Division

end Word

end GateMachine
