import GateMachine.Word

/-!
Arithmetic on words, wired from the one-bit stages. Adders and subtractors
ripple from bit 0 to bit 3, comparison decides from bit 3 down,
multiplication adds shifted partial products, and division subtracts until
less than the divisor is left. Results wrap modulo sixteen; the last carry
or borrow is dropped unless it is asked for.

The division loop ends because a difference is smaller than its minuend when
the subtrahend is neither zero nor larger (`value_sub_of_le`, `less_iff`).
-/

namespace GateMachine

namespace Word

section Sums

def addWithCarry (a b : Word) : Word × Bit :=
  let s0 := Bit.fullAdd .zero a.b0 b.b0
  let s1 := Bit.fullAdd s0.carry a.b1 b.b1
  let s2 := Bit.fullAdd s1.carry a.b2 b.b2
  let s3 := Bit.fullAdd s2.carry a.b3 b.b3
  (⟨s0.sum, s1.sum, s2.sum, s3.sum⟩, s3.carry)

def add (a b : Word) : Word := (addWithCarry a b).1

def subWithBorrow (a b : Word) : Word × Bit :=
  let d0 := Bit.fullSub .zero a.b0 b.b0
  let d1 := Bit.fullSub d0.borrow a.b1 b.b1
  let d2 := Bit.fullSub d1.borrow a.b2 b.b2
  let d3 := Bit.fullSub d2.borrow a.b3 b.b3
  (⟨d0.diff, d1.diff, d2.diff, d3.diff⟩, d3.borrow)

def sub (a b : Word) : Word := (subWithBorrow a b).1

theorem addWithCarry_exact (a b : Word) :
    (addWithCarry a b).1.value + 16 * (addWithCarry a b).2.toNat = a.value + b.value := by
  have stage0 := Bit.fullAdd_exact .zero a.b0 b.b0
  have stage1 := Bit.fullAdd_exact (Bit.fullAdd .zero a.b0 b.b0).carry a.b1 b.b1
  have stage2 := Bit.fullAdd_exact
    (Bit.fullAdd (Bit.fullAdd .zero a.b0 b.b0).carry a.b1 b.b1).carry a.b2 b.b2
  have stage3 := Bit.fullAdd_exact
    (Bit.fullAdd (Bit.fullAdd (Bit.fullAdd .zero a.b0 b.b0).carry a.b1 b.b1).carry
      a.b2 b.b2).carry a.b3 b.b3
  have start : Bit.zero.toNat = 0 := rfl
  simp only [addWithCarry, value]
  omega

theorem subWithBorrow_exact (a b : Word) :
    (subWithBorrow a b).1.value + b.value = a.value + 16 * (subWithBorrow a b).2.toNat := by
  have stage0 := Bit.fullSub_exact .zero a.b0 b.b0
  have stage1 := Bit.fullSub_exact (Bit.fullSub .zero a.b0 b.b0).borrow a.b1 b.b1
  have stage2 := Bit.fullSub_exact
    (Bit.fullSub (Bit.fullSub .zero a.b0 b.b0).borrow a.b1 b.b1).borrow a.b2 b.b2
  have stage3 := Bit.fullSub_exact
    (Bit.fullSub (Bit.fullSub (Bit.fullSub .zero a.b0 b.b0).borrow a.b1 b.b1).borrow
      a.b2 b.b2).borrow a.b3 b.b3
  have start : Bit.zero.toNat = 0 := rfl
  simp only [subWithBorrow, value]
  omega

theorem value_sub_of_le {a b : Word} (fits : b.value ≤ a.value) :
    (sub a b).value = a.value - b.value := by
  have exact := subWithBorrow_exact a b
  have bound := value_lt (subWithBorrow a b).1
  have borrow := (subWithBorrow a b).2.toNat_lt
  have small := value_lt a
  simp only [sub]
  omega

end Sums

section Comparisons

/-- The most significant unequal pair of bits decides. -/
def compare (a b : Word) : Bit.Comparison :=
  let c0 := Bit.compare a.b0 b.b0
  let c1 := Bit.compare a.b1 b.b1
  let c2 := Bit.compare a.b2 b.b2
  let c3 := Bit.compare a.b3 b.b3
  { less := Bit.or4 c3.less
      (Bit.and c3.eq c2.less)
      (Bit.and c3.eq (Bit.and c2.eq c1.less))
      (Bit.and4 c3.eq c2.eq c1.eq c0.less)
    eq := Bit.and4 c0.eq c1.eq c2.eq c3.eq
    grt := Bit.or4 c3.grt
      (Bit.and c3.eq c2.grt)
      (Bit.and c3.eq (Bit.and c2.eq c1.grt))
      (Bit.and4 c3.eq c2.eq c1.eq c0.grt) }

/-- One for equal words, zero for others. -/
def eq (a b : Word) : Word :=
  ⟨Bit.and4 (Bit.nxor a.b0 b.b0) (Bit.nxor a.b1 b.b1)
    (Bit.nxor a.b2 b.b2) (Bit.nxor a.b3 b.b3), .zero, .zero, .zero⟩

theorem less_iff : ∀ a b : Word, (compare a b).less.isSet = true ↔ a.value < b.value := by
  decide

end Comparisons

section Products

def bitwiseAnd (a b : Word) : Word :=
  ⟨Bit.and a.b0 b.b0, Bit.and a.b1 b.b1, Bit.and a.b2 b.b2, Bit.and a.b3 b.b3⟩

/-- One place to the left; the top bit is dropped. -/
def shiftLeft (word : Word) : Word := ⟨.zero, word.b0, word.b1, word.b2⟩

/-- The word itself under a set bit, zero under a clear one. -/
def mask (select : Bit) (word : Word) : Word :=
  ⟨Bit.and select word.b0, Bit.and select word.b1, Bit.and select word.b2,
    Bit.and select word.b3⟩

/-- One row of a long multiplication for each bit of `a`. -/
def partialProducts (a b : Word) : List Word :=
  [mask a.b0 b,
    mask a.b1 b.shiftLeft,
    mask a.b2 b.shiftLeft.shiftLeft,
    mask a.b3 b.shiftLeft.shiftLeft.shiftLeft]

def mul (a b : Word) : Word := (partialProducts a b).foldl add zero

structure Division where
  count : Word
  remainder : Word
  deriving DecidableEq

/-- Takes the divisor away and counts, until less than a divisor is left. -/
def subtractOut (divisor : Word) (nonzero : divisor.isZero = false) (count remainder : Word) :
    Division :=
  if (compare remainder divisor).less.isSet = true then
    { count, remainder }
  else
    subtractOut divisor nonzero (add count one) (sub remainder divisor)
termination_by remainder.value
decreasing_by
  rename_i notLess
  -- The divisor is neither zero nor larger than what is left.
  have fits : divisor.value ≤ remainder.value :=
    Nat.le_of_not_lt fun small => notLess ((less_iff _ _).mpr small)
  have positive : divisor.value ≠ 0 := fun vanishes => by
    rw [(isZero_iff divisor).mpr vanishes] at nonzero
    contradiction
  rw [value_sub_of_le fits]
  omega

/-- Nothing is divided by zero. -/
def div (numerator divisor : Word) : Option Division :=
  if nonzero : divisor.isZero = false then
    some (subtractOut divisor nonzero zero numerator)
  else
    none

def modulo (numerator divisor : Word) : Option Word :=
  (div numerator divisor).map Division.remainder

end Products

end Word

end GateMachine
