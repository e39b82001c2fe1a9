/-!
Single bits and the gates over them. Each basic gate is a truth table; the
wider gates, adders, subtractors and the one-bit comparator are wired from
those tables and never from machine integers.

`fullAdd_exact` and `fullSub_exact` say what one stage of a ripple circuit
computes, counting a carry or borrow as two.
-/

namespace GateMachine

inductive Bit where
  | zero
  | one
  deriving DecidableEq

namespace Bit

def ofBool : Bool → Bit
  | true => one
  | false => zero

def isSet : Bit → Bool
  | one => true
  | zero => false

def toNat : Bit → Nat
  | zero => 0
  | one => 1

/-- A statement about all bits is checked on the two of them. -/
instance decidableForall (holds : Bit → Prop) [DecidablePred holds] :
    Decidable (∀ bit, holds bit) :=
  decidable_of_iff (holds zero ∧ holds one)
    ⟨fun both bit => match bit with
      | zero => both.1
      | one => both.2,
    fun all => ⟨all zero, all one⟩⟩

section Gates

def not : Bit → Bit
  | zero => one
  | one => zero

def and : Bit → Bit → Bit
  | one, one => one
  | _, _ => zero

def or : Bit → Bit → Bit
  | zero, zero => zero
  | _, _ => one

def xor : Bit → Bit → Bit
  | one, zero => one
  | zero, one => one
  | _, _ => zero

def nor (a b : Bit) : Bit := not (or a b)

def nand (a b : Bit) : Bit := not (and a b)

def nxor (a b : Bit) : Bit := not (xor a b)

def and4 (a b c d : Bit) : Bit := and (and a b) (and c d)

def or4 (a b c d : Bit) : Bit := or (or a b) (or c d)

end Gates

section Stages

structure Sum where
  sum : Bit
  carry : Bit
  deriving DecidableEq

structure Difference where
  diff : Bit
  borrow : Bit
  deriving DecidableEq

structure Comparison where
  less : Bit
  eq : Bit
  grt : Bit
  deriving DecidableEq

def halfAdd (a b : Bit) : Sum :=
  { sum := xor a b, carry := and a b }

/-- Two chained half adders; a carry out of either is a carry out. -/
def fullAdd (carry a b : Bit) : Sum :=
  let first := halfAdd a b
  let second := halfAdd carry first.sum
  { sum := second.sum, carry := or second.carry first.carry }

def halfSub (a b : Bit) : Difference :=
  { diff := xor a b, borrow := and (not a) b }

/-- Two chained half subtractors; a borrow by either is a borrow. -/
def fullSub (borrow a b : Bit) : Difference :=
  let first := halfSub a b
  let second := halfSub first.diff borrow
  { diff := second.diff, borrow := or first.borrow second.borrow }

def compare (a b : Bit) : Comparison :=
  let less := and (not a) b
  let grt := and a (not b)
  { less, eq := nor less grt, grt }

theorem toNat_lt (bit : Bit) : bit.toNat < 2 := by
  cases bit <;> decide

theorem fullAdd_exact : ∀ carry a b : Bit,
    (fullAdd carry a b).sum.toNat + 2 * (fullAdd carry a b).carry.toNat =
      a.toNat + b.toNat + carry.toNat := by
  decide

theorem fullSub_exact : ∀ borrow a b : Bit,
    (fullSub borrow a b).diff.toNat + b.toNat + borrow.toNat =
      a.toNat + 2 * (fullSub borrow a b).borrow.toNat := by
  decide

end Stages

end Bit

end GateMachine
