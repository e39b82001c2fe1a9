/-!
Places in a program. Programs are written with lines, which count
instructions from one; a loaded program holds addresses, which count from
zero. Both are 64-bit numbers.
-/

namespace GateMachine

structure Line where
  number : UInt64
  deriving DecidableEq

structure Address where
  index : UInt64
  deriving DecidableEq

namespace Line

def text (line : Line) : String := toString line.number.toNat

/-- The number of this line counted from zero, which line zero does not have. -/
def index? (line : Line) : Option UInt64 :=
  if line.number = 0 then none else some (line.number - 1)

/-- The address of this line among `len` instructions. -/
def resolve (line : Line) (len : Nat) : Option Address :=
  match line.index? with
  | none => none
  | some index => if index.toNat < len then some ⟨index⟩ else none

theorem toNat_pred {number : UInt64} (counted : number ≠ 0) :
    (number - 1).toNat + 1 = number.toNat := by
  have positive : number.toNat ≠ 0 := fun zero => counted (UInt64.toNat.inj zero)
  have above : (1 : UInt64) ≤ number := by
    rw [UInt64.le_iff_toNat_le, UInt64.toNat_one]
    omega
  rw [UInt64.toNat_sub_of_le _ _ above, UInt64.toNat_one]
  omega

/-- The lines that resolve are those from one to `len`. -/
theorem resolve_eq (line : Line) (len : Nat) :
    line.resolve len =
      if 1 ≤ line.number.toNat ∧ line.number.toNat ≤ len then some ⟨line.number - 1⟩ else none := by
  unfold resolve index?
  by_cases zero : line.number = 0
  · simp [zero]
  · have place := toNat_pred zero
    have bounds : 1 ≤ line.number.toNat ∧ line.number.toNat ≤ len ↔
        (line.number - 1).toNat < len := by omega
    simp only [if_neg zero, bounds]

end Line

namespace Address

def position (address : Address) : Nat := address.index.toNat

def text (address : Address) : String := "@" ++ toString address.position

/-- The number of the line with this address. -/
def lineNumber (address : Address) : Nat := address.position + 1

end Address

theorem position_of_resolve {line : Line} {len : Nat} {address : Address}
    (resolved : line.resolve len = some address) :
    address.position + 1 = line.number.toNat ∧ address.position < len := by
  unfold Line.resolve Line.index? at resolved
  by_cases zero : line.number = 0
  · simp [zero] at resolved
  · simp only [if_neg zero, Option.ite_none_right_eq_some] at resolved
    obtain ⟨inside, same⟩ := resolved
    cases same
    exact ⟨Line.toNat_pred zero, inside⟩

end GateMachine
