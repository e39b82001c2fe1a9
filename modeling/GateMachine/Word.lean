import GateMachine.Bit

/-!
Words of four bits, least significant first, with the values 0 to 15.
`value_lt`, `value_of_ofNat?` and `ofNat?_value` say that words and the
numbers below sixteen are the same things.
-/

namespace GateMachine

structure Word where
  b0 : Bit
  b1 : Bit
  b2 : Bit
  b3 : Bit
  deriving DecidableEq

namespace Word

def zero : Word := ⟨.zero, .zero, .zero, .zero⟩

def one : Word := ⟨.one, .zero, .zero, .zero⟩

def ofBool : Bool → Word
  | true => one
  | false => zero

def value (word : Word) : Nat :=
  word.b0.toNat + 2 * word.b1.toNat + 4 * word.b2.toNat + 8 * word.b3.toNat

def ofNat? (number : Nat) : Option Word :=
  if number < 16 then
    some ⟨.ofBool (number.testBit 0), .ofBool (number.testBit 1),
      .ofBool (number.testBit 2), .ofBool (number.testBit 3)⟩
  else
    none

structure OutOfRange where
  value : Nat
  deriving DecidableEq

def OutOfRange.message (error : OutOfRange) : String :=
  s!"{error.value} does not fit in a 4-bit word (0..=15)"

/-- A number above 15 is refused, never truncated. -/
def ofNat (number : Nat) : Except OutOfRange Word :=
  match ofNat? number with
  | some word => .ok word
  | none => .error ⟨number⟩

def bits (word : Word) : List Bit := [word.b0, word.b1, word.b2, word.b3]

structure NoSuchBit where
  index : Nat
  deriving DecidableEq

def NoSuchBit.message (error : NoSuchBit) : String :=
  s!"index out of bounds: the len is 4 but the index is {error.index}"

/-- Bit 0 is the least significant. -/
def bit (word : Word) (index : Nat) : Except NoSuchBit Bit :=
  match word.bits[index]? with
  | some bit => .ok bit
  | none => .error ⟨index⟩

def isZero (word : Word) : Bool :=
  (Bit.nor (Bit.or word.b0 word.b1) (Bit.or word.b2 word.b3)).isSet

/-- The value in base ten, without leading zeros. -/
def decimal (word : Word) : String := toString word.value

/-- Both readings of a word: `Word(0b0110 = 6)`. -/
def description (word : Word) : String :=
  "Word(0b" ++ toString word.b3.toNat ++ toString word.b2.toNat ++
    toString word.b1.toNat ++ toString word.b0.toNat ++ " = " ++ word.decimal ++ ")"

/-- A statement about all words is checked bit by bit. -/
instance decidableForall (holds : Word → Prop) [DecidablePred holds] :
    Decidable (∀ word, holds word) :=
  decidable_of_iff (∀ b3 b2 b1 b0, holds ⟨b0, b1, b2, b3⟩)
    ⟨fun all word => all word.b3 word.b2 word.b1 word.b0,
    fun all b3 b2 b1 b0 => all ⟨b0, b1, b2, b3⟩⟩

theorem value_lt (word : Word) : word.value < 16 := by
  have low := word.b0.toNat_lt
  have second := word.b1.toNat_lt
  have third := word.b2.toNat_lt
  have high := word.b3.toNat_lt
  simp only [value]
  omega

theorem ofNat?_value : ∀ word : Word, ofNat? word.value = some word := by
  decide

private theorem value_of_small : ∀ number < 16, ∀ word : Word,
    ofNat? number = some word → word.value = number := by
  decide

theorem value_of_ofNat? {number : Nat} {word : Word} (read : ofNat? number = some word) :
    word.value = number := by
  by_cases small : number < 16
  · exact value_of_small number small word read
  · simp [ofNat?, small] at read

theorem value_injective {a b : Word} (same : a.value = b.value) : a = b := by
  have read := ofNat?_value a
  rw [same, ofNat?_value b] at read
  exact (Option.some.inj read).symm

theorem isZero_iff : ∀ word : Word, word.isZero = true ↔ word.value = 0 := by
  decide

end Word

end GateMachine
