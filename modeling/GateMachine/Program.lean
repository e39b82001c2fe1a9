import GateMachine.Instruction

/-!
Loaded programs. Every jump of a `Program` stays inside it; the two loaders
check this, one for instructions as written, with lines, and one for
instructions that already hold addresses. A failure names the first
instruction whose target does not exist.
-/

namespace GateMachine

structure Program where
  instructions : Array (Instruction Address)
  inRange : ∀ instruction ∈ instructions, ∀ address,
    instruction.target? = some address → address.position < instructions.size
  deriving DecidableEq

/-- A jump to a line that the program does not have. -/
structure StrayLine where
  index : Nat
  line : Line
  len : Nat
  deriving DecidableEq

/-- A jump to an address that the program does not have. -/
structure StrayAddress where
  index : Nat
  address : Address
  len : Nat
  deriving DecidableEq

inductive LoadError where
  | line (stray : StrayLine)
  | address (stray : StrayAddress)
  deriving DecidableEq

def LoadError.message : LoadError → String
  | .line stray =>
      s!"instruction {stray.index + 1} jumps to line {stray.line.text}, " ++
        s!"but the program has {stray.len} instruction(s)"
  | .address stray =>
      s!"instruction {stray.index + 1} jumps to address {stray.address.position}, " ++
        s!"but the program has {stray.len} instruction(s)"

namespace Program

def size (program : Program) : Nat := program.instructions.size

def isEmpty (program : Program) : Bool := program.instructions.isEmpty

def toList (program : Program) : List (Instruction Address) := program.instructions.toList

def get? (program : Program) (index : Nat) : Option (Instruction Address) :=
  program.instructions[index]?

section Lines

/-- Resolves the instructions from `index` on, in a program of `len`. -/
def resolveFrom (len : Nat) : Nat → List (Instruction Line) →
    Except StrayLine (List (Instruction Address))
  | _, [] => .ok []
  | index, instruction :: rest =>
      match instruction.mapTarget fun line =>
          match line.resolve len with
          | some address => .ok address
          | none => .error ({ index, line, len } : StrayLine) with
      | .error error => .error error
      | .ok resolved =>
          match resolveFrom len (index + 1) rest with
          | .error error => .error error
          | .ok tail => .ok (resolved :: tail)

theorem resolveFrom_inRange {len : Nat} {authored : List (Instruction Line)} {index : Nat}
    {resolved : List (Instruction Address)}
    (loaded : resolveFrom len index authored = .ok resolved) :
    resolved.length = authored.length ∧
      ∀ instruction ∈ resolved, ∀ address,
        instruction.target? = some address → address.position < len := by
  induction authored generalizing index resolved with
  | nil =>
      cases loaded
      simp
  | cons first rest ih =>
      simp only [resolveFrom] at loaded
      split at loaded
      · contradiction
      · next head mapped =>
          split at loaded
          · contradiction
          · next tail tailLoaded =>
              cases loaded
              have ⟨sameLength, tailInRange⟩ := ih tailLoaded
              refine ⟨by simp [sameLength], ?_⟩
              intro instruction member address named
              rcases List.mem_cons.mp member with here | later
              · subst here
                obtain ⟨line, resolved⟩ := Instruction.target?_of_mapTarget mapped named
                cases found : line.resolve len with
                | none => simp [found] at resolved
                | some target =>
                    simp only [found] at resolved
                    cases resolved
                    exact (position_of_resolve found).2
              · exact tailInRange instruction later address named

/-- Loads instructions as written, resolving every line among them. -/
def ofLines (authored : List (Instruction Line)) : Except StrayLine Program :=
  match loaded : resolveFrom authored.length 0 authored with
  | .error error => .error error
  | .ok resolved =>
      .ok {
        instructions := resolved.toArray
        inRange := by
          have ⟨sameLength, inside⟩ := resolveFrom_inRange loaded
          simpa [sameLength] using inside }

end Lines

section Addresses

/-- The complaint about an instruction whose address lies outside. -/
def strayAddress? (len : Nat) (instruction : Instruction Address) (index : Nat) :
    Option StrayAddress :=
  match instruction.target? with
  | some address =>
      if address.position < len then none else some { index, address, len }
  | none => none

/-- The first complaint, counting instructions from `index`. -/
def firstStray? (len : Nat) : Nat → List (Instruction Address) → Option StrayAddress
  | _, [] => none
  | index, instruction :: rest =>
      match strayAddress? len instruction index with
      | some error => some error
      | none => firstStray? len (index + 1) rest

theorem inRange_of_firstStray? {len : Nat} {resolved : List (Instruction Address)} {index : Nat}
    (clean : firstStray? len index resolved = none) :
    ∀ instruction ∈ resolved, ∀ address,
      instruction.target? = some address → address.position < len := by
  induction resolved generalizing index with
  | nil => simp
  | cons first rest ih =>
      intro instruction member address named
      simp only [firstStray?] at clean
      split at clean
      · contradiction
      · next quiet =>
          rcases List.mem_cons.mp member with here | later
          · subst here
            simpa [strayAddress?, named] using quiet
          · exact ih clean instruction later address named

/-- Loads instructions that hold addresses already. -/
def ofAddresses (resolved : List (Instruction Address)) : Except StrayAddress Program :=
  match clean : firstStray? resolved.length 0 resolved with
  | some error => .error error
  | none =>
      .ok {
        instructions := resolved.toArray
        inRange := by simpa using inRange_of_firstStray? clean }

end Addresses

end Program

end GateMachine
