import GateMachine.Proofs.ProgramLoading
import GateMachine.Proofs.ProgramSpellings

/-!
The byte form of programs, seen from both sides. What is written is read back, in front
of anything, and no part of it is read as something else (`code_self_delimiting`). What
is read was spelled by the bytes that were taken: no other program can come of
them, and writing it again takes no more bytes (`decoding_exact`). Programs are read
as lists of instructions, and only those lists that are programs are let through.
-/

namespace GateMachine

namespace Instruction

variable {τ : Type}

/-- The word that the instruction carries, for the instructions that carry one. -/
def word? : Instruction τ → Option Word
  | .push word | .replace word | .mod word | .eq word => some word
  | _ => none

end Instruction

namespace Wire

section Programs

variable {program : Program} {input rest : List UInt8}

theorem reads_program :
    Reads Decoder.program fun program code => SpellsList SpellsAddress program.toList code := by
  apply ((reads_list addressCode.reads).mapOption _ .invalid).congr
  intro program code
  have loads : ∀ resolved, (Program.ofAddresses resolved).toOption = some program ↔
      program.toList = resolved := by
    intro resolved
    rw [← Program.ofAddresses_eq_ok_iff]
    cases Program.ofAddresses resolved <;> simp [Except.toOption]
  simp only [loads, exists_eq_left']

theorem program_eq_ok_iff :
    Decoder.program input = .ok (program, rest) ↔
      Decoder.list Decoder.address input = .ok (program.toList, rest) := by
  rw [reads_program, reads_list addressCode.reads]

end Programs

/-- The encoding of a program, of instructions with lines or of instructions with
addresses gives them back and leaves what follows, and no strict part of it gives anything;
this holds for all whose lengths are 64-bit numbers, and could hold for no others. -/
theorem code_self_delimiting :
    (∀ program : Program, Fits program.toList ↔
      SelfDelimiting Decoder.program program (encodeProgram program)) ∧
    (∀ authored : List (Instruction Line), Fits authored ↔
      SelfDelimiting (Decoder.list Decoder.line) authored (encodeList encodeLine authored)) ∧
    ∀ resolved : List (Instruction Address), Fits resolved ↔
      SelfDelimiting (Decoder.list Decoder.address) resolved
        (encodeList encodeAddress resolved) := by
  refine ⟨?_, ?_, ?_⟩
  · intro program
    rw [reads_program.selfDelimiting_iff]
    exact (spellsList_encode_iff addressCode).symm
  · intro authored
    rw [(reads_list lineCode.reads).selfDelimiting_iff]
    exact (spellsList_encode_iff lineCode).symm
  · intro resolved
    rw [(reads_list addressCode.reads).selfDelimiting_iff]
    exact (spellsList_encode_iff addressCode).symm

/-- Bytes decode to a program exactly when they decode to instructions each of whose
addresses is one of theirs; the program is then those instructions and the same bytes are
left. Its words are the numbers up to fifteen. What was taken spells it, perhaps with more
bytes than needed; its encoding takes no more, and decodes to it again. -/
theorem decoding_exact (input : List UInt8) :
    ((∃ program rest, Decoder.program input = .ok (program, rest)) ↔
      ∃ resolved rest, Decoder.list Decoder.address input = .ok (resolved, rest) ∧
        ∀ instruction ∈ resolved, instruction.Within (Address.Among resolved.length)) ∧
    ∀ program rest, Decoder.program input = .ok (program, rest) →
      Decoder.list Decoder.address input = .ok (program.toList, rest) ∧
      (∀ instruction ∈ program.toList, ∀ word, instruction.word? = some word →
        word.value ≤ 15) ∧
      ∃ taken, input = taken ++ rest ∧ SpellsList SpellsAddress program.toList taken ∧
        (encodeProgram program).length ≤ taken.length ∧
        ∀ after, Decoder.program (encodeProgram program ++ after) = .ok (program, after) := by
  refine ⟨?_, ?_⟩
  · constructor
    · rintro ⟨program, rest, decoded⟩
      refine ⟨program.toList, rest, program_eq_ok_iff.mp decoded, ?_⟩
      exact (Program.checks_ofAddresses.ok_iff _).mp ⟨program, Program.ofAddresses_eq_ok_iff.mpr rfl⟩
    · rintro ⟨resolved, rest, decoded, inside⟩
      obtain ⟨program, loaded⟩ := Program.checks_ofAddresses.accepts resolved inside
      rw [← Program.toList_of_ofAddresses loaded] at decoded
      exact ⟨program, rest, program_eq_ok_iff.mpr decoded⟩
  · intro program rest decoded
    obtain ⟨taken, whole, spelled⟩ := (reads_program _ _ _).mp decoded
    have again := (spellsList_encode_iff addressCode).mpr (fits_of_spellsList spelled)
    refine ⟨program_eq_ok_iff.mp decoded, ?_, taken, whole, spelled, ?_, ?_⟩
    · intro _ _ word _
      exact Nat.le_of_lt_succ word.value_lt
    · exact length_encodeList_le addressCode spelled
    · exact reads_program.spelled again

-- A length and an opcode of two bytes each, where one would do.
example : Decoder.list Decoder.address [0x81, 0x00, 0x88, 0x00, 0x00, 0xff] =
    .ok ([.jump ⟨0⟩], [0xff]) := rfl

-- A jump past the end, and a word that is none.
example : Decoder.program [1, 8, 1] = .error .invalid ∧
    Decoder.program [1, 0, 16] = .error .invalid := ⟨rfl, rfl⟩

end Wire

end GateMachine
