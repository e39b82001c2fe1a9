import GateMachine.Proofs.DisplayedPrograms
import GateMachine.Proofs.SourceLoading

/-!
The normal form of a source: its instructions displayed, one a line, with nothing
between them. Reading never gives a text with a carriage return in it
(`noReturn_of_denotes`), and this is the only thing that a displayed program
cannot hold; so a source that is read at all has a normal form that is read as
the same instructions, and both load as the same program or stray in the same
way (`normalForm_loads_alike`).
-/

namespace GateMachine

namespace Source

def normalForm (read : List Statement) : String := displayed (read.map Statement.instruction)

section Returns

theorem noReturn_of_stringBody {body text : List Char} (written : StringBody body text) :
    '\r' ∉ text := by
  induction written with
  | nil => exact List.not_mem_nil
  | plain allowed _ ih =>
      intro member
      rcases List.mem_cons.mp member with here | later
      · exact allowed.2.2.1 here.symm
      · exact ih later
  | @escape letter c _ _ listed _ ih =>
      intro member
      rcases List.mem_cons.mp member with here | later
      · -- No escape stands for a carriage return.
        subst here
        simp at listed
      · exact ih later

theorem noReturn_of_instructionText {text : List Char} {command : Command} {printed : String}
    (written : InstructionText text command) (means : command.Means (.print printed)) :
    '\r' ∉ printed.toList := by
  cases written with
  | print apart body =>
      cases Command.means_plain_iff.mp means
      rw [String.toList_ofList]
      exact noReturn_of_stringBody body
  | bare listed =>
      obtain ⟨opcode, _, table⟩ := bare_listed_iff.mp listed
      cases Command.means_plain_iff.mp means
      exact absurd rfl ((inert_of_form_bare table).2 printed)
  | number listed =>
      obtain ⟨opcode, _, table⟩ := word_listed_iff.mp listed
      obtain ⟨word, _, made⟩ := Command.means_word_iff.mp means
      exact absurd made ((inert_of_form_word table word).2 printed)
  | boolean listed =>
      obtain ⟨opcode, _, table⟩ := word_listed_iff.mp listed
      have made := Command.means_plain_iff.mp means
      exact absurd made ((inert_of_form_word table _).2 printed)
  | target listed =>
      obtain ⟨opcode, _, table⟩ := line_listed_iff.mp listed
      obtain ⟨line, _, made⟩ := Command.means_line_iff.mp means
      have jumps := target?_of_form_line table line
      rw [made] at jumps
      contradiction

theorem noReturn_of_denotes {bodies : List (List Char)} {instructions : List (Instruction Line)}
    (denotes : Denotes bodies instructions) :
    ∀ text, .print text ∈ instructions → '\r' ∉ text.toList := by
  induction denotes with
  | nil =>
      intro text member
      contradiction
  | empty _ _ ih => exact ih
  | instruction form means _ ih =>
      intro text member
      rcases List.mem_cons.mp member with here | later
      · subst here
        cases form with
        | instruction _ written _ _ => exact noReturn_of_instructionText written means
      · exact ih text later

end Returns

section Meaning

variable {source : String} {read : List Statement}

theorem normalForm_parses (parsed : parse source = .ok read) :
    ∃ again, parse (normalForm read) = .ok again ∧
      again.map Statement.instruction = read.map Statement.instruction := by
  have denotes := parses_iff_denotes.mp ⟨read, parsed, rfl⟩
  exact parses_of_noReturn (noReturn_of_denotes denotes)

/-- Both sources load as one program, or both are refused for a jump to the same
line of a program of the same length. -/
def LoadAlike (first second : String) : Prop :=
  (∃ program, (Draft.source first).load = .ok program ∧
      (Draft.source second).load = .ok program) ∨
    ∃ line len span otherSpan,
      (Draft.source first).load =
        .error (.ofSourceError first { kind := .lineOutOfRange line len, span }) ∧
      (Draft.source second).load =
        .error (.ofSourceError second { kind := .lineOutOfRange line len, span := otherSpan })

-- Spans apart, loading looks at nothing but the instructions.
theorem loadAlike_of_same {other : String} {again : List Statement}
    (parsed : parse source = .ok read) (reparsed : parse other = .ok again)
    (same : again.map Statement.instruction = read.map Statement.instruction) :
    LoadAlike source other := by
  cases resolved : Program.ofLines (read.map Statement.instruction) with
  | ok program =>
      have loaded := resolved
      rw [← same] at loaded
      exact .inl ⟨program, Draft.load_of_loaded parsed resolved,
        Draft.load_of_loaded reparsed loaded⟩
  | error stray =>
      have strays := resolved
      rw [← same] at strays
      exact .inr ⟨stray.line, stray.len, _, _, Draft.load_of_stray parsed resolved,
        Draft.load_of_stray reparsed strays⟩

/-- A source that is read has a normal form that is read as the same instructions,
and the two load alike. -/
theorem normalForm_loads_alike (source : String) (read : List Statement)
    (parsed : parse source = .ok read) :
    (∃ again, parse (normalForm read) = .ok again ∧
      again.map Statement.instruction = read.map Statement.instruction) ∧
    LoadAlike source (normalForm read) := by
  obtain ⟨again, reparsed, same⟩ := normalForm_parses parsed
  exact ⟨⟨again, reparsed, same⟩, loadAlike_of_same parsed reparsed same⟩

/-- A source with comments, all three line ends, tabs, zeros in front and a truth value. -/
theorem mixed_source_loads_alike :
    ∃ read,
      parse "\t// x\r\n push\t007//x\r\rprint \"a\tb\" \nifNZero 02 \n eq true" = .ok read ∧
      normalForm read = "push 7\nprint \"a\\tb\"\nifNZero 2\neq 1" ∧
      (∃ again, parse (normalForm read) = .ok again ∧
        again.map Statement.instruction = read.map Statement.instruction) ∧
      LoadAlike "\t// x\r\n push\t007//x\r\rprint \"a\tb\" \nifNZero 02 \n eq true"
        (normalForm read) := by
  refine ⟨_, rfl, ?_, normalForm_loads_alike _ _ rfl⟩
  decide

end Meaning

end Source

end GateMachine
