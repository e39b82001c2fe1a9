import GateMachine.Proofs.GrammarLines

/-!
Where the rules of the grammar fail. A match that goes wrong has usually gone on for a
while before: rules were begun, failed, and others were tried in their place. `FailsAt`
collects all these places and forgets none of them, however much of a match is given up
again. Matching a program begins rules only where an instruction, its operand or the end
of the text is looked for (`failsAt_instruction`, `failsAt_loop_of_unended`), and the
last line, which is read twice, fails at the same places both times
(`failsAt_program_iff`).
-/

namespace GateMachine

namespace Source

/-- The text is a mnemonic and some blanks, but no operand follows where `place` is left. -/
inductive LacksOperand : List Char → List Char → Prop where
  | intro {opcode : Opcode} {kind : OperandKind} {gap place : List Char}
      (wanted : (form opcode).operand? = some kind) (apart : Gap gap)
      (starts : Stops isBlank place) (missing : kind.split? place = none) :
      LacksOperand (opcode.mnemonic.toList ++ gap ++ place) place

theorem LacksOperand.refused {text place : List Char} (lacks : LacksOperand text place) :
    ∃ head kind, Phrase.split text = .error (.operand head kind) ∧ text = head ++ place := by
  cases lacks with
  | @intro opcode kind gap place wanted apart starts missing =>
      rw [split_mnemonic wanted apart starts, missing]
      exact ⟨_, kind, rfl, rfl⟩

theorem LacksOperand.unique {text place other : List Char} (lacks : LacksOperand text place)
    (also : LacksOperand text other) : place = other := by
  rcases lacks.refused with ⟨head, kind, refused, parts⟩
  rcases also.refused with ⟨_, _, again, otherParts⟩
  rw [refused] at again
  cases again
  exact List.append_cancel_left (parts.symm.trans otherParts)

/-- A parsing expression with its rules marked by their names. A silent part has no rule to
report; nor has what is only looked ahead at. -/
inductive Grammar where
  | silent (item : Peg)
  | rule (production : Production) (item : Grammar)
  | seq (first second : Grammar)
  | choice (first second : Grammar)
  | star (item : Grammar)

namespace Grammar

section Failing

/-- The expression without its marks. -/
def peg : Grammar → Peg
  | .silent item => item
  | .rule _ item => item.peg
  | .seq first second => .seq first.peg second.peg
  | .choice first second => .choice first.peg second.peg
  | .star item => .star item.peg

/-- While the text is matched, a rule begins where `place` is left of it, and fails. -/
inductive FailsAt : Grammar → List Char → List Char → Prop where
  | here {production : Production} {item : Grammar} {text : List Char}
      (stuck : item.peg.run text = none) : FailsAt (.rule production item) text text
  | inside {production : Production} {item : Grammar} {text place : List Char}
      (fails : FailsAt item text place) : FailsAt (.rule production item) text place
  | first {first second : Grammar} {text place : List Char} (fails : FailsAt first text place) :
      FailsAt (.seq first second) text place
  | second {first second : Grammar} {text rest place : List Char}
      (taken : first.peg.run text = some rest) (fails : FailsAt second rest place) :
      FailsAt (.seq first second) text place
  | left {first second : Grammar} {text place : List Char} (fails : FailsAt first text place) :
      FailsAt (.choice first second) text place
  | right {first second : Grammar} {text place : List Char} (stuck : first.peg.run text = none)
      (fails : FailsAt second text place) : FailsAt (.choice first second) text place
  | now {item : Grammar} {text place : List Char} (fails : FailsAt item text place) :
      FailsAt (.star item) text place
  | again {item : Grammar} {text rest place : List Char} (taken : item.peg.run text = some rest)
      (shorter : rest.length < text.length) (fails : FailsAt (.star item) rest place) :
      FailsAt (.star item) text place

variable {production : Production} {item first second : Grammar} {text rest place : List Char}

theorem not_failsAt_silent {item : Peg} : ¬ FailsAt (.silent item) text place := nofun

theorem failsAt_rule_iff :
    FailsAt (.rule production item) text place ↔
      FailsAt item text place ∨ item.peg.run text = none ∧ place = text := by
  constructor
  · intro fails
    cases fails with
    | here stuck => exact .inr ⟨stuck, rfl⟩
    | inside fails => exact .inl fails
  · rintro (fails | ⟨stuck, rfl⟩)
    · exact .inside fails
    · exact .here stuck

theorem failsAt_seq_of_some (taken : first.peg.run text = some rest) :
    FailsAt (.seq first second) text place ↔
      FailsAt first text place ∨ FailsAt second rest place := by
  constructor
  · intro fails
    cases fails with
    | first fails => exact .inl fails
    | second also fails =>
        rw [taken] at also
        cases also
        exact .inr fails
  · rintro (fails | fails)
    · exact .first fails
    · exact .second taken fails

theorem failsAt_seq_of_none (stuck : first.peg.run text = none) :
    FailsAt (.seq first second) text place ↔ FailsAt first text place := by
  constructor
  · intro fails
    cases fails with
    | first fails => exact fails
    | second also _ =>
        rw [stuck] at also
        contradiction
  · exact .first

theorem failsAt_silent_seq {item : Peg} (taken : item.run text = some rest) :
    FailsAt (.seq (.silent item) second) text place ↔ FailsAt second rest place := by
  have same : (Grammar.silent item).peg.run text = some rest := taken
  rw [failsAt_seq_of_some same, or_iff_right not_failsAt_silent]

theorem failsAt_star_of_none (stuck : item.peg.run text = none) :
    FailsAt (.star item) text place ↔ FailsAt item text place := by
  constructor
  · intro fails
    cases fails with
    | now fails => exact fails
    | again also _ _ =>
        rw [stuck] at also
        contradiction
  · exact .now

theorem failsAt_star_of_some (taken : item.peg.run text = some rest)
    (shorter : rest.length < text.length) :
    FailsAt (.star item) text place ↔
      FailsAt item text place ∨ FailsAt (.star item) rest place := by
  constructor
  · intro fails
    cases fails with
    | now fails => exact .inl fails
    | again also _ fails =>
        rw [taken] at also
        cases also
        exact .inr fails
  · rintro (fails | fails)
    · exact .now fails
    · exact .again taken shorter fails

end Failing

section Rules

def optional (item : Grammar) : Grammar := .choice item (.silent .empty)

def choices (items : List Grammar) : Grammar := items.foldr .choice (.silent (.not .empty))

def spaced (first second : Grammar) : Grammar := .seq first (.seq (.silent .skip) second)

def spacedStar (item : Grammar) : Grammar :=
  optional (.seq item (.star (.seq (.silent .skip) item)))

/-- The text between the quotes is a rule of its own. -/
def quoted : Grammar :=
  .rule .quoted (.seq (.silent (.literal "\""))
    (.seq (.rule .text (.silent (.star .textChar))) (.silent (.literal "\""))))

def operand : OperandKind → Grammar
  | .word => .rule .word (.silent .word)
  | .line => .rule .line (.silent .line)
  | .quoted => quoted

def withOperand (opcode : Opcode) (kind : OperandKind) : Grammar :=
  .rule (.operation opcode)
    (.seq (.silent (.literal opcode.mnemonic)) (.seq (.silent .separator) (operand kind)))

def operation (opcode : Opcode) : Grammar :=
  match (form opcode).operand? with
  | none => .rule (.operation opcode) (.silent (.bare opcode.mnemonic))
  | some kind => withOperand opcode kind

/-- One of the operations, which are rules; that it is an instruction is none. -/
def instruction : Grammar :=
  choices ([.push, .pop, .dup, .peek, .replace, .inc, .mod, .eq, .jump, .ifNZero, .printHead,
    .print, .stop].map operation)

def endedLine : Grammar := spaced (optional instruction) (.silent .newline)

def lastLine : Grammar := spaced (optional instruction) (.rule .endOfInput (.silent .endOfInput))

def program : Grammar :=
  .rule .program (spaced (.silent .empty) (spaced (spacedStar endedLine) lastLine))

theorem peg_operation (opcode : Opcode) : (operation opcode).peg = Peg.operation opcode := by
  cases opcode <;> rfl

/-- The marks change nothing about what is matched. -/
theorem peg_program : program.peg = Peg.program := rfl

end Rules

section Instructions

variable {opcode : Opcode} {kind : OperandKind} {text rest place : List Char}

theorem failsAt_optional_iff {item : Grammar} :
    FailsAt (optional item) text place ↔ FailsAt item text place := by
  constructor
  · intro fails
    cases fails with
    | left fails => exact fails
    | right _ fails => exact absurd fails not_failsAt_silent
  · exact .left

theorem failsAt_of_choices {items : List Grammar} (fails : FailsAt (choices items) text place) :
    ∃ item ∈ items, FailsAt item text place := by
  induction items with
  | nil => exact absurd fails not_failsAt_silent
  | cons item items ih =>
      cases fails with
      | left fails => exact ⟨item, List.mem_cons_self, fails⟩
      | right _ fails =>
          rcases ih fails with ⟨other, member, fails⟩
          exact ⟨other, List.mem_cons_of_mem item member, fails⟩

-- When none of the choices is taken, all of them are tried.
theorem failsAt_choices {items : List Grammar} {item : Grammar}
    (stuck : ∀ other ∈ items, other.peg.run text = none) (member : item ∈ items)
    (fails : FailsAt item text place) : FailsAt (choices items) text place := by
  induction items with
  | nil => contradiction
  | cons other items ih =>
      rcases List.forall_mem_cons.mp stuck with ⟨here, later⟩
      rcases List.mem_cons.mp member with rfl | there
      · exact .left fails
      · exact .right here (ih later there)

theorem run_operand_eq_none_iff : (operand kind).peg.run text = none ↔ kind.split? text = none := by
  have same : (operand kind).peg = Peg.operandRule kind := by cases kind <;> rfl
  rw [same]
  constructor
  · intro stuck
    cases found : kind.split? text with
    | none => rfl
    | some split =>
        have taken := Peg.run_operandRule_iff.mpr ⟨split.1, found⟩
        rw [stuck] at taken
        contradiction
  · intro missing
    cases taken : (Peg.operandRule kind).run text with
    | none => rfl
    | some rest =>
        rcases Peg.run_operandRule_iff.mp taken with ⟨operand, found⟩
        rw [missing] at found
        contradiction

-- A quotation that is not closed fails where it opens: its text ends somewhere, always.
theorem failsAt_operand_iff :
    FailsAt (operand kind) text place ↔ kind.split? text = none ∧ place = text := by
  rw [← run_operand_eq_none_iff]
  cases kind with
  | word => exact failsAt_rule_iff.trans (or_iff_right not_failsAt_silent)
  | line => exact failsAt_rule_iff.trans (or_iff_right not_failsAt_silent)
  | quoted =>
      apply failsAt_rule_iff.trans
      apply or_iff_right
      intro fails
      cases fails with
      | first fails => exact not_failsAt_silent fails
      | second _ fails =>
          cases fails with
          | second _ fails => exact not_failsAt_silent fails
          | first fails =>
              cases fails with
              | inside fails => exact not_failsAt_silent fails
              | here stuck =>
                  rw [peg, Peg.run_star_textChar] at stuck
                  contradiction

theorem failsAt_withOperand (wanted : (form opcode).operand? = some kind)
    (fails : FailsAt (withOperand opcode kind) text place) :
    place = text ∨ LacksOperand text place := by
  cases fails with
  | here _ => exact .inl rfl
  | inside fails =>
      cases fails with
      | first fails => exact absurd fails not_failsAt_silent
      | second named fails =>
          cases fails with
          | first fails => exact absurd fails not_failsAt_silent
          | second parted fails =>
              rcases failsAt_operand_iff.mp fails with ⟨missing, rfl⟩
              rcases (Peg.run_plus_iff Peg.run_whiteSpace).mp parted
                with ⟨gap, nonempty, blanks, stops, rfl⟩
              have apart : Gap gap := ⟨nonempty, blanks_iff.mpr blanks⟩
              rw [Peg.run_literal_iff.mp named, ← List.append_assoc]
              exact .inr (.intro wanted apart stops missing)

theorem failsAt_instruction (fails : FailsAt instruction text place) :
    place = text ∨ LacksOperand text place := by
  rcases failsAt_of_choices fails with ⟨item, listed, fails⟩
  rcases List.mem_map.mp listed with ⟨opcode, _, rfl⟩
  unfold operation at fails
  split at fails
  · rcases failsAt_rule_iff.mp fails with inside | ⟨_, same⟩
    · exact absurd inside not_failsAt_silent
    · exact .inl same
  · next kind wanted => exact failsAt_withOperand wanted fails

theorem run_operation_of_refused {fault : Phrase.Fault} (refused : Phrase.split text = .error fault)
    (opcode : Opcode) : (operation opcode).peg.run text = none := by
  rw [peg_operation]
  cases taken : (Peg.operation opcode).run text with
  | none => rfl
  | some rest =>
      rcases Peg.run_operation_iff.mp taken with ⟨phrase, _, splits⟩
      rw [refused] at splits
      contradiction

theorem failsAt_instruction_of_operation {fault : Phrase.Fault}
    (refused : Phrase.split text = .error fault) (fails : FailsAt (operation opcode) text place) :
    FailsAt instruction text place := by
  apply failsAt_choices _ (List.mem_map_of_mem _) fails
  · intro other listed
    rcases List.mem_map.mp listed with ⟨opcode, _, rfl⟩
    exact run_operation_of_refused refused opcode
  · cases opcode <;> simp

theorem failsAt_instruction_operand (lacks : LacksOperand text place) :
    FailsAt instruction text place := by
  rcases lacks.refused with ⟨_, _, refused, _⟩
  cases lacks with
  | @intro opcode kind gap place wanted apart starts missing =>
      have named : (Peg.literal opcode.mnemonic).run (opcode.mnemonic.toList ++ gap ++ place) =
          some (gap ++ place) := Peg.run_literal_iff.mpr (List.append_assoc _ gap place)
      have parted : Peg.separator.run (gap ++ place) = some place :=
        (Peg.run_plus_iff Peg.run_whiteSpace).mpr
          ⟨gap, apart.1, blanks_iff.mp apart.2, starts, rfl⟩
      have same : operation opcode = withOperand opcode kind := by
        simp only [operation, wanted]
      apply failsAt_instruction_of_operation refused
      rw [same]
      apply FailsAt.inside
      rw [failsAt_silent_seq named, failsAt_silent_seq parted]
      exact failsAt_operand_iff.mpr ⟨missing, rfl⟩

end Instructions

section Lines

variable {text rest place : List Char}

theorem failsAt_line (ending : Grammar) (text place : List Char) :
    FailsAt (spaced (optional instruction) ending) (skipped text) place ↔
      FailsAt instruction (skipped text) place ∨ FailsAt ending (round text) place := by
  have taken : (optional instruction).peg.run (skipped text) =
      some ((Peg.instruction.run (skipped text)).getD (skipped text)) := Peg.run_optional
  rw [spaced, failsAt_seq_of_some taken, failsAt_optional_iff, failsAt_silent_seq (run_skip _)]
  rfl

theorem failsAt_endedLine (text place : List Char) :
    FailsAt endedLine (skipped text) place ↔ FailsAt instruction (skipped text) place :=
  (failsAt_line _ text place).trans (or_iff_left not_failsAt_silent)

theorem failsAt_lastLine (text place : List Char) :
    FailsAt lastLine (skipped text) place ↔
      FailsAt instruction (skipped text) place ∨ round text ≠ [] ∧ place = round text := by
  have ends : Peg.endOfInput.run (round text) = none ↔ round text ≠ [] := by
    cases round text <;> simp [Peg.run]
  rw [lastLine, failsAt_line, failsAt_rule_iff, or_iff_right not_failsAt_silent]
  exact or_congr_right (and_congr_left fun _ => ends)

def endedLines : Grammar := .star (.seq (.silent .skip) endedLine)

/-- The rule for programs, turned as `Source.loop` is. -/
def loop : Grammar := .seq endedLines (.seq (.silent .skip) lastLine)

theorem run_turn (ended : Peg.newline.run (round text) = some rest) :
    (Grammar.seq (.silent .skip) endedLine).peg.run text = some rest ∧ rest.length < text.length :=
  ⟨(run_line .newline text).trans ended,
    Nat.lt_of_lt_of_le (length_lt_of_newline ended) (length_round_le text)⟩

theorem run_endedLines (ended : Peg.newline.run (round text) = some rest) :
    endedLines.peg.run text = endedLines.peg.run rest :=
  Peg.run_star_of_some (run_turn ended).1 (run_turn ended).2

theorem exists_run_endedLines (text : List Char) : ∃ rest, endedLines.peg.run text = some rest :=
  ⟨_, rfl⟩

theorem failsAt_loop_of_ended (ended : Peg.newline.run (round text) = some rest) :
    FailsAt loop text place ↔
      FailsAt instruction (skipped text) place ∨ FailsAt loop rest place := by
  rcases run_turn ended with ⟨taken, shorter⟩
  rcases exists_run_endedLines rest with ⟨left, reached⟩
  rw [loop, failsAt_seq_of_some ((run_endedLines ended).trans reached),
    failsAt_seq_of_some reached, endedLines, failsAt_star_of_some taken shorter,
    failsAt_silent_seq (run_skip text), failsAt_endedLine, or_assoc]

theorem failsAt_loop_of_unended (unended : Peg.newline.run (round text) = none) :
    FailsAt loop text place ↔
      FailsAt instruction (skipped text) place ∨ round text ≠ [] ∧ place = round text := by
  have stuck : (Grammar.seq (.silent .skip) endedLine).peg.run text = none :=
    (run_line .newline text).trans unended
  have reached : endedLines.peg.run text = some text := Peg.run_star_of_none stuck
  rw [loop, failsAt_seq_of_some reached, endedLines, failsAt_star_of_none stuck,
    failsAt_silent_seq (run_skip text), failsAt_silent_seq (run_skip text), failsAt_endedLine,
    failsAt_lastLine, ← or_assoc, or_self]

-- The first line is begun before the others are, and read again if it does not end.
theorem failsAt_firstLine :
    FailsAt (.seq (spacedStar endedLine) (.seq (.silent .skip) lastLine)) (skipped text) place ↔
      FailsAt loop text place := by
  have line : endedLine.peg.run (skipped text) = Peg.newline.run (round text) :=
    run_endedLine_skipped text
  have taken : (spacedStar endedLine).peg.run (skipped text) =
      some (((endedLine.peg.run (skipped text)).bind endedLines.peg.run).getD (skipped text)) :=
    Peg.run_optional
  rw [line] at taken
  cases ended : Peg.newline.run (round text) with
  | none =>
      rw [ended] at line taken
      rw [Option.bind_none, Option.getD_none] at taken
      rw [failsAt_seq_of_some taken, spacedStar, failsAt_optional_iff, failsAt_seq_of_none line,
        failsAt_endedLine, failsAt_silent_seq (run_skip _), skipped_skipped, failsAt_lastLine,
        failsAt_loop_of_unended ended, ← or_assoc, or_self]
  | some rest =>
      rcases exists_run_endedLines rest with ⟨left, reached⟩
      rw [ended] at line taken
      rw [Option.bind_some, reached, Option.getD_some] at taken
      rw [failsAt_seq_of_some taken, spacedStar, failsAt_optional_iff, failsAt_seq_of_some line,
        failsAt_endedLine, failsAt_loop_of_ended ended, or_assoc, loop,
        failsAt_seq_of_some reached]
      rfl

/-- Besides the rules of the lines there is only the one of the whole. -/
theorem failsAt_program_iff :
    FailsAt program text place ↔
      FailsAt loop text place ∨ Peg.program.run text = none ∧ place = text := by
  rw [program, failsAt_rule_iff, spaced, failsAt_silent_seq rfl,
    failsAt_silent_seq (run_skip text), spaced, failsAt_firstLine]
  rfl

end Lines

end Grammar

end Source

end GateMachine
