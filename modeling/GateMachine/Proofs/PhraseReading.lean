import GateMachine.Proofs.LineGrammar

/-!
Reading one phrase agrees with the grammar of instruction texts. What
`Phrase.split` takes off the front of a text is an instruction text
(`instructionText_of_split`), and it takes off every instruction text that is
not followed by one more letter (`split_of_instructionText`). The phrase then
has the command that the grammar gives it.
-/

namespace GateMachine

namespace Source

section Runs

/-- The character after a run is not of the run's class. -/
def Stops (inRun : Char → Bool) (rest : List Char) : Prop :=
  ∀ c, rest.head? = some c → inRun c = false

variable {inRun : Char → Bool} {run rest : List Char}

theorem stops_nil : Stops inRun [] := by
  intro c first
  simp at first

theorem stops_cons {c : Char} (outside : inRun c = false) : Stops inRun (c :: rest) := by
  intro first same
  cases same
  exact outside

theorem takeWhile_of_stops (stops : Stops inRun rest) : rest.takeWhile inRun = [] := by
  cases rest with
  | nil => rfl
  | cons c rest => simp [stops c rfl]

theorem dropWhile_of_stops (stops : Stops inRun rest) : rest.dropWhile inRun = rest := by
  cases rest with
  | nil => rfl
  | cons c rest => simp [stops c rfl]

theorem takeWhile_run (inside : ∀ c ∈ run, inRun c = true) (stops : Stops inRun rest) :
    (run ++ rest).takeWhile inRun = run := by
  rw [List.takeWhile_append_of_pos inside, takeWhile_of_stops stops, List.append_nil]

theorem dropWhile_run (inside : ∀ c ∈ run, inRun c = true) (stops : Stops inRun rest) :
    (run ++ rest).dropWhile inRun = rest := by
  rw [List.dropWhile_append_of_pos inside, dropWhile_of_stops stops]

/-- A text parts in one way only into a run and what stops it. -/
theorem append_unique_of_stops {front tail : List Char} (inside : ∀ c ∈ run, inRun c = true)
    (stops : Stops inRun rest) (otherInside : ∀ c ∈ front, inRun c = true)
    (otherStops : Stops inRun tail) (same : run ++ rest = front ++ tail) :
    run = front ∧ rest = tail := by
  have taken := takeWhile_run inside stops
  have left := dropWhile_run inside stops
  rw [same, takeWhile_run otherInside otherStops] at taken
  rw [same, dropWhile_run otherInside otherStops] at left
  exact ⟨taken.symm, left.symm⟩

theorem of_mem_takeWhile {c : Char} (member : c ∈ rest.takeWhile inRun) : inRun c = true :=
  List.all_eq_true.mp List.all_takeWhile c member

theorem stops_dropWhile (inRun : Char → Bool) (text : List Char) :
    Stops inRun (text.dropWhile inRun) := by
  intro c first
  have outside := List.head?_dropWhile_not inRun text
  rw [first] at outside
  simpa using outside

theorem Stops.mono {wider : Char → Bool} (inside : ∀ c, inRun c = true → wider c = true)
    (stops : Stops wider rest) : Stops inRun rest := by
  intro c first
  cases here : inRun c with
  | false => rfl
  | true =>
      rw [← stops c first, inside c here]

end Runs

section Characters

theorem isBlank_iff {c : Char} : isBlank c = true ↔ c = ' ' ∨ c = '\t' := by
  simp [isBlank]

theorem blanks_iff {text : List Char} : Blanks text ↔ ∀ c ∈ text, isBlank c = true := by
  simp only [Blanks, isBlank_iff]

theorem not_isIdent_of_isBlank {c : Char} (blank : isBlank c = true) : isIdent c = false := by
  rcases isBlank_iff.mp blank with rfl | rfl <;> decide

theorem isIdent_of_isDigit {c : Char} (digit : c.isDigit = true) : isIdent c = true := by
  simp [isIdent, Char.isAlphanum, digit]

theorem not_isBlank_of_isIdent {c : Char} (ident : isIdent c = true) : isBlank c = false := by
  cases blank : isBlank c with
  | false => rfl
  | true => exact absurd ident (by simp [not_isIdent_of_isBlank blank])

end Characters

section Strings

theorem isPlain_iff {c : Char} :
    Quoted.isPlain c = true ↔ c ≠ '"' ∧ c ≠ '\\' ∧ c ≠ '\r' ∧ c ≠ '\n' := by
  simp [Quoted.isPlain, and_assoc]

theorem escape_listed_iff {letter c : Char} :
    (letter, c) ∈ [('"', '"'), ('\\', '\\'), ('n', '\n'), ('t', '\t')] ↔
      Quoted.isEscapable letter = true ∧ Quoted.unescapeChar letter = c := by
  constructor
  · intro listed
    simp only [List.mem_cons, Prod.mk.injEq, List.not_mem_nil, or_false] at listed
    rcases listed with ⟨rfl, rfl⟩ | ⟨rfl, rfl⟩ | ⟨rfl, rfl⟩ | ⟨rfl, rfl⟩ <;> decide
  · rintro ⟨escapable, rfl⟩
    simp only [Quoted.isEscapable, Bool.or_eq_true, beq_iff_eq] at escapable
    rcases escapable with ((rfl | rfl) | rfl) | rfl <;> decide

-- A body is taken whole and nothing more, if what follows is no part of a body.
theorem splitBody_of_stringBody {body text : List Char} (written : StringBody body text)
    {after : List Char} (ends : Quoted.splitBody after = ([], after)) :
    Quoted.splitBody (body ++ after) = (body, after) := by
  induction written with
  | nil => exact ends
  | @plain c body text allowed rest ih =>
      simp [Quoted.splitBody, allowed.2.1, isPlain_iff.mpr allowed, ih]
  | escape listed rest ih =>
      simp [Quoted.splitBody, (escape_listed_iff.mp listed).1, ih]

theorem splitBody_quote (after : List Char) :
    Quoted.splitBody ('"' :: after) = ([], '"' :: after) := by
  simp [Quoted.splitBody, Quoted.isPlain]

theorem stringBody_splitBody (source : List Char) :
    StringBody (Quoted.splitBody source).1 (Quoted.value (Quoted.splitBody source).1) := by
  fun_induction Quoted.splitBody source with
  | case1 => exact .nil
  | case2 c rest escapable body after split ih =>
      rw [split] at ih
      exact .escape (escape_listed_iff.mpr ⟨escapable, rfl⟩) ih
  | case3 c rest notEscapable => exact .nil
  | case4 c rest notEscape plain body after split ih =>
      rw [split] at ih
      have allowed := isPlain_iff.mp plain
      rw [Quoted.value_cons allowed.2.1]
      exact .plain allowed ih
  | case5 c rest notEscape notPlain => exact .nil

theorem value_of_stringBody {body text : List Char} (written : StringBody body text) :
    Quoted.value body = text := by
  induction written with
  | nil => rfl
  | plain allowed rest ih => rw [Quoted.value_cons allowed.2.1, ih]
  | escape listed rest ih => simp [Quoted.value, (escape_listed_iff.mp listed).2, ih]

theorem split?_quote {body text : List Char} (written : StringBody body text)
    (after : List Char) :
    Quoted.split? ('"' :: body ++ '"' :: after) = some (body, after) := by
  simp [Quoted.split?, splitBody_of_stringBody written (splitBody_quote after)]

theorem stringBody_of_split? {source body after : List Char}
    (found : Quoted.split? source = some (body, after)) :
    StringBody body (Quoted.value body) := by
  unfold Quoted.split? at found
  split at found
  · next rest =>
      have written := stringBody_splitBody rest
      split at found
      · next body' after' splits =>
          cases found
          rw [splits] at written
          exact written
      · contradiction
  · contradiction

end Strings

section Commands

theorem numeral_eq_ofDigitChars (digits : List Char) :
    Nat.ofDigitChars 10 digits 0 = numeral digits :=
  Nat.ofDigitChars_eq_foldl

namespace Command

@[simp] theorem means_plain_iff {first second : Instruction Line} :
    (plain first).Means second ↔ first = second := by
  constructor
  · rintro ⟨⟩
    rfl
  · rintro rfl
    exact .plain first

@[simp] theorem means_word_iff {make : Word → Instruction Line} {number : Nat}
    {instruction : Instruction Line} :
    (word make number).Means instruction ↔
      ∃ word, word.value = number ∧ make word = instruction := by
  constructor
  · rintro ⟨⟩
    exact ⟨_, ‹_›, rfl⟩
  · rintro ⟨word, value, rfl⟩
    exact .word make value

@[simp] theorem means_line_iff {make : Line → Instruction Line} {number : Nat}
    {instruction : Instruction Line} :
    (line make number).Means instruction ↔
      ∃ line, line.number.toNat = number ∧ make line = instruction := by
  constructor
  · rintro ⟨⟩
    exact ⟨_, ‹_›, rfl⟩
  · rintro ⟨line, value, rfl⟩
    exact .line make value

theorem exists_value_iff {number : Nat} : (∃ word : Word, word.value = number) ↔ number ≤ 15 := by
  constructor
  · rintro ⟨word, rfl⟩
    exact Nat.le_of_lt_succ word.value_lt
  · intro small
    have fits : number < 16 := Nat.lt_succ_of_le small
    have read : ∃ word, Word.ofNat? number = some word := by simp [Word.ofNat?, fits]
    obtain ⟨word, read⟩ := read
    exact ⟨word, Word.value_of_ofNat? read⟩

theorem exists_number_iff {number : Nat} :
    (∃ line : Line, line.number.toNat = number) ↔ number < UInt64.size := by
  constructor
  · rintro ⟨line, rfl⟩
    exact line.number.toNat_lt
  · intro small
    exact ⟨⟨UInt64.ofNat number⟩, UInt64.toNat_ofNat_of_lt' small⟩

theorem fits_iff_means {command : Command} :
    command.Fits ↔ ∃ instruction, command.Means instruction := by
  cases command with
  | plain instruction => simp [Fits]
  | word make number =>
      rw [Fits, ← exists_value_iff]
      constructor
      · rintro ⟨word, value⟩
        exact ⟨make word, .word make value⟩
      · rintro ⟨_, means⟩
        obtain ⟨word, value, _⟩ := means_word_iff.mp means
        exact ⟨word, value⟩
  | line make number =>
      rw [Fits, ← exists_number_iff]
      constructor
      · rintro ⟨line, value⟩
        exact ⟨make line, .line make value⟩
      · rintro ⟨_, means⟩
        obtain ⟨line, value, _⟩ := means_line_iff.mp means
        exact ⟨line, value⟩

end Command

namespace Phrase

def wordCommand (make : Word → Instruction Line) (operand : List Char) : Command :=
  if operand = ['t', 'r', 'u', 'e'] then .plain (make .one)
  else if operand = ['f', 'a', 'l', 's', 'e'] then .plain (make .zero)
  else .word make (numeral operand)

/-- The command of a phrase, whatever its operand looks like. -/
def command (phrase : Phrase) : Command :=
  match form phrase.opcode with
  | .bare instruction => .plain instruction
  | .word make => wordCommand make phrase.operand
  | .line make => .line make (numeral phrase.operand)
  | .text make => .plain (make (textValue phrase.operand))

theorem ofNat?_eq_some_iff {number : Nat} {word : Word} :
    Word.ofNat? number = some word ↔ word.value = number := by
  constructor
  · exact Word.value_of_ofNat?
  · rintro rfl
    exact Word.ofNat?_value word

theorem lineValue?_eq_some_iff {digits : List Char} {line : Line} :
    lineValue? digits = some line ↔ line.number.toNat = numeral digits := by
  simp only [lineValue?, numeral_eq_ofDigitChars]
  constructor
  · intro read
    split at read
    · next small =>
        cases read
        exact UInt64.toNat_ofNat_of_lt' small
    · contradiction
  · intro same
    have small : numeral digits < UInt64.size := same ▸ line.number.toNat_lt
    rw [if_pos small, ← same]
    simp

theorem wordCommand_means_iff {make : Word → Instruction Line} {operand : List Char}
    {instruction : Instruction Line} :
    (wordCommand make operand).Means instruction ↔
      ∃ word, wordValue? operand = some word ∧ make word = instruction := by
  simp only [wordCommand, wordValue?, numeral_eq_ofDigitChars]
  split
  · simp
  · split
    · simp
    · simp only [Command.means_word_iff, ofNat?_eq_some_iff]

-- A phrase has an instruction exactly when its command means one, and then that one.
theorem instruction_eq_ok_iff {phrase : Phrase} {instruction : Instruction Line} :
    phrase.instruction = .ok instruction ↔ phrase.command.Means instruction := by
  unfold Phrase.instruction command
  cases form phrase.opcode with
  | bare only => simp
  | text make => simp
  | line make =>
      simp only [Command.means_line_iff, ← lineValue?_eq_some_iff]
      cases lineValue? phrase.operand <;> simp
  | word make =>
      simp only [wordCommand_means_iff]
      cases wordValue? phrase.operand <;> simp

end Phrase

end Commands

section Tables

theorem bare_listed_iff {name : String} {instruction : Instruction Line} :
    (name, instruction) ∈ bareInstructions ↔
      ∃ opcode, opcode.mnemonic = name ∧ form opcode = .bare instruction := by
  constructor
  · intro listed
    simp only [bareInstructions, List.mem_cons, Prod.mk.injEq, List.not_mem_nil, or_false] at listed
    rcases listed with ⟨rfl, rfl⟩ | ⟨rfl, rfl⟩ | ⟨rfl, rfl⟩ | ⟨rfl, rfl⟩ | ⟨rfl, rfl⟩ | ⟨rfl, rfl⟩
    · exact ⟨.pop, rfl, rfl⟩
    · exact ⟨.dup, rfl, rfl⟩
    · exact ⟨.peek, rfl, rfl⟩
    · exact ⟨.inc, rfl, rfl⟩
    · exact ⟨.printHead, rfl, rfl⟩
    · exact ⟨.stop, rfl, rfl⟩
  · rintro ⟨opcode, rfl, table⟩
    cases opcode <;> cases table <;> simp [bareInstructions, Opcode.mnemonic]

theorem word_listed_iff {name : String} {make : Word → Instruction Line} :
    (name, make) ∈ wordInstructions ↔
      ∃ opcode, opcode.mnemonic = name ∧ form opcode = .word make := by
  constructor
  · intro listed
    simp only [wordInstructions, List.mem_cons, Prod.mk.injEq, List.not_mem_nil, or_false] at listed
    rcases listed with ⟨rfl, rfl⟩ | ⟨rfl, rfl⟩ | ⟨rfl, rfl⟩ | ⟨rfl, rfl⟩
    · exact ⟨.push, rfl, rfl⟩
    · exact ⟨.replace, rfl, rfl⟩
    · exact ⟨.mod, rfl, rfl⟩
    · exact ⟨.eq, rfl, rfl⟩
  · rintro ⟨opcode, rfl, table⟩
    cases opcode <;> cases table <;> simp [wordInstructions, Opcode.mnemonic]

theorem line_listed_iff {name : String} {make : Line → Instruction Line} :
    (name, make) ∈ lineInstructions ↔
      ∃ opcode, opcode.mnemonic = name ∧ form opcode = .line make := by
  constructor
  · intro listed
    simp only [lineInstructions, List.mem_cons, Prod.mk.injEq, List.not_mem_nil, or_false] at listed
    rcases listed with ⟨rfl, rfl⟩ | ⟨rfl, rfl⟩
    · exact ⟨.jump, rfl, rfl⟩
    · exact ⟨.ifNZero, rfl, rfl⟩
  · rintro ⟨opcode, rfl, table⟩
    cases opcode <;> cases table <;> simp [lineInstructions, Opcode.mnemonic]

theorem eq_print_of_form_text {opcode : Opcode} {make : String → Instruction Line}
    (table : form opcode = .text make) : opcode = .print ∧ make = .print := by
  cases opcode <;> cases table
  exact ⟨rfl, rfl⟩

-- Only what a line is asked for jumps, and only what a text is asked for prints.
theorem inert_of_form_bare {opcode : Opcode} {instruction : Instruction Line}
    (table : form opcode = .bare instruction) :
    instruction.target? = none ∧ ∀ text, instruction ≠ .print text := by
  cases opcode <;> cases table <;> exact ⟨rfl, nofun⟩

theorem inert_of_form_word {opcode : Opcode} {make : Word → Instruction Line}
    (table : form opcode = .word make) (word : Word) :
    (make word).target? = none ∧ ∀ text, make word ≠ .print text := by
  cases opcode <;> cases table <;> exact ⟨rfl, nofun⟩

theorem target?_of_form_line {opcode : Opcode} {make : Line → Instruction Line}
    (table : form opcode = .line make) (line : Line) : (make line).target? = some line := by
  cases opcode <;> cases table <;> rfl

theorem isIdent_of_mem_mnemonic {opcode : Opcode} {c : Char}
    (letter : c ∈ opcode.mnemonic.toList) : isIdent c = true := by
  have all : opcode.mnemonic.toList.all isIdent = true := by cases opcode <;> decide
  exact List.all_eq_true.mp all c letter

theorem opcode?_mnemonic (opcode : Opcode) : opcode? opcode.mnemonic.toList = some opcode := by
  cases opcode <;> decide

end Tables

section Operands

theorem isDigits_iff {text : List Char} : OperandKind.isDigits text = true ↔ Digits text := by
  simp [OperandKind.isDigits, Digits]

theorem isWord_iff {text : List Char} :
    OperandKind.isWord text = true ↔
      Digits text ∨ text = ['t', 'r', 'u', 'e'] ∨ text = ['f', 'a', 'l', 's', 'e'] := by
  simp [OperandKind.isWord, isDigits_iff, or_assoc]

theorem wordCommand_of_digits {digits : List Char} (number : Digits digits)
    (make : Word → Instruction Line) :
    Phrase.wordCommand make digits = .word make (numeral digits) := by
  -- No letter of either spelling is a digit.
  have notTrue : digits ≠ ['t', 'r', 'u', 'e'] := by
    rintro rfl
    exact absurd (number.2 't' (by simp)) (by decide)
  have notFalse : digits ≠ ['f', 'a', 'l', 's', 'e'] := by
    rintro rfl
    exact absurd (number.2 'f' (by simp)) (by decide)
  rw [Phrase.wordCommand, if_neg notTrue, if_neg notFalse]

theorem textValue_quote (body : List Char) :
    Phrase.textValue ('"' :: body ++ ['"']) = String.ofList (Quoted.value body) := by
  simp [Phrase.textValue]

variable {opcode : Opcode} {gap : List Char}

theorem instructionText_of_isWord {make : Word → Instruction Line} {operand : List Char}
    (table : form opcode = .word make) (apart : Gap gap)
    (word : OperandKind.isWord operand = true) :
    InstructionText (opcode.mnemonic.toList ++ gap ++ operand)
      (Phrase.wordCommand make operand) := by
  have listed := word_listed_iff.mpr ⟨opcode, rfl, table⟩
  rcases isWord_iff.mp word with number | rfl | rfl
  · rw [wordCommand_of_digits number]
    exact .number listed apart number
  · have spelled : ("true", Word.one) ∈ [("true", Word.one), ("false", Word.zero)] := by simp
    exact .boolean listed apart spelled
  · have spelled : ("false", Word.zero) ∈ [("true", Word.one), ("false", Word.zero)] := by simp
    exact .boolean listed apart spelled

theorem isIdent_of_mem_digits {digits : List Char} (number : Digits digits) :
    ∀ c ∈ digits, isIdent c = true :=
  fun c member => isIdent_of_isDigit (number.2 c member)

theorem isIdent_of_mem_word {operand : List Char} (word : OperandKind.isWord operand = true) :
    ∀ c ∈ operand, isIdent c = true := by
  rcases isWord_iff.mp word with number | rfl | rfl
  · exact isIdent_of_mem_digits number
  · exact List.all_eq_true.mp (by decide)
  · exact List.all_eq_true.mp (by decide)

theorem split?_word {operand after : List Char} (word : OperandKind.isWord operand = true)
    (stops : Stops isIdent after) :
    OperandKind.word.split? (operand ++ after) = some (operand, after) := by
  have idents := isIdent_of_mem_word word
  simp only [OperandKind.split?, takeWhile_run idents stops, dropWhile_run idents stops, word,
    if_true]

theorem split?_line {digits after : List Char} (number : Digits digits)
    (stops : Stops isIdent after) :
    OperandKind.line.split? (digits ++ after) = some (digits, after) := by
  have idents := isIdent_of_mem_digits number
  simp only [OperandKind.split?, takeWhile_run idents stops, dropWhile_run idents stops,
    isDigits_iff.mpr number, if_true]

theorem split?_quoted {body text : List Char} (written : StringBody body text)
    (after : List Char) :
    OperandKind.quoted.split? ('"' :: body ++ ['"'] ++ after) =
      some ('"' :: body ++ ['"'], after) := by
  have quoted := split?_quote written after
  simp only [List.append_assoc, List.singleton_append, OperandKind.split?, quoted]

-- Only the first character matters, and it is a letter or a digit.
theorem stops_isBlank_of_idents {operand : List Char} (nonempty : operand ≠ [])
    (idents : ∀ c ∈ operand, isIdent c = true) (after : List Char) :
    Stops isBlank (operand ++ after) := by
  cases operand with
  | nil => exact absurd rfl nonempty
  | cons c rest => exact stops_cons (not_isBlank_of_isIdent (idents c (by simp)))

end Operands

section Phrases

theorem instructionText_of_split? {opcode : Opcode} {kind : OperandKind}
    {gap source operand after : List Char} (wanted : (form opcode).operand? = some kind)
    (apart : Gap gap) (found : kind.split? source = some (operand, after)) :
    InstructionText (Phrase.chars ⟨opcode, gap, operand⟩)
      (Phrase.command ⟨opcode, gap, operand⟩) := by
  cases table : form opcode with
  | bare instruction => simp [table, Form.operand?] at wanted
  | word make =>
      simp only [table, Form.operand?, Option.some.injEq] at wanted
      subst wanted
      simp only [OperandKind.split?] at found
      split at found
      · next word =>
          cases found
          simpa [Phrase.chars, Phrase.head, Phrase.command, table] using
            instructionText_of_isWord table apart word
      · contradiction
  | line make =>
      simp only [table, Form.operand?, Option.some.injEq] at wanted
      subst wanted
      simp only [OperandKind.split?] at found
      split at found
      · next digits =>
          cases found
          have listed := line_listed_iff.mpr ⟨opcode, rfl, table⟩
          simpa [Phrase.chars, Phrase.head, Phrase.command, table] using
            InstructionText.target listed apart (isDigits_iff.mp digits)
      · contradiction
  | text make =>
      simp only [table, Form.operand?, Option.some.injEq] at wanted
      subst wanted
      obtain ⟨rfl, rfl⟩ := eq_print_of_form_text table
      simp only [OperandKind.split?] at found
      split at found
      · next body rest quoted =>
          cases found
          have text := InstructionText.print apart (stringBody_of_split? quoted)
          rw [← textValue_quote] at text
          exact text
      · contradiction

-- Everything that splitting a phrase off can come to.
theorem split_cases {source after : List Char} {phrase : Phrase}
    (found : Phrase.split source = .ok (phrase, after)) :
    opcode? (source.takeWhile isIdent) = some phrase.opcode ∧
      ((form phrase.opcode).operand? = none ∧ phrase = ⟨phrase.opcode, [], []⟩ ∧
          after = source.dropWhile isIdent ∨
        ∃ kind, (form phrase.opcode).operand? = some kind ∧
          phrase.gap = (source.dropWhile isIdent).takeWhile isBlank ∧ Gap phrase.gap ∧
          kind.split? ((source.dropWhile isIdent).dropWhile isBlank) =
            some (phrase.operand, after)) := by
  simp only [Phrase.split] at found
  split at found
  · contradiction
  · next opcode named =>
      split at found
      · next bare =>
          cases found
          exact ⟨named, .inl ⟨bare, rfl, rfl⟩⟩
      · next kind wanted =>
          split at found
          · contradiction
          · next nonempty =>
              split at found
              · next operand rest operandFound =>
                  cases found
                  have apart : Gap ((source.dropWhile isIdent).takeWhile isBlank) :=
                    ⟨by simpa using nonempty, blanks_iff.mpr fun c => of_mem_takeWhile⟩
                  exact ⟨named, .inr ⟨kind, wanted, rfl, apart, operandFound⟩⟩
              · contradiction

theorem instructionText_of_bare {opcode : Opcode} (bare : (form opcode).operand? = none) :
    InstructionText (Phrase.chars ⟨opcode, [], []⟩) (Phrase.command ⟨opcode, [], []⟩) := by
  cases table : form opcode with
  | bare instruction =>
      have listed := bare_listed_iff.mpr ⟨opcode, rfl, table⟩
      simpa [Phrase.chars, Phrase.head, Phrase.command, table] using InstructionText.bare listed
  | word make | line make | text make => simp [table, Form.operand?] at bare

/-- What is split off as a phrase is an instruction text with the phrase's command. -/
theorem instructionText_of_split {source after : List Char} {phrase : Phrase}
    (found : Phrase.split source = .ok (phrase, after)) :
    InstructionText phrase.chars phrase.command := by
  obtain ⟨_, ⟨bare, only, _⟩ | ⟨kind, wanted, _, apart, operandFound⟩⟩ := split_cases found
  · rw [only]
    exact instructionText_of_bare bare
  · exact instructionText_of_split? wanted apart operandFound

theorem split_bare {opcode : Opcode} (bare : (form opcode).operand? = none) {after : List Char}
    (stops : Stops isIdent after) :
    Phrase.split (opcode.mnemonic.toList ++ after) = .ok (⟨opcode, [], []⟩, after) := by
  have letters : ∀ c ∈ opcode.mnemonic.toList, isIdent c = true :=
    fun c letter => isIdent_of_mem_mnemonic letter
  simp only [Phrase.split, takeWhile_run letters stops, dropWhile_run letters stops,
    opcode?_mnemonic, bare]

-- The blanks end the mnemonic, and whatever is no blank ends the blanks.
theorem split_mnemonic {opcode : Opcode} {kind : OperandKind}
    (wanted : (form opcode).operand? = some kind) {gap rest : List Char} (apart : Gap gap)
    (starts : Stops isBlank rest) :
    Phrase.split (opcode.mnemonic.toList ++ gap ++ rest) =
      (kind.split? rest).elim (.error (.operand (opcode.mnemonic.toList ++ gap) kind))
        fun found => .ok (⟨opcode, gap, found.1⟩, found.2) := by
  have letters : ∀ c ∈ opcode.mnemonic.toList, isIdent c = true :=
    fun c letter => isIdent_of_mem_mnemonic letter
  have blanks := blanks_iff.mp apart.2
  have stops : Stops isIdent (gap ++ rest) := by
    intro c first
    cases gap with
    | nil => exact absurd rfl apart.1
    | cons blank gap =>
        cases first
        exact not_isIdent_of_isBlank (blanks c (by simp))
  have nonempty : gap.isEmpty = false := by simpa using apart.1
  simp only [Phrase.split, List.append_assoc, takeWhile_run letters stops,
    dropWhile_run letters stops, opcode?_mnemonic, wanted, takeWhile_run blanks starts,
    dropWhile_run blanks starts, nonempty, Bool.false_eq_true, if_false]
  cases kind.split? rest with
  | none => rfl
  | some found => rfl

theorem split_operand {opcode : Opcode} {kind : OperandKind}
    (wanted : (form opcode).operand? = some kind) {gap operand after : List Char}
    (apart : Gap gap) (starts : Stops isBlank (operand ++ after))
    (found : kind.split? (operand ++ after) = some (operand, after)) :
    Phrase.split (opcode.mnemonic.toList ++ gap ++ operand ++ after) =
      .ok (⟨opcode, gap, operand⟩, after) := by
  rw [List.append_assoc _ operand after, split_mnemonic wanted apart starts, found]
  rfl

-- A word operand has one reader whether it is a number or a truth value.
theorem split_of_isWord {opcode : Opcode} {make : Word → Instruction Line}
    {gap operand after : List Char} (table : form opcode = .word make) (apart : Gap gap)
    (word : OperandKind.isWord operand = true) (nonempty : operand ≠ [])
    (stops : Stops isIdent after) :
    Phrase.split (opcode.mnemonic.toList ++ gap ++ operand ++ after) =
      .ok (⟨opcode, gap, operand⟩, after) := by
  have wanted : (form opcode).operand? = some .word := by rw [table]; rfl
  have starts := stops_isBlank_of_idents nonempty (isIdent_of_mem_word word) after
  exact split_operand wanted apart starts (split?_word word stops)

/-- Every instruction text that no letter follows is split off, with its command. -/
theorem split_of_instructionText {text after : List Char} {command : Command}
    (written : InstructionText text command) (stops : Stops isIdent after) :
    ∃ phrase, Phrase.split (text ++ after) = .ok (phrase, after) ∧
      phrase.chars = text ∧ phrase.command = command := by
  cases written with
  | bare listed =>
      obtain ⟨opcode, rfl, table⟩ := bare_listed_iff.mp listed
      have bare : (form opcode).operand? = none := by rw [table]; rfl
      refine ⟨⟨opcode, [], []⟩, split_bare bare stops, ?_, ?_⟩
      · simp [Phrase.chars, Phrase.head]
      · simp [Phrase.command, table]
  | @number _ _ gap digits listed apart number =>
      obtain ⟨opcode, rfl, table⟩ := word_listed_iff.mp listed
      have word := isWord_iff.mpr (.inl number)
      refine ⟨⟨opcode, gap, digits⟩, split_of_isWord table apart word number.1 stops, rfl, ?_⟩
      simp [Phrase.command, table, wordCommand_of_digits number]
  | @boolean _ spelling _ _ gap listed apart spelled =>
      obtain ⟨opcode, rfl, table⟩ := word_listed_iff.mp listed
      simp only [List.mem_cons, Prod.mk.injEq, List.not_mem_nil, or_false] at spelled
      rcases spelled with ⟨rfl, rfl⟩ | ⟨rfl, rfl⟩
      · refine ⟨⟨opcode, gap, "true".toList⟩,
          split_of_isWord table apart (by decide) (by decide) stops, rfl, ?_⟩
        simp [Phrase.command, table, Phrase.wordCommand]
      · refine ⟨⟨opcode, gap, "false".toList⟩,
          split_of_isWord table apart (by decide) (by decide) stops, rfl, ?_⟩
        simp [Phrase.command, table, Phrase.wordCommand]
  | @target _ _ gap digits listed apart number =>
      obtain ⟨opcode, rfl, table⟩ := line_listed_iff.mp listed
      have wanted : (form opcode).operand? = some .line := by rw [table]; rfl
      have starts := stops_isBlank_of_idents number.1 (isIdent_of_mem_digits number) after
      refine ⟨⟨opcode, gap, digits⟩,
        split_operand wanted apart starts (split?_line number stops), rfl, ?_⟩
      simp [Phrase.command, table]
  | @print gap body text apart body_written =>
      have starts : Stops isBlank ('"' :: body ++ ['"'] ++ after) := stops_cons (by decide)
      have wanted : (form .print).operand? = some .quoted := rfl
      refine ⟨⟨.print, gap, '"' :: body ++ ['"']⟩,
        split_operand wanted apart starts (split?_quoted body_written after), rfl, ?_⟩
      have value := textValue_quote body
      rw [value_of_stringBody body_written] at value
      simp only [Phrase.command, form, value]

end Phrases

end Source

end GateMachine
