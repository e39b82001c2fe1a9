import GateMachine.Proofs.SourceReading

/-!
Instructions written out, one a line, and read again. Numbers are read back
from their digits and texts from their escapes. The one character that has
neither an escape nor a place inside quotes is the carriage return: a program
comes back exactly when none of its texts holds one
(`displayed_parses_back_iff`).
-/

namespace GateMachine

namespace Source

/-- A program as it is displayed, without a line end after the last instruction. -/
def displayed (instructions : List (Instruction Line)) : String :=
  "\n".intercalate (instructions.map fun instruction => instruction.text Line.text)

section Numbers

theorem digits_toString (number : Nat) : Digits (toString number).toList := by
  rw [Nat.toString_eq_ofList_toDigits, String.toList_ofList]
  refine ⟨Nat.toDigits_ne_nil, ?_⟩
  intro c digit
  exact Nat.isDigit_of_mem_toDigits (by decide) (by decide) digit

theorem numeral_toString (number : Nat) : numeral (toString number).toList = number := by
  rw [← numeral_eq_ofDigitChars, Nat.toString_eq_ofList_toDigits, String.toList_ofList]
  exact Nat.ofDigitChars_ten_toDigits

end Numbers

section Texts

theorem stringBody_escapeChar {c : Char} (noReturn : c ≠ '\r') {body text : List Char}
    (rest : StringBody body text) : StringBody (Quoted.escapeChar c ++ body) (c :: text) := by
  unfold Quoted.escapeChar
  split
  · exact .escape (by decide) rest
  · exact .escape (by decide) rest
  · exact .escape (by decide) rest
  · exact .escape (by decide) rest
  · next notQuote notBackslash notFeed notTab =>
      exact .plain ⟨notQuote, notBackslash, noReturn, notFeed⟩ rest

theorem stringBody_escape {text : List Char} (noReturn : '\r' ∉ text) :
    StringBody (Quoted.escape text) text := by
  induction text with
  | nil => exact .nil
  | cons c rest ih =>
      have here : c ≠ '\r' := fun same => noReturn (by simp [same])
      have later : '\r' ∉ rest := fun member => noReturn (by simp [member])
      exact stringBody_escapeChar here (ih later)

end Texts

section Instructions

theorem gap_space : Gap [' '] := by
  refine ⟨by decide, ?_⟩
  intro c member
  exact .inl (List.mem_singleton.mp member)

theorem instructionText_bare {instruction : Instruction Line}
    (bare : form instruction.opcode = .bare instruction) :
    InstructionText instruction.opcode.mnemonic.toList (.plain instruction) :=
  .bare (bare_listed_iff.mpr ⟨instruction.opcode, rfl, bare⟩)

theorem instructionText_word {name : String} {make : Word → Instruction Line}
    (listed : (name, make) ∈ wordInstructions) (word : Word) :
    InstructionText (name ++ " " ++ word.decimal).toList (.word make word.value) := by
  have text := InstructionText.number listed gap_space (digits_toString word.value)
  rw [numeral_toString] at text
  simpa [Word.decimal] using text

theorem instructionText_line {name : String} {make : Line → Instruction Line}
    (listed : (name, make) ∈ lineInstructions) (line : Line) :
    InstructionText (name ++ " " ++ line.text).toList (.line make line.number.toNat) := by
  have text := InstructionText.target listed gap_space (digits_toString line.number.toNat)
  rw [numeral_toString] at text
  simpa [Line.text] using text

theorem instructionText_print {text : String} (noReturn : '\r' ∉ text.toList) :
    InstructionText ("print" ++ " " ++ Quoted.quote text).toList (.plain (.print text)) := by
  have written := InstructionText.print gap_space (stringBody_escape noReturn)
  rw [String.ofList_toList] at written
  simpa [Quoted.quote] using written

-- Each instruction is written as one instruction text, and that text means it.
theorem instructionText_of_displayed (instruction : Instruction Line)
    (noReturn : ∀ text, instruction = .print text → '\r' ∉ text.toList) :
    ∃ command, InstructionText (instruction.text Line.text).toList command ∧
      command.Means instruction := by
  cases instruction with
  | push word | replace word | mod word | eq word =>
      exact ⟨_, instructionText_word (word_listed_iff.mpr ⟨_, rfl, rfl⟩) word, .word _ rfl⟩
  | jump line | ifNZero line =>
      exact ⟨_, instructionText_line (line_listed_iff.mpr ⟨_, rfl, rfl⟩) line, .line _ rfl⟩
  | print text => exact ⟨_, instructionText_print (noReturn text rfl), .plain _⟩
  | pop | dup | peek | inc | stop | printHead =>
      refine ⟨_, ?_, .plain _⟩
      exact instructionText_bare rfl

end Instructions

section Joining

variable {instructions : List (Instruction Line)}

theorem displayed_singleton (instruction : Instruction Line) :
    (displayed [instruction]).toList = (instruction.text Line.text).toList := by
  simp [displayed]

theorem displayed_cons_cons (first second : Instruction Line) (rest : List (Instruction Line)) :
    (displayed (first :: second :: rest)).toList =
      (first.text Line.text).toList ++ '\n' :: (displayed (second :: rest)).toList := by
  simp [displayed]

theorem blanks_nil : Blanks [] := by simp [Blanks]

theorem lineText_of_instructionText {text : List Char} {command : Command}
    (written : InstructionText text command) : LineText text (some command) := by
  simpa using LineText.instruction blanks_nil written blanks_nil .absent

theorem denotes_displayed
    (noReturn : ∀ text, .print text ∈ instructions → '\r' ∉ text.toList) :
    Denotes (instructions.map fun instruction => (instruction.text Line.text).toList)
      instructions := by
  induction instructions with
  | nil => exact .nil
  | cons first rest ih =>
      obtain ⟨command, written, means⟩ := instructionText_of_displayed first fun text same =>
        noReturn text (by simp [same])
      have later := ih fun text member => noReturn text (by simp [member])
      exact .instruction (lineText_of_instructionText written) means later

theorem lineSplit_displayed (some : instructions ≠ [])
    (noReturn : ∀ text, .print text ∈ instructions → '\r' ∉ text.toList) :
    LineSplit (displayed instructions).toList
      (instructions.map fun instruction => (instruction.text Line.text).toList) := by
  induction instructions with
  | nil => exact absurd rfl some
  | cons first rest ih =>
      obtain ⟨command, written, _⟩ := instructionText_of_displayed first fun text same =>
        noReturn text (by simp [same])
      have whole := unbroken_of_instructionText written
      cases rest with
      | nil =>
          rw [displayed_singleton]
          exact .last whole
      | cons second others =>
          have later := ih (by simp) fun text member =>
            noReturn text (List.mem_cons_of_mem first member)
          rw [displayed_cons_cons]
          exact .feed whole later

theorem parses_of_noReturn
    (noReturn : ∀ text, .print text ∈ instructions → '\r' ∉ text.toList) :
    ∃ read, parse (displayed instructions) = .ok read ∧
      read.map Statement.instruction = instructions := by
  rw [parses_iff_denotes]
  by_cases some : instructions = []
  · -- Nothing at all is displayed as one empty line.
    subst some
    exact .empty (.empty blanks_nil .absent) .nil
  · rw [← lineSplit_iff_lines.mp (lineSplit_displayed some noReturn)]
    exact denotes_displayed noReturn

end Joining

section Returns

variable {text : List Char}

theorem lines_return (text : List Char) :
    ∃ ending rest, lines ('\r' :: text) = ⟨[], ending⟩ :: rest := by
  by_cases alone : text.head? = some '\n'
  · obtain ⟨rest, rfl⟩ := List.head?_eq_some_iff.mp alone
    exact ⟨.returnFeed, lines rest, lines_returnFeed rest⟩
  · exact ⟨.return, lines text, lines_loneReturn alone⟩

-- What stands before a line feed is split without looking past it.
theorem lines_append_feed (before after : List Char) :
    ∃ earlier, earlier ≠ [] ∧ lines (before ++ '\n' :: after) = earlier ++ lines after := by
  fun_induction lines before with
  | case1 => exact ⟨[⟨[], .feed⟩], by simp, by simp [lines]⟩
  | case2 rest ih =>
      obtain ⟨earlier, _, splits⟩ := ih
      exact ⟨⟨[], .feed⟩ :: earlier, by simp, by simp [lines, splits]⟩
  | case3 rest ih =>
      obtain ⟨earlier, _, splits⟩ := ih
      exact ⟨⟨[], .returnFeed⟩ :: earlier, by simp, by simp [lines, splits]⟩
  | case4 rest notFeed ih =>
      cases rest with
      -- A return at the very end joins the feed after it.
      | nil => exact ⟨[⟨[], .returnFeed⟩], by simp, by simp [lines]⟩
      | cons c rest =>
          obtain ⟨earlier, _, splits⟩ := ih
          refine ⟨⟨[], .return⟩ :: earlier, by simp, ?_⟩
          rw [List.cons_append, List.cons_append, List.cons_append, ← splits, lines]
          · rfl
          · intro others same
            cases same
            exact notFeed rest rfl
  | case5 c rest notFeed _ notReturn ih =>
      obtain ⟨earlier, some, splits⟩ := ih
      refine ⟨consFirst c earlier, consFirst_ne_nil some, ?_⟩
      rw [List.cons_append, lines_cons notFeed notReturn, splits]
      cases earlier with
      | nil => exact absurd rfl some
      | cons first others => rfl

/-- A displayed text up to its closing quote. -/
def opened (text : List Char) : List Char := "print".toList ++ [' '] ++ '"' :: Quoted.escape text

theorem opened_eq (text : List Char) :
    opened text = "print".toList ++ [' '] ++ '"' :: Quoted.escape text := rfl

theorem text_print (text : String) :
    ((Instruction.print text).text Line.text).toList = opened text.toList ++ ['"'] := by
  have written : (Instruction.print text).text Line.text =
      "print" ++ " " ++ Quoted.quote text := rfl
  simp [written, opened_eq, Quoted.quote]

theorem opened_append (before after : List Char) :
    opened (before ++ after) = opened before ++ Quoted.escape after := by
  simp [opened_eq, Quoted.escape]

theorem unbroken_opened (noReturn : '\r' ∉ text) : Unbroken (opened text) := by
  have quotation := unbroken_of_stringBody (stringBody_escape noReturn)
  rw [opened_eq, unbroken_append, unbroken_append]
  exact ⟨⟨unbroken_mnemonic .print, unbroken_of_blanks gap_space.2⟩,
    unbroken_cons.mpr ⟨by decide, quotation⟩⟩

theorem split_opened (noReturn : '\r' ∉ text) :
    Phrase.split (opened text) = .error (.operand ("print".toList ++ [' ']) .quoted) := by
  have starts : Stops isBlank ('"' :: Quoted.escape text) := stops_cons (by decide)
  have ends : Quoted.splitBody [] = ([], []) := rfl
  have body := splitBody_of_stringBody (stringBody_escape noReturn) ends
  rw [List.append_nil] at body
  have unclosed : OperandKind.quoted.split? ('"' :: Quoted.escape text) = none := by
    simp only [OperandKind.split?, Quoted.split?, body]
  have wanted : (form .print).operand? = some .quoted := rfl
  have splits := split_mnemonic wanted gap_space starts
  rw [unclosed] at splits
  exact splits

theorem not_wellFormed_opened (noReturn : '\r' ∉ text) : ¬ WellFormed (opened text) := by
  rintro ⟨command, form⟩
  obtain ⟨read, found, _⟩ := read_of_lineText form
  have starts : Stops isBlank (opened text) := stops_cons (by decide)
  have more : LineForm.ending? (opened text) = none := ending?_of_ident (by decide) _
  simp only [LineForm.read, takeWhile_of_stops starts, dropWhile_of_stops starts, more,
    split_opened noReturn] at found
  contradiction

-- The first return in a text cuts its quotation at the end of a line.
theorem malformed_of_return (returns : '\r' ∈ text) (after : List Char) :
    ∃ line ∈ lines (opened text ++ after), ¬ WellFormed line.body := by
  obtain ⟨before, rest, rfl, noReturn⟩ := List.eq_append_cons_of_mem returns
  have raw : Quoted.escape ('\r' :: rest) = '\r' :: Quoted.escape rest := rfl
  obtain ⟨ending, others, splits⟩ := lines_return (Quoted.escape rest ++ after)
  rw [opened_append, raw, List.append_assoc, List.cons_append,
    lines_append (unbroken_opened noReturn) splits, List.append_nil]
  exact ⟨_, List.mem_cons_self, not_wellFormed_opened noReturn⟩

theorem malformed_of_displayed {instructions : List (Instruction Line)} {text : String}
    (printed : .print text ∈ instructions) (returns : '\r' ∈ text.toList) :
    ∃ line ∈ lines (displayed instructions).toList, ¬ WellFormed line.body := by
  induction instructions with
  | nil => simp at printed
  | cons first rest ih =>
      cases rest with
      | nil =>
          cases List.mem_singleton.mp printed
          rw [displayed_singleton, text_print]
          exact malformed_of_return returns _
      | cons second others =>
          rw [displayed_cons_cons]
          rcases List.mem_cons.mp printed with rfl | later
          · -- Whatever follows the instruction, its own line is cut short.
            rw [text_print, List.append_assoc]
            exact malformed_of_return returns _
          · obtain ⟨line, present, malformed⟩ := ih later
            obtain ⟨earlier, _, splits⟩ := lines_append_feed (first.text Line.text).toList
              (displayed (second :: others)).toList
            rw [splits]
            exact ⟨line, List.mem_append_right earlier present, malformed⟩

theorem noReturn_of_parses {instructions : List (Instruction Line)} {read : List Statement}
    (parsed : parse (displayed instructions) = .ok read) :
    ∀ text, .print text ∈ instructions → '\r' ∉ text.toList := by
  intro text printed returns
  obtain ⟨line, present, malformed⟩ := malformed_of_displayed printed returns
  have denotes := parses_iff_denotes.mp ⟨read, parsed, rfl⟩
  have acceptable := denotes_iff_acceptable.mp ⟨_, denotes⟩ line.body (List.mem_map_of_mem present)
  exact malformed acceptable.1

/-- A displayed program is read back, and is then read back as it was, exactly when
none of its texts holds a carriage return. -/
theorem displayed_parses_back_iff (instructions : List (Instruction Line)) :
    ((∃ read, parse (displayed instructions) = .ok read ∧
        read.map Statement.instruction = instructions) ↔
      ∀ text, .print text ∈ instructions → '\r' ∉ text.toList) ∧
    ((∃ read, parse (displayed instructions) = .ok read) ↔
      ∀ text, .print text ∈ instructions → '\r' ∉ text.toList) := by
  constructor
  · constructor
    · rintro ⟨read, parsed, _⟩
      exact noReturn_of_parses parsed
    · exact parses_of_noReturn
  · constructor
    · rintro ⟨read, parsed⟩
      exact noReturn_of_parses parsed
    · intro noReturn
      obtain ⟨read, parsed, _⟩ := parses_of_noReturn noReturn
      exact ⟨read, parsed⟩

theorem return_not_parsed_back :
    ¬ ∃ read, parse (displayed [.print "\r"]) = .ok read ∧
      read.map Statement.instruction = [.print "\r"] := by
  rintro ⟨read, parsed, _⟩
  exact noReturn_of_parses parsed "\r" (by simp) (by decide)

end Returns

end Source

end GateMachine
