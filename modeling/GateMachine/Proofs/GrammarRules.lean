import GateMachine.Proofs.ParsingExpressions
import GateMachine.Proofs.PhraseReading
import GateMachine.Source.Lines

/-!
The grammar of source texts, rule by rule. Inside an instruction nothing is
skipped; between the parts of a program blanks and comments are. The rules are
written to be tried in their order and look ahead where a mnemonic or a number
must not run on, yet each takes exactly what the readers of phrases take
(`run_word_iff`, `run_quoted_iff`, `run_instruction_iff`).
-/

namespace GateMachine

namespace Source

namespace Peg

section Rules

def newline : Peg := choices [literal "\n", literal "\r\n", literal "\r"]

def whiteSpace : Peg := .choice (literal " ") (literal "\t")

def comment : Peg := .seq (literal "//") (.star (.seq (.not newline) any))

def identChar : Peg := .choice (.char Char.isAlphanum) (literal "_")

def separator : Peg := plus whiteSpace

def word : Peg :=
  .seq (choices [plus (.char Char.isDigit), literal "true", literal "false"]) (.not identChar)

def line : Peg := .seq (plus (.char Char.isDigit)) (.not identChar)

def escape : Peg :=
  .seq (literal "\\") (choices [literal "\"", literal "\\", literal "n", literal "t"])

def textChar : Peg :=
  .choice (.seq (.not (choices [literal "\"", literal "\\", newline])) any) escape

def quoted : Peg := .seq (literal "\"") (.seq (.star textChar) (literal "\""))

def bare (name : String) : Peg := .seq (literal name) (.not identChar)

def withOperand (name : String) (operand : Peg) : Peg :=
  .seq (literal name) (.seq separator operand)

def operation : Opcode → Peg
  | .push => withOperand "push" word
  | .pop => bare "pop"
  | .dup => bare "dup"
  | .peek => bare "peek"
  | .replace => withOperand "replace" word
  | .inc => bare "inc"
  | .mod => withOperand "mod" word
  | .eq => withOperand "eq" word
  | .jump => withOperand "jump" line
  | .ifNZero => withOperand "ifNZero" line
  | .printHead => bare "printHead"
  | .print => withOperand "print" quoted
  | .stop => bare "stop"

def instruction : Peg :=
  choices ([.push, .pop, .dup, .peek, .replace, .inc, .mod, .eq, .jump, .ifNZero, .printHead,
    .print, .stop].map operation)

def skip : Peg := .seq (.star whiteSpace) (.star (.seq comment (.star whiteSpace)))

/-- One after the other, with blanks and comments skipped between them. -/
def spaced (first second : Peg) : Peg := .seq first (.seq skip second)

def spacedStar (item : Peg) : Peg := optional (.seq item (.star (.seq skip item)))

def endedLine : Peg := spaced (optional instruction) newline

def lastLine : Peg := spaced (optional instruction) .endOfInput

/-- A whole text: lines that end, and a last one. -/
def program : Peg := spaced .empty (spaced (spacedStar endedLine) lastLine)

end Rules

section Characters

variable {holds : Char → Bool} {item : Peg} {text rest : List Char}

theorem run_char_eq_none_iff : (char holds).run text = none ↔ Stops holds text := by
  cases text with
  | nil => exact ⟨fun _ => stops_nil, fun _ => rfl⟩
  | cons c others =>
      constructor
      · intro stuck
        exact stops_cons (by simpa [run] using stuck)
      · intro stops
        simp [run, stops c rfl]

theorem run_star_char (single : ∀ text, item.run text = (char holds).run text) (text : List Char) :
    (star item).run text = some (text.dropWhile holds) := by
  induction text with
  | nil => exact run_star_of_none (single [])
  | cons c others ih =>
      have here := single (c :: others)
      by_cases held : holds c = true
      · rw [run, if_pos held] at here
        rw [run_star_of_some here (Nat.lt_succ_self _), ih, List.dropWhile_cons_of_pos held]
      · rw [run, if_neg held] at here
        rw [run_star_of_none here, List.dropWhile_cons_of_neg held]

theorem run_whiteSpace (text : List Char) : whiteSpace.run text = (char isBlank).run text := by
  cases text with
  | nil => rfl
  | cons c others =>
      by_cases space : c = ' '
      · subst space
        rfl
      · by_cases tab : c = '\t'
        · subst tab
          rfl
        · simp [whiteSpace, literal, run, isBlank, space, tab]

theorem run_identChar (text : List Char) : identChar.run text = (char isIdent).run text := by
  cases text with
  | nil => rfl
  | cons c others =>
      by_cases letter : c.isAlphanum = true
      · simp [identChar, run, isIdent, letter]
      · by_cases underscore : c = '_'
        · simp [identChar, literal, run, isIdent, underscore]
        · simp [identChar, literal, run, isIdent, letter, underscore]

theorem run_newline_feed (text : List Char) : newline.run ('\n' :: text) = some text := rfl

theorem run_newline_returnFeed (text : List Char) :
    newline.run ('\r' :: '\n' :: text) = some text := rfl

theorem run_newline_loneReturn (alone : text.head? ≠ some '\n') :
    newline.run ('\r' :: text) = some text := by
  cases text with
  | nil => rfl
  | cons c others =>
      have notFeed : c ≠ '\n' := fun same => alone (by rw [same]; rfl)
      simp [newline, choices, literal, run, notFeed]

theorem run_newline_of_stops (stops : Stops endsLine text) : newline.run text = none := by
  cases text with
  | nil => rfl
  | cons c others =>
      have outside := stops c rfl
      simp only [endsLine, Bool.or_eq_false_iff, beq_eq_false_iff_ne] at outside
      simp [newline, choices, literal, run, outside.1, outside.2]

theorem run_newline_eq_none_iff : newline.run text = none ↔ Stops endsLine text := by
  constructor
  · intro stuck c first
    obtain ⟨others, rfl⟩ := List.head?_eq_some_iff.mp first
    cases ends : endsLine c with
    | false => rfl
    | true =>
        simp only [endsLine, Bool.or_eq_true, beq_iff_eq] at ends
        rcases ends with rfl | rfl
        · rw [run_newline_feed] at stuck
          contradiction
        · by_cases alone : others.head? = some '\n'
          · obtain ⟨more, rfl⟩ := List.head?_eq_some_iff.mp alone
            rw [run_newline_returnFeed] at stuck
            contradiction
          · rw [run_newline_loneReturn alone] at stuck
            contradiction
  · exact run_newline_of_stops

-- Any character but those that begin what is excluded.
theorem run_except (excludes : ∀ c others, item.run (c :: others) = none ↔ holds c = true)
    (text : List Char) : (seq (not item) any).run text = (char holds).run text := by
  cases text with
  | nil =>
      rw [run, run, run]
      split <;> rfl
  | cons c others =>
      by_cases held : holds c = true
      · have stuck := (excludes c others).mpr held
        simp [run, any, stuck, held]
      · have taken : item.run (c :: others) ≠ none := by
          intro stuck
          exact held ((excludes c others).mp stuck)
        simp [run, held, Option.isSome_iff_ne_none.mpr taken]

theorem run_noteChar (text : List Char) :
    (seq (not newline) any).run text = (char fun c => !endsLine c).run text := by
  refine run_except ?_ text
  intro c others
  rw [run_newline_eq_none_iff, Bool.not_eq_true']
  exact ⟨fun stops => stops c rfl, stops_cons⟩

end Characters

section Operands

variable {text rest : List Char}

theorem run_not_identChar_iff :
    (not identChar).run text = some rest ↔ Stops isIdent text ∧ text = rest := by
  rw [run_not_iff, run_identChar, run_char_eq_none_iff]

theorem run_plus_iff {item : Peg} {holds : Char → Bool}
    (single : ∀ text, item.run text = (char holds).run text) :
    (plus item).run text = some rest ↔
      ∃ taken, taken ≠ [] ∧ (∀ c ∈ taken, holds c = true) ∧ Stops holds rest ∧
        text = taken ++ rest := by
  rw [plus, run_seq_iff]
  constructor
  · rintro ⟨between, here, later⟩
    rw [single] at here
    obtain ⟨c, held, rfl⟩ := run_char_iff.mp here
    rw [run_star_char single, Option.some_inj] at later
    subst later
    refine ⟨c :: between.takeWhile holds, by simp, ?_, stops_dropWhile holds between, ?_⟩
    · rw [List.forall_mem_cons]
      exact ⟨held, fun d member => of_mem_takeWhile member⟩
    · rw [List.cons_append, List.takeWhile_append_dropWhile]
  · rintro ⟨taken, nonempty, inside, stops, rfl⟩
    obtain ⟨c, others, rfl⟩ := List.exists_cons_of_ne_nil nonempty
    rw [List.forall_mem_cons] at inside
    refine ⟨others ++ rest, ?_, ?_⟩
    · rw [single]
      exact run_char_iff.mpr ⟨c, inside.1, rfl⟩
    · rw [run_star_char single, dropWhile_run inside.2 stops]

theorem run_digits_iff (stops : Stops isIdent rest) :
    (plus (char Char.isDigit)).run text = some rest ↔
      ∃ digits, Digits digits ∧ text = digits ++ rest := by
  rw [run_plus_iff fun _ => rfl]
  constructor
  · rintro ⟨digits, nonempty, inside, _, same⟩
    exact ⟨digits, ⟨nonempty, inside⟩, same⟩
  · rintro ⟨digits, number, same⟩
    exact ⟨digits, number.1, number.2, stops.mono fun _ => isIdent_of_isDigit, same⟩

theorem run_spellings_iff (stops : Stops isIdent rest) :
    (choices [plus (char Char.isDigit), literal "true", literal "false"]).run text = some rest ↔
      ∃ operand, OperandKind.isWord operand = true ∧ text = operand ++ rest := by
  rw [run_choices]
  constructor
  · intro found
    obtain ⟨item, listed, taken⟩ := List.exists_of_findSome?_eq_some found
    simp only [List.mem_cons, List.not_mem_nil, or_false] at listed
    rcases listed with rfl | rfl | rfl
    · obtain ⟨digits, number, same⟩ := (run_digits_iff stops).mp taken
      exact ⟨digits, isWord_iff.mpr (.inl number), same⟩
    · exact ⟨"true".toList, by decide, run_literal_iff.mp taken⟩
    · exact ⟨"false".toList, by decide, run_literal_iff.mp taken⟩
  · rintro ⟨operand, spelled, rfl⟩
    rcases isWord_iff.mp spelled with number | rfl | rfl
    · have taken := (run_digits_iff stops).mpr ⟨operand, number, rfl⟩
      rw [List.findSome?_cons, taken]
    · rfl
    · rfl

-- A number or a spelling is what stands up to the first character that is no letter.
theorem run_ident_iff {item : Peg} {spells : List Char → Bool}
    (idents : ∀ operand, spells operand = true → ∀ c ∈ operand, isIdent c = true)
    (reads : ∀ text rest, Stops isIdent rest → (item.run text = some rest ↔
      ∃ operand, spells operand = true ∧ text = operand ++ rest)) :
    (seq item (not identChar)).run text = some rest ↔
      spells (text.takeWhile isIdent) = true ∧ text.dropWhile isIdent = rest := by
  rw [run_seq_iff]
  constructor
  · rintro ⟨between, taken, ends⟩
    obtain ⟨stops, rfl⟩ := run_not_identChar_iff.mp ends
    obtain ⟨operand, spelled, rfl⟩ := (reads text between stops).mp taken
    have inside := idents operand spelled
    rw [takeWhile_run inside stops, dropWhile_run inside stops]
    exact ⟨spelled, rfl⟩
  · rintro ⟨spelled, rfl⟩
    have stops := stops_dropWhile isIdent text
    refine ⟨text.dropWhile isIdent, (reads text _ stops).mpr ⟨_, spelled, ?_⟩, ?_⟩
    · rw [List.takeWhile_append_dropWhile]
    · exact run_not_identChar_iff.mpr ⟨stops, rfl⟩

theorem run_word_iff :
    word.run text = some rest ↔ ∃ operand, OperandKind.word.split? text = some (operand, rest) := by
  rw [word, run_ident_iff (fun _ => isIdent_of_mem_word) fun _ _ => run_spellings_iff]
  simp [OperandKind.split?]

theorem run_line_iff :
    line.run text = some rest ↔ ∃ operand, OperandKind.line.split? text = some (operand, rest) := by
  have digits (text rest : List Char) (stops : Stops isIdent rest) :
      (plus (char Char.isDigit)).run text = some rest ↔
        ∃ operand, OperandKind.isDigits operand = true ∧ text = operand ++ rest := by
    simp only [isDigits_iff]
    exact run_digits_iff stops
  rw [line, run_ident_iff (fun _ spelled => isIdent_of_mem_digits (isDigits_iff.mp spelled)) digits]
  simp [OperandKind.split?]

theorem run_plainChar (text : List Char) :
    (seq (not (choices [literal "\"", literal "\\", newline])) any).run text =
      (char Quoted.isPlain).run text := by
  refine run_except ?_ text
  intro c others
  have ends : newline.run (c :: others) = none ↔ c ≠ '\n' ∧ c ≠ '\r' := by
    rw [run_newline_eq_none_iff]
    constructor
    · intro stops
      simpa [endsLine] using stops c rfl
    · intro outside
      exact stops_cons (by simp [endsLine, outside])
  rw [isPlain_iff, run_choices, List.findSome?_eq_none_iff]
  simp [ends, literal, run, and_comm]

theorem run_escape (c : Char) (rest : List Char) :
    escape.run ('\\' :: c :: rest) = (char Quoted.isEscapable).run (c :: rest) := by
  cases escapable : Quoted.isEscapable c with
  | true =>
      have listed := escapable
      simp only [Quoted.isEscapable, Bool.or_eq_true, beq_iff_eq] at listed
      rcases listed with ((rfl | rfl) | rfl) | rfl <;> rfl
  | false =>
      have other := escapable
      simp only [Quoted.isEscapable, Bool.or_eq_false_iff, beq_eq_false_iff_ne] at other
      obtain ⟨⟨⟨notQuote, notBackslash⟩, notN⟩, notT⟩ := other
      simp [escape, choices, literal, run, notQuote, notBackslash, notN, notT, escapable]

theorem run_textChar_of_plain {c : Char} (plain : Quoted.isPlain c = true) (rest : List Char) :
    textChar.run (c :: rest) = some rest := by
  rw [textChar, run_choice, run_plainChar, run_char_cons, if_pos plain, Option.some_or]

theorem run_textChar_escape (c : Char) (rest : List Char) :
    textChar.run ('\\' :: c :: rest) = (char Quoted.isEscapable).run (c :: rest) := by
  have notPlain : ¬ Quoted.isPlain '\\' = true := by decide
  rw [textChar, run_choice, run_plainChar, run_escape, run_char_cons, if_neg notPlain,
    Option.none_or]

theorem run_textChar_of_end {c : Char}
    (alone : ∀ d others, c = '\\' → rest = d :: others → False)
    (notPlain : ¬ Quoted.isPlain c = true) : textChar.run (c :: rest) = none := by
  rw [textChar, run_choice, run_plainChar, run_char_cons, if_neg notPlain, Option.none_or]
  by_cases backslash : c = '\\'
  · cases rest with
    | nil => subst backslash; rfl
    | cons d others => exact (alone d others backslash rfl).elim
  · simp [escape, literal, run, backslash]

theorem run_star_textChar (text : List Char) :
    (star textChar).run text = some (Quoted.splitBody text).2 := by
  fun_induction Quoted.splitBody text with
  | case1 => exact run_star_of_none rfl
  | case2 c rest escapable body after split ih =>
      have taken : textChar.run ('\\' :: c :: rest) = some rest := by
        rw [run_textChar_escape, run_char_cons, if_pos escapable]
      rw [split] at ih
      rw [run_star_of_some taken (by simp only [List.length_cons]; omega)]
      exact ih
  | case3 c rest other =>
      have stuck : textChar.run ('\\' :: c :: rest) = none := by
        rw [run_textChar_escape, run_char_cons, if_neg other]
      exact run_star_of_none stuck
  | case4 c rest _ plain body after split ih =>
      rw [split] at ih
      rw [run_star_of_some (run_textChar_of_plain plain rest) (Nat.lt_succ_self _)]
      exact ih
  | case5 c rest alone notPlain => exact run_star_of_none (run_textChar_of_end alone notPlain)

theorem run_quotation_iff :
    quoted.run text = some rest ↔ ∃ body, Quoted.split? text = some (body, rest) := by
  rw [quoted, run_seq_iff]
  constructor
  · rintro ⟨inside, opens, closes⟩
    have opened : text = '"' :: inside := run_literal_iff.mp opens
    obtain ⟨between, taken, ends⟩ := run_seq_iff.mp closes
    have closed : between = '"' :: rest := run_literal_iff.mp ends
    subst opened closed
    rcases splits : Quoted.splitBody inside with ⟨body, after⟩
    rw [run_star_textChar, splits, Option.some_inj] at taken
    cases taken
    exact ⟨body, by simp [Quoted.split?, splits]⟩
  · rintro ⟨body, found⟩
    have written := stringBody_of_split? found
    have splits := splitBody_of_stringBody written (splitBody_quote rest)
    have whole := Quoted.split?_append found
    refine ⟨body ++ '"' :: rest, run_literal_iff.mpr whole.symm, run_seq_iff.mpr ?_⟩
    refine ⟨'"' :: rest, ?_, run_literal_iff.mpr rfl⟩
    rw [run_star_textChar, splits]

theorem run_quoted_iff :
    quoted.run text = some rest ↔
      ∃ operand, OperandKind.quoted.split? text = some (operand, rest) := by
  rw [run_quotation_iff]
  cases found : Quoted.split? text with
  | none => simp [OperandKind.split?, found]
  | some quotation => simp [OperandKind.split?, found, Prod.ext_iff]

end Operands

section Instructions

variable {text rest : List Char} {opcode : Opcode}

def operandRule : OperandKind → Peg
  | .word => word
  | .line => line
  | .quoted => quoted

theorem run_operandRule_iff {kind : OperandKind} :
    (operandRule kind).run text = some rest ↔
      ∃ operand, kind.split? text = some (operand, rest) := by
  cases kind with
  | word => exact run_word_iff
  | line => exact run_line_iff
  | quoted => exact run_quoted_iff

theorem operation_of_bare (bareForm : (form opcode).operand? = none) :
    operation opcode = bare opcode.mnemonic := by
  cases opcode with
  | pop | dup | peek | inc | printHead | stop => rfl
  | _ => contradiction

theorem operation_of_operand {kind : OperandKind} (wanted : (form opcode).operand? = some kind) :
    operation opcode = withOperand opcode.mnemonic (operandRule kind) := by
  cases opcode with
  | pop | dup | peek | inc | printHead | stop => contradiction
  | _ =>
      cases wanted
      rfl

theorem run_bare_iff (bareForm : (form opcode).operand? = none) :
    (bare opcode.mnemonic).run text = some rest ↔
      ∃ phrase, phrase.opcode = opcode ∧ Phrase.split text = .ok (phrase, rest) := by
  rw [bare, run_seq_iff]
  constructor
  · rintro ⟨between, named, ends⟩
    obtain ⟨stops, rfl⟩ := run_not_identChar_iff.mp ends
    cases run_literal_iff.mp named
    exact ⟨⟨opcode, [], []⟩, rfl, split_bare bareForm stops⟩
  · rintro ⟨phrase, rfl, found⟩
    obtain ⟨named, ⟨_, _, rfl⟩ | ⟨kind, wanted, _⟩⟩ := split_cases found
    · refine ⟨text.dropWhile isIdent, run_literal_iff.mpr ?_, ?_⟩
      · rw [mnemonic_of_opcode? named, List.takeWhile_append_dropWhile]
      · exact run_not_identChar_iff.mpr ⟨stops_dropWhile isIdent text, rfl⟩
    · rw [bareForm] at wanted
      contradiction

theorem run_withOperand_iff {kind : OperandKind} (wanted : (form opcode).operand? = some kind) :
    (withOperand opcode.mnemonic (operandRule kind)).run text = some rest ↔
      ∃ phrase, phrase.opcode = opcode ∧ Phrase.split text = .ok (phrase, rest) := by
  rw [withOperand, run_seq_iff]
  constructor
  · rintro ⟨between, named, parted⟩
    obtain ⟨after, gapTaken, operandTaken⟩ := run_seq_iff.mp parted
    obtain ⟨gap, nonempty, blanks, stops, rfl⟩ := (run_plus_iff run_whiteSpace).mp gapTaken
    obtain ⟨taken, found⟩ := run_operandRule_iff.mp operandTaken
    refine ⟨⟨opcode, gap, taken⟩, rfl, ?_⟩
    rw [run_literal_iff.mp named, ← List.append_assoc,
      split_mnemonic wanted ⟨nonempty, blanks_iff.mpr blanks⟩ stops, found]
    rfl
  · rintro ⟨phrase, rfl, found⟩
    obtain ⟨named, ⟨bareForm, _⟩ | ⟨other, again, gapTaken, apart, taken⟩⟩ := split_cases found
    · rw [wanted] at bareForm
      contradiction
    · rw [wanted] at again
      cases again
      refine ⟨text.dropWhile isIdent, run_literal_iff.mpr ?_, run_seq_iff.mpr ?_⟩
      · rw [mnemonic_of_opcode? named, List.takeWhile_append_dropWhile]
      · refine ⟨_, (run_plus_iff run_whiteSpace).mpr ?_, run_operandRule_iff.mpr ⟨_, taken⟩⟩
        refine ⟨phrase.gap, apart.1, blanks_iff.mp apart.2, stops_dropWhile isBlank _, ?_⟩
        rw [gapTaken, List.takeWhile_append_dropWhile]

theorem run_operation_iff :
    (operation opcode).run text = some rest ↔
      ∃ phrase, phrase.opcode = opcode ∧ Phrase.split text = .ok (phrase, rest) := by
  cases wanted : (form opcode).operand? with
  | none =>
      rw [operation_of_bare wanted]
      exact run_bare_iff wanted
  | some kind =>
      rw [operation_of_operand wanted]
      exact run_withOperand_iff wanted

-- No text begins with two operations, so their order is of no account.
theorem run_instruction_iff :
    instruction.run text = some rest ↔ ∃ phrase, Phrase.split text = .ok (phrase, rest) := by
  have sound {left : List Char} (found : instruction.run text = some left) :
      ∃ phrase, Phrase.split text = .ok (phrase, left) := by
    rw [instruction, run_choices] at found
    obtain ⟨item, listed, taken⟩ := List.exists_of_findSome?_eq_some found
    obtain ⟨opcode, _, rfl⟩ := List.mem_map.mp listed
    obtain ⟨phrase, _, splits⟩ := run_operation_iff.mp taken
    exact ⟨phrase, splits⟩
  constructor
  · exact sound
  · rintro ⟨phrase, splits⟩
    cases found : instruction.run text with
    | none =>
        have taken := run_operation_iff.mpr ⟨phrase, rfl, splits⟩
        rw [instruction, run_choices, List.findSome?_eq_none_iff] at found
        have stuck := found (operation phrase.opcode)
          (List.mem_map_of_mem (by cases phrase.opcode <;> simp))
        rw [taken] at stuck
        contradiction
    | some left =>
        obtain ⟨other, again⟩ := sound found
        rw [splits] at again
        cases again
        rfl

end Instructions

end Peg

end Source

end GateMachine
