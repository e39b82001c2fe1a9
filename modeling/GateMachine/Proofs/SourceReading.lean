import GateMachine.Proofs.PhraseReading
import GateMachine.Source.Statement

/-!
Reading a whole text agrees with the grammar of its lines. A line is read
exactly when it has the form of a line (`lineText_iff_read`), which also shows
that no line has two readings; the lines that are read are those the text is
split into (`lineSplit_iff_lines`). So a text is accepted exactly when each of
its lines has the form and each number fits (`parses_iff_acceptable`), and what
it gives are the instructions its lines denote (`parses_iff_denotes`).
-/

namespace GateMachine

namespace Source

section Splitting

variable {c : Char} {body text : List Char} {bodies : List (List Char)}

theorem unbroken_nil : Unbroken [] := by
  intro c member
  contradiction

theorem unbroken_cons : Unbroken (c :: text) ↔ (c ≠ '\n' ∧ c ≠ '\r') ∧ Unbroken text :=
  List.forall_mem_cons

theorem unbroken_append {first second : List Char} :
    Unbroken (first ++ second) ↔ Unbroken first ∧ Unbroken second :=
  List.forall_mem_append

theorem lines_cons (notFeed : c ≠ '\n') (notReturn : c ≠ '\r') (text : List Char) :
    lines (c :: text) = consFirst c (lines text) := by
  rw [lines]
  · exact notFeed
  · intro rest same
    exact absurd same notReturn
  · exact notReturn

theorem lines_append (whole : Unbroken body) {first : SourceLine} {rest : List SourceLine}
    (split : lines text = first :: rest) :
    lines (body ++ text) = { first with body := body ++ first.body } :: rest := by
  induction body with
  | nil => simpa using split
  | cons c body ih =>
      obtain ⟨⟨notFeed, notReturn⟩, later⟩ := unbroken_cons.mp whole
      rw [List.cons_append, lines_cons notFeed notReturn, ih later]
      rfl

theorem lines_feed (text : List Char) : lines ('\n' :: text) = ⟨[], .feed⟩ :: lines text := by
  rw [lines]

theorem lines_returnFeed (text : List Char) :
    lines ('\r' :: '\n' :: text) = ⟨[], .returnFeed⟩ :: lines text := by
  rw [lines]

theorem lines_loneReturn (alone : text.head? ≠ some '\n') :
    lines ('\r' :: text) = ⟨[], .return⟩ :: lines text := by
  rw [lines]
  intro rest same
  exact alone (by rw [same]; rfl)

theorem LineSplit.cons (here : c ≠ '\n' ∧ c ≠ '\r') (split : LineSplit text (body :: bodies)) :
    LineSplit (c :: text) ((c :: body) :: bodies) := by
  cases split with
  | last whole => exact .last (unbroken_cons.mpr ⟨here, whole⟩)
  | feed whole rest => exact .feed (unbroken_cons.mpr ⟨here, whole⟩) rest
  | returnFeed whole rest => exact .returnFeed (unbroken_cons.mpr ⟨here, whole⟩) rest
  | loneReturn whole alone rest => exact .loneReturn (unbroken_cons.mpr ⟨here, whole⟩) alone rest

theorem lineSplit_lines (text : List Char) : LineSplit text ((lines text).map SourceLine.body) := by
  fun_induction lines text with
  | case1 => exact .last unbroken_nil
  | case2 rest ih => exact .feed unbroken_nil ih
  | case3 rest ih => exact .returnFeed unbroken_nil ih
  | case4 rest notFeed ih =>
      refine .loneReturn unbroken_nil ?_ ih
      intro first
      cases rest with
      | nil => simp at first
      | cons d rest =>
          cases first
          exact notFeed rest rfl
  | case5 c rest notFeed _ notReturn ih =>
      cases split : lines rest with
      | nil => exact absurd split (lines_ne_nil rest)
      | cons first others =>
          rw [split] at ih
          exact ih.cons ⟨fun same => notFeed same, fun same => notReturn same⟩

theorem lines_last (whole : Unbroken body) : lines body = [⟨body, .endOfText⟩] := by
  have ends : lines [] = [⟨[], .endOfText⟩] := by rw [lines]
  have only := lines_append whole ends
  rw [List.append_nil] at only
  rw [only]

theorem lines_of_lineSplit (split : LineSplit text bodies) :
    (lines text).map SourceLine.body = bodies := by
  induction split with
  | @last body whole => simp [lines_last whole]
  | @feed body text bodies whole _ ih => simp [lines_append whole (lines_feed text), ih]
  | @returnFeed body text bodies whole _ ih =>
      simp [lines_append whole (lines_returnFeed text), ih]
  | @loneReturn body text bodies whole alone _ ih =>
      simp [lines_append whole (lines_loneReturn alone), ih]

theorem lineSplit_iff_lines :
    LineSplit text bodies ↔ bodies = (lines text).map SourceLine.body := by
  constructor
  · intro split
    exact (lines_of_lineSplit split).symm
  · rintro rfl
    exact lineSplit_lines text

end Splitting

section Unbroken

theorem unbroken_of_idents {text : List Char} (idents : ∀ c ∈ text, isIdent c = true) :
    Unbroken text := by
  intro c member
  have ident := idents c member
  constructor
  · rintro rfl
    exact absurd ident (by decide)
  · rintro rfl
    exact absurd ident (by decide)

theorem unbroken_mnemonic (opcode : Opcode) : Unbroken opcode.mnemonic.toList :=
  unbroken_of_idents fun _ letter => isIdent_of_mem_mnemonic letter

theorem unbroken_of_blanks {blanks : List Char} (blank : Blanks blanks) : Unbroken blanks := by
  intro c member
  rcases blank c member with rfl | rfl <;> decide

theorem unbroken_of_stringBody {body text : List Char} (written : StringBody body text) :
    Unbroken body := by
  induction written with
  | nil => exact unbroken_nil
  | plain allowed _ ih => exact unbroken_cons.mpr ⟨⟨allowed.2.2.2, allowed.2.2.1⟩, ih⟩
  | @escape letter _ _ _ listed _ ih =>
      have escapable := (escape_listed_iff.mp listed).1
      have here : letter ≠ '\n' ∧ letter ≠ '\r' := by
        constructor
        · rintro rfl
          exact absurd escapable (by decide)
        · rintro rfl
          exact absurd escapable (by decide)
      exact unbroken_cons.mpr ⟨by decide, unbroken_cons.mpr ⟨here, ih⟩⟩

-- An instruction text never reaches over the end of its line.
theorem unbroken_of_instructionText {text : List Char} {command : Command}
    (written : InstructionText text command) : Unbroken text := by
  cases written with
  | bare listed =>
      obtain ⟨opcode, rfl, _⟩ := bare_listed_iff.mp listed
      exact unbroken_mnemonic opcode
  | number listed apart number =>
      obtain ⟨opcode, rfl, _⟩ := word_listed_iff.mp listed
      rw [unbroken_append, unbroken_append]
      exact ⟨⟨unbroken_mnemonic opcode, unbroken_of_blanks apart.2⟩,
        unbroken_of_idents (isIdent_of_mem_digits number)⟩
  | @boolean _ spelling _ _ _ listed apart spelled =>
      obtain ⟨opcode, rfl, _⟩ := word_listed_iff.mp listed
      simp only [List.mem_cons, Prod.mk.injEq, List.not_mem_nil, or_false] at spelled
      have word : OperandKind.isWord spelling.toList = true := by
        rcases spelled with ⟨rfl, rfl⟩ | ⟨rfl, rfl⟩ <;> decide
      rw [unbroken_append, unbroken_append]
      exact ⟨⟨unbroken_mnemonic opcode, unbroken_of_blanks apart.2⟩,
        unbroken_of_idents (isIdent_of_mem_word word)⟩
  | target listed apart number =>
      obtain ⟨opcode, rfl, _⟩ := line_listed_iff.mp listed
      rw [unbroken_append, unbroken_append]
      exact ⟨⟨unbroken_mnemonic opcode, unbroken_of_blanks apart.2⟩,
        unbroken_of_idents (isIdent_of_mem_digits number)⟩
  | print apart body =>
      rw [unbroken_append, unbroken_append, unbroken_append, unbroken_cons, unbroken_cons]
      exact ⟨⟨unbroken_mnemonic .print, unbroken_of_blanks apart.2⟩,
        ⟨by decide, unbroken_of_stringBody body⟩, by decide, unbroken_nil⟩

end Unbroken

section Lines

variable {body : List Char}

theorem comment_commentChars (note : Option (List Char)) :
    Comment (LineForm.commentChars note) := by
  cases note with
  | none => exact .absent
  | some text => exact .note text

theorem ending?_of_comment {comment : List Char} (ending : Comment comment) :
    ∃ note, LineForm.ending? comment = some note := by
  cases ending with
  | absent => exact ⟨none, rfl⟩
  | note text => exact ⟨some text, rfl⟩

theorem stops_of_comment {inRun : Char → Bool} (outside : inRun '/' = false) {comment : List Char}
    (ending : Comment comment) : Stops inRun comment := by
  cases ending with
  | absent => exact stops_nil
  | note text => exact stops_cons outside

-- What follows an instruction text on its line is never one more letter.
theorem stops_isIdent_of_trail {trail comment : List Char} (blanks : Blanks trail)
    (ending : Comment comment) : Stops isIdent (trail ++ comment) := by
  cases trail with
  | nil => exact stops_of_comment (by decide) ending
  | cons blank trail =>
      exact stops_cons (not_isIdent_of_isBlank (blanks_iff.mp blanks blank (by simp)))

theorem Phrase.chars_eq_cons (phrase : Phrase) :
    ∃ c rest, phrase.chars = c :: rest ∧ isIdent c = true := by
  cases spelling : phrase.opcode.mnemonic.toList with
  | nil =>
      have some : phrase.opcode.mnemonic.toList ≠ [] := by cases phrase.opcode <;> decide
      exact absurd spelling some
  | cons c rest =>
      have letter : c ∈ phrase.opcode.mnemonic.toList := by simp [spelling]
      refine ⟨c, rest ++ phrase.gap ++ phrase.operand, ?_, isIdent_of_mem_mnemonic letter⟩
      simp [Phrase.chars, Phrase.head, spelling]

theorem ending?_of_ident {c : Char} (ident : isIdent c = true) (rest : List Char) :
    LineForm.ending? (c :: rest) = none := by
  have notSlash : c ≠ '/' := by
    rintro rfl
    exact absurd ident (by decide)
  simp [LineForm.ending?, notSlash]

theorem lineText_of_read {form : LineForm} (found : LineForm.read body = .ok form) :
    LineText body (form.phrase.map Phrase.command) := by
  have whole := LineForm.chars_of_read found
  have lead := blanks_iff.mpr fun c (member : c ∈ body.takeWhile isBlank) => of_mem_takeWhile member
  simp only [LineForm.read] at found
  split at found
  · next note ends =>
      cases found
      rw [← whole]
      simpa [LineForm.chars, LineForm.phraseChars] using
        LineText.empty lead (comment_commentChars note)
  · split at found
    · contradiction
    · contradiction
    · next phrase after splits =>
        split at found
        · next note ends =>
            cases found
            rw [← whole]
            have trail := blanks_iff.mpr fun c (member : c ∈ after.takeWhile isBlank) =>
              of_mem_takeWhile member
            exact .instruction lead (instructionText_of_split splits) trail
              (comment_commentChars note)
        · contradiction

theorem read_empty {lead comment : List Char} (before : Blanks lead) (ending : Comment comment) :
    ∃ note, LineForm.read (lead ++ comment) =
      .ok { lead, phrase := none, trail := [], comment := note } := by
  have blanks := blanks_iff.mp before
  have stops : Stops isBlank comment := stops_of_comment (by decide) ending
  obtain ⟨note, ends⟩ := ending?_of_comment ending
  refine ⟨note, ?_⟩
  simp only [LineForm.read, takeWhile_run blanks stops, dropWhile_run blanks stops, ends]

theorem read_phrase {lead trail comment : List Char} {phrase : Phrase} (before : Blanks lead)
    (splits : Phrase.split (phrase.chars ++ (trail ++ comment)) = .ok (phrase, trail ++ comment))
    (after : Blanks trail) (ending : Comment comment) :
    ∃ note, LineForm.read (lead ++ phrase.chars ++ trail ++ comment) =
      .ok { lead, phrase := some phrase, trail, comment := note } := by
  have blanks := blanks_iff.mp before
  have trailing := blanks_iff.mp after
  obtain ⟨note, ends⟩ := ending?_of_comment ending
  obtain ⟨c, rest, starts, ident⟩ := phrase.chars_eq_cons
  have stops : Stops isBlank (phrase.chars ++ (trail ++ comment)) := by
    rw [starts]
    exact stops_cons (not_isBlank_of_isIdent ident)
  have more : LineForm.ending? (phrase.chars ++ (trail ++ comment)) = none := by
    rw [starts]
    exact ending?_of_ident ident _
  have stopsAfter : Stops isBlank comment := stops_of_comment (by decide) ending
  refine ⟨note, ?_⟩
  simp only [LineForm.read, List.append_assoc, takeWhile_run blanks stops,
    dropWhile_run blanks stops, more, splits, takeWhile_run trailing stopsAfter,
    dropWhile_run trailing stopsAfter, ends]

theorem read_of_lineText {command : Option Command} (form : LineText body command) :
    ∃ read, LineForm.read body = .ok read ∧ read.phrase.map Phrase.command = command := by
  cases form with
  | empty before ending =>
      obtain ⟨note, read⟩ := read_empty before ending
      exact ⟨_, read, rfl⟩
  | instruction before written after ending =>
      obtain ⟨phrase, splits, spelled, means⟩ :=
        split_of_instructionText written (stops_isIdent_of_trail after ending)
      subst spelled
      obtain ⟨note, read⟩ := read_phrase before splits after ending
      exact ⟨_, read, by simp [means]⟩

theorem lineText_iff_read {command : Option Command} :
    LineText body command ↔
      ∃ form, LineForm.read body = .ok form ∧ form.phrase.map Phrase.command = command := by
  constructor
  · exact read_of_lineText
  · rintro ⟨form, found, rfl⟩
    exact lineText_of_read found

theorem lineText_unique {first second : Option Command} (one : LineText body first)
    (two : LineText body second) : first = second := by
  obtain ⟨form, found, rfl⟩ := lineText_iff_read.mp one
  obtain ⟨other, again, rfl⟩ := lineText_iff_read.mp two
  rw [found] at again
  cases again
  rfl

end Lines

section Texts

theorem instruction_of_statement {placed : Placed} {statement : Statement}
    (made : placed.statement = .ok statement) :
    placed.phrase.instruction = .ok statement.instruction := by
  unfold Placed.statement at made
  split at made
  · next instruction meaning =>
      cases made
      exact meaning
  · contradiction
  · contradiction

theorem statement_of_instruction {placed : Placed} {instruction : Instruction Line}
    (meaning : placed.phrase.instruction = .ok instruction) :
    ∃ statement, placed.statement = .ok statement ∧ statement.instruction = instruction := by
  refine ⟨{
    instruction
    span := placed.span
    operandSpan := (form placed.phrase.opcode).operand?.map fun _ => placed.operandSpan }, ?_, rfl⟩
  simp only [Placed.statement, meaning]

-- The induction is on the lines: each either adds nothing or one statement.
theorem denotes_of_statements {offset : Nat} {sourceLines : List SourceLine}
    {placed : List Placed} {read : List Statement}
    (found : placedFrom offset sourceLines = .ok placed) (made : statements placed = .ok read) :
    Denotes (sourceLines.map SourceLine.body) (read.map Statement.instruction) := by
  induction sourceLines generalizing offset placed read with
  | nil =>
      cases found
      cases made
      exact .nil
  | cons line rest ih =>
      simp only [placedFrom] at found
      split at found
      · contradiction
      · next form reads =>
          split at found
          · contradiction
          · next later placedLater =>
              have text := lineText_of_read reads
              split at found
              · next phrase present =>
                  cases found
                  rw [present] at text
                  simp only [statements] at made
                  split at made
                  · contradiction
                  · next statement first =>
                      split at made
                      · contradiction
                      · next others restMade =>
                          cases made
                          have means := Phrase.instruction_eq_ok_iff.mp
                            (instruction_of_statement first)
                          exact .instruction text means (ih placedLater restMade)
              · next absent =>
                  cases found
                  rw [absent] at text
                  exact .empty text (ih placedLater made)

theorem statements_of_denotes {sourceLines : List SourceLine}
    {instructions : List (Instruction Line)}
    (denotes : Denotes (sourceLines.map SourceLine.body) instructions) (offset : Nat) :
    ∃ placed read, placedFrom offset sourceLines = .ok placed ∧ statements placed = .ok read ∧
      read.map Statement.instruction = instructions := by
  induction sourceLines generalizing offset instructions with
  | nil =>
      cases denotes
      exact ⟨[], [], rfl, rfl, rfl⟩
  | cons line rest ih =>
      cases denotes with
      | empty text denotesRest =>
          obtain ⟨form, reads, absent⟩ := read_of_lineText text
          obtain ⟨placed, read, found, made, same⟩ :=
            ih denotesRest (offset + byteLength line.chars)
          refine ⟨placed, read, ?_, made, same⟩
          simp only [placedFrom, reads, found, Option.map_eq_none_iff.mp absent]
      | instruction text means denotesRest =>
          obtain ⟨form, reads, present⟩ := read_of_lineText text
          obtain ⟨phrase, here, rfl⟩ := Option.map_eq_some_iff.mp present
          obtain ⟨placed, read, found, made, same⟩ :=
            ih denotesRest (offset + byteLength line.chars)
          have meaning := Phrase.instruction_eq_ok_iff.mpr means
          obtain ⟨statement, first, rfl⟩ :=
            @statement_of_instruction ⟨offset + byteLength form.lead, phrase⟩ _ meaning
          refine ⟨⟨offset + byteLength form.lead, phrase⟩ :: placed, statement :: read, ?_, ?_, ?_⟩
          · simp only [placedFrom, reads, found, here]
          · simp only [statements, first, made]
          · simp [same]

theorem parse_eq_ok_iff {source : String} {read : List Statement} :
    parse source = .ok read ↔
      ∃ placed, placedFrom 0 (lines source.toList) = .ok placed ∧ statements placed = .ok read := by
  unfold parse
  cases placedFrom 0 (lines source.toList) with
  | error fault => simp
  | ok placed => simp

theorem parses_iff_denotes {source : String} {instructions : List (Instruction Line)} :
    (∃ read, parse source = .ok read ∧ read.map Statement.instruction = instructions) ↔
      Denotes ((lines source.toList).map SourceLine.body) instructions := by
  constructor
  · rintro ⟨read, parsed, rfl⟩
    obtain ⟨placed, found, made⟩ := parse_eq_ok_iff.mp parsed
    exact denotes_of_statements found made
  · intro denotes
    obtain ⟨placed, read, found, made, same⟩ := statements_of_denotes denotes 0
    exact ⟨read, parse_eq_ok_iff.mpr ⟨placed, found, made⟩, same⟩

/-- The line has the form of a line, and its number, if it has one, fits. -/
def Acceptable (body : List Char) : Prop :=
  WellFormed body ∧ ∀ command, LineText body (some command) → command.Fits

theorem denotes_iff_acceptable {bodies : List (List Char)} :
    (∃ instructions, Denotes bodies instructions) ↔ ∀ body ∈ bodies, Acceptable body := by
  induction bodies with
  | nil => exact ⟨fun _ _ member => absurd member (by simp), fun _ => ⟨[], .nil⟩⟩
  | cons body bodies ih =>
      rw [List.forall_mem_cons, ← ih]
      constructor
      · rintro ⟨instructions, denotes⟩
        cases denotes with
        | empty text rest =>
            refine ⟨⟨⟨none, text⟩, ?_⟩, ⟨_, rest⟩⟩
            intro command other
            cases lineText_unique text other
        | instruction text means rest =>
            refine ⟨⟨⟨_, text⟩, ?_⟩, ⟨_, rest⟩⟩
            intro command other
            cases lineText_unique text other
            exact Command.fits_iff_means.mpr ⟨_, means⟩
      · rintro ⟨⟨⟨command, text⟩, fits⟩, ⟨instructions, rest⟩⟩
        cases command with
        | none => exact ⟨instructions, .empty text rest⟩
        | some command =>
            obtain ⟨instruction, means⟩ := Command.fits_iff_means.mp (fits command text)
            exact ⟨instruction :: instructions, .instruction text means rest⟩

theorem parses_iff_acceptable {source : String} :
    (∃ read, parse source = .ok read) ↔
      ∀ body ∈ (lines source.toList).map SourceLine.body, Acceptable body := by
  rw [← denotes_iff_acceptable]
  constructor
  · rintro ⟨read, parsed⟩
    exact ⟨_, parses_iff_denotes.mp ⟨read, parsed, rfl⟩⟩
  · rintro ⟨instructions, denotes⟩
    obtain ⟨read, parsed, _⟩ := parses_iff_denotes.mpr denotes
    exact ⟨read, parsed⟩

end Texts

end Source

end GateMachine
