import GateMachine.Proofs.DisplayedPrograms
import GateMachine.Proofs.GrammarLines

/-!
Lines that depart from their form. Such a line has the form up to some place: `Departs`
says what was read before that place, and what is left there. What was read is then the
beginning of a line that has the form (`Departs.extends`), and there the reading of the
text ends (`placedFrom_departure`). Where a line departs does not depend on the text after
it: reading a phrase never looks past the end of the line (`split_tail`).
-/

namespace GateMachine

namespace Source

section Departures

variable {body part left : List Char}

/-- How a line departs from its form: the part that was read, and what is left instead of
an instruction, of an operand, or of the end of the line. -/
inductive Departs : List Char → List Char → Prop where
  | instruction {lead left : List Char} (blanks : Blanks lead) (starts : Stops isBlank left)
      (more : LineForm.ending? left = none) (refused : Phrase.split left = .error .mnemonic) :
      Departs lead left
  | operand {lead gap left : List Char} {opcode : Opcode} {kind : OperandKind}
      (blanks : Blanks lead) (wanted : (form opcode).operand? = some kind) (apart : Gap gap)
      (starts : Stops isBlank left) (missing : kind.split? left = none) :
      Departs (lead ++ (opcode.mnemonic.toList ++ gap)) left
  | lineEnd {lead trail left : List Char} {phrase : Phrase} (blanks : Blanks lead)
      (splits : Phrase.split (phrase.chars ++ (trail ++ left)) = .ok (phrase, trail ++ left))
      (trailing : Blanks trail) (starts : Stops isBlank left)
      (more : LineForm.ending? left = none) : Departs (lead ++ phrase.chars ++ trail) left

theorem operand_of_split {text head : List Char} {kind : OperandKind}
    (refused : Phrase.split text = .error (.operand head kind)) :
    ∃ opcode gap left, head = opcode.mnemonic.toList ++ gap ∧ text = head ++ left ∧
      (form opcode).operand? = some kind ∧ Gap gap ∧ Stops isBlank left ∧
      kind.split? left = none := by
  simp only [Phrase.split] at refused
  split at refused
  · cases refused
  · next opcode named =>
      split at refused
      · contradiction
      · next wanted =>
          split at refused
          · cases refused
          · next nonempty =>
              split at refused
              · contradiction
              · next missing =>
                  cases refused
                  have apart : Gap ((text.dropWhile isIdent).takeWhile isBlank) :=
                    ⟨by simpa using nonempty, blanks_iff.mpr fun c => of_mem_takeWhile⟩
                  refine ⟨opcode, _, _, rfl, ?_, wanted, apart, stops_dropWhile isBlank _, missing⟩
                  rw [mnemonic_of_opcode? named, List.append_assoc,
                    List.takeWhile_append_dropWhile, List.takeWhile_append_dropWhile]

theorem departs_of_read {fault : LineForm.Fault} (refused : LineForm.read body = .error fault) :
    ∃ left, body = fault.before ++ left ∧ Departs fault.before left := by
  have whole : body.takeWhile isBlank ++ body.dropWhile isBlank = body :=
    List.takeWhile_append_dropWhile
  have lead : Blanks (body.takeWhile isBlank) := blanks_iff.mpr fun c => of_mem_takeWhile
  have starts : Stops isBlank (body.dropWhile isBlank) := stops_dropWhile isBlank body
  simp only [LineForm.read] at refused
  split at refused
  · contradiction
  · next more =>
      split at refused
      · next splits =>
          cases refused
          exact ⟨_, whole.symm, .instruction lead starts more splits⟩
      · next head kind splits =>
          cases refused
          rcases operand_of_split splits
            with ⟨opcode, gap, left, rfl, parts, wanted, apart, starts, missing⟩
          refine ⟨left, ?_, .operand lead wanted apart starts missing⟩
          rw [List.append_assoc, ← parts, whole]
      · next phrase after splits =>
          split at refused
          · contradiction
          · next unended =>
              cases refused
              have rest : after.takeWhile isBlank ++ after.dropWhile isBlank = after :=
                List.takeWhile_append_dropWhile
              have chars := Phrase.split_append splits
              rw [← chars, ← rest] at splits
              refine ⟨after.dropWhile isBlank, ?_, .lineEnd lead splits
                (blanks_iff.mpr fun c => of_mem_takeWhile) (stops_dropWhile isBlank after) unended⟩
              rw [List.append_assoc, rest, List.append_assoc, chars, whole]

theorem Departs.starts (departs : Departs part left) : Stops isBlank left := by
  cases departs with
  | instruction _ starts _ _ => exact starts
  | operand _ _ _ starts _ => exact starts
  | lineEnd _ _ _ starts _ => exact starts

/-- An operand of the kind. -/
def OperandKind.sample : OperandKind → List Char
  | .word => ['1']
  | .line => ['1']
  | .quoted => ['"', '"']

theorem split?_sample (kind : OperandKind) : kind.split? kind.sample = some (kind.sample, []) := by
  cases kind <;> rfl

theorem unbroken_sample (kind : OperandKind) : Unbroken kind.sample := by
  cases kind <;> simp [OperandKind.sample, Unbroken]

-- What was read is the beginning of a line: at most an operand is missing.
theorem Departs.extends (departs : Departs part left) :
    ∃ missing, Unbroken missing ∧ WellFormed (part ++ missing) := by
  cases departs with
  | instruction blanks _ _ _ => exact ⟨[], unbroken_nil, none, .empty blanks .absent⟩
  | @operand lead gap left opcode kind blanks wanted apart _ _ =>
      have text := instructionText_of_split? wanted apart (split?_sample kind)
      have form : WellFormed (lead ++ Phrase.chars ⟨opcode, gap, kind.sample⟩ ++ [] ++ []) :=
        ⟨_, .instruction blanks text blanks_nil .absent⟩
      refine ⟨kind.sample, unbroken_sample kind, ?_⟩
      simpa [Phrase.chars, Phrase.head] using form
  | @lineEnd lead trail left phrase blanks splits trailing _ _ =>
      have text := instructionText_of_split splits
      exact ⟨[], unbroken_nil, _, .instruction blanks text trailing .absent⟩

-- Where nothing is left of the line, it is not its end that is wanted.
theorem Departs.operand_of_nil (departs : Departs part []) :
    ∃ lead opcode gap kind, part = lead ++ (opcode.mnemonic.toList ++ gap) ∧ Blanks lead ∧
      (form opcode).operand? = some kind ∧ Gap gap := by
  cases departs with
  | instruction _ _ more _ => contradiction
  | operand blanks wanted apart _ _ => exact ⟨_, _, _, _, rfl, blanks, wanted, apart⟩
  | lineEnd _ _ _ _ more => contradiction

/-- Reading a text ends at the first line that departs from its form. -/
theorem placedFrom_departure {fault : LineForm.Fault} {line : SourceLine}
    {finished later : List SourceLine} (forms : ∀ done ∈ finished, WellFormed done.body)
    (refused : LineForm.read line.body = .error fault) (offset : Nat) :
    placedFrom offset (finished ++ line :: later) =
      .error ⟨offset + byteLength (finished.flatMap SourceLine.chars ++ fault.before),
        fault.wanted⟩ := by
  induction finished generalizing offset with
  | nil => simp [placedFrom, refused]
  | cons first finished ih =>
      rcases List.forall_mem_cons.mp forms with ⟨⟨command, here⟩, there⟩
      rcases read_of_lineText here with ⟨form, reads, _⟩
      simp only [List.cons_append, placedFrom, reads, ih there]
      simp [Nat.add_assoc]

end Departures

section Tails

variable {text tail : List Char} {inRun : Char → Bool}

theorem takeWhile_tail (stops : Stops inRun tail) (text : List Char) :
    (text ++ tail).takeWhile inRun = text.takeWhile inRun := by
  rw [List.takeWhile_append, takeWhile_of_stops stops, List.append_nil]
  split
  · next whole => exact (((List.takeWhile_prefix inRun).eq_of_length whole)).symm
  · rfl

theorem dropWhile_tail (stops : Stops inRun tail) (text : List Char) :
    (text ++ tail).dropWhile inRun = text.dropWhile inRun ++ tail := by
  rw [List.dropWhile_append, dropWhile_of_stops stops]
  split
  · next none => rw [List.isEmpty_iff.mp none, List.nil_append]
  · rfl

theorem atLineEnd_cases (ends : AtLineEnd tail) :
    tail = [] ∨ (∃ others, tail = '\n' :: others) ∨ ∃ others, tail = '\r' :: others := by
  cases tail with
  | nil => exact .inl rfl
  | cons c others =>
      have ended := ends c rfl
      simp only [endsLine, Bool.not_eq_false', Bool.or_eq_true, beq_iff_eq] at ended
      rcases ended with rfl | rfl
      · exact .inr (.inl ⟨others, rfl⟩)
      · exact .inr (.inr ⟨others, rfl⟩)

theorem splitBody_atLineEnd (ends : AtLineEnd tail) : Quoted.splitBody tail = ([], tail) := by
  rcases atLineEnd_cases ends with rfl | ⟨others, rfl⟩ | ⟨others, rfl⟩
  · rfl
  · simp [Quoted.splitBody, Quoted.isPlain]
  · simp [Quoted.splitBody, Quoted.isPlain]

-- A backslash at the end of a line escapes nothing, least of all the line end.
theorem splitBody_backslash (ends : AtLineEnd tail) :
    Quoted.splitBody ('\\' :: tail) = ([], '\\' :: tail) := by
  rcases atLineEnd_cases ends with rfl | ⟨others, rfl⟩ | ⟨others, rfl⟩
  · rfl
  · simp [Quoted.splitBody, Quoted.isEscapable]
  · simp [Quoted.splitBody, Quoted.isEscapable]

theorem splitBody_tail (ends : AtLineEnd tail) (text : List Char) :
    Quoted.splitBody (text ++ tail) =
      ((Quoted.splitBody text).1, (Quoted.splitBody text).2 ++ tail) := by
  fun_induction Quoted.splitBody text with
  | case1 => exact splitBody_atLineEnd ends
  | case2 c rest escapable body after split ih => simp [Quoted.splitBody, escapable, split, ih]
  | case3 c rest other => simp [Quoted.splitBody, other]
  | case4 c rest alone plain body after split ih =>
      have other := (isPlain_iff.mp plain).2.1
      simp [Quoted.splitBody, other, plain, split, ih]
  | case5 c rest alone notPlain =>
      by_cases backslash : c = '\\'
      · cases rest with
        | nil =>
            subst backslash
            exact splitBody_backslash ends
        | cons d others => exact (alone d others backslash rfl).elim
      · simp [Quoted.splitBody, backslash, notPlain]

theorem quoted_tail (ends : AtLineEnd tail) (text : List Char) :
    Quoted.split? (text ++ tail) =
      (Quoted.split? text).map fun found => (found.1, found.2 ++ tail) := by
  have notQuote : ∀ others, tail ≠ '"' :: others := by
    rintro others rfl
    exact absurd (ends '"' rfl) (by decide)
  cases text with
  | nil =>
      simp only [List.nil_append, Quoted.split?, Option.map_none]
  | cons c rest =>
      by_cases quote : c = '"'
      · subst quote
        rcases split : Quoted.splitBody rest with ⟨body, after⟩
        simp only [List.cons_append, Quoted.split?, splitBody_tail ends, split]
        cases after with
        | nil =>
            simp only [List.nil_append]
            split
            · next others same => exact absurd (congrArg Prod.snd same) (notQuote others)
            · rfl
        | cons d more =>
            by_cases closing : d = '"'
            · subst closing
              rfl
            · simp [closing]
      · simp [Quoted.split?, quote]

theorem split?_tail (ends : AtLineEnd tail) (kind : OperandKind) (text : List Char) :
    kind.split? (text ++ tail) =
      (kind.split? text).map fun found => (found.1, found.2 ++ tail) := by
  have stops : Stops isIdent tail := ends.stops fun _ => not_endsLine_of_isIdent
  cases kind with
  | word =>
      simp only [OperandKind.split?, takeWhile_tail stops, dropWhile_tail stops]
      split <;> rfl
  | line =>
      simp only [OperandKind.split?, takeWhile_tail stops, dropWhile_tail stops]
      split <;> rfl
  | quoted =>
      simp only [OperandKind.split?, quoted_tail ends]
      cases Quoted.split? text <;> rfl

theorem split_atLineEnd (ends : AtLineEnd tail) : Phrase.split tail = .error .mnemonic := by
  have none : tail.takeWhile isIdent = [] :=
    takeWhile_of_stops (ends.stops fun _ => not_endsLine_of_isIdent)
  simp only [Phrase.split, none]
  rfl

theorem split_tail (ends : AtLineEnd tail) (text : List Char) :
    Phrase.split (text ++ tail) =
      (Phrase.split text).map fun found => (found.1, found.2 ++ tail) := by
  have idents : Stops isIdent tail := ends.stops fun _ => not_endsLine_of_isIdent
  have blanks : Stops isBlank tail := ends.stops fun _ => not_endsLine_of_isBlank
  simp only [Phrase.split, takeWhile_tail idents, dropWhile_tail idents, takeWhile_tail blanks,
    dropWhile_tail blanks, split?_tail ends]
  split
  · rfl
  · split
    · rfl
    · split
      · rfl
      · next kind _ _ =>
          cases kind.split? ((text.dropWhile isIdent).dropWhile isBlank) <;> rfl

end Tails

end Source

end GateMachine
