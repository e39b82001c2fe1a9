import GateMachine.Proofs.FurthestFailures
import GateMachine.Proofs.LoadDiagnostics

/-!
Where a syntax error points. Reading a text stops at the place where its first malformed
line departs from the form of a line (`departure_of_rejected`), and this place is where
the rules of the grammar got furthest. Everything before it can still become a text that
the grammar takes; what was found there is named after the first character that is left.
-/

namespace GateMachine

namespace Source

section Findings

theorem dropBytes_append (before rest : List Char) :
    dropBytes (byteLength before) (before ++ rest) = rest := by
  induction before with
  | nil => rw [byteLength_nil, List.nil_append, dropBytes]
  | cons c before ih =>
      have positive := c.utf8Size_pos
      rcases Nat.exists_eq_add_one.mpr (Nat.add_pos_left positive (byteLength before))
        with ⟨count, size⟩
      have further : count + 1 - c.utf8Size = byteLength before := by omega
      rw [byteLength_cons, size, List.cons_append, dropBytes, if_pos (by omega), further, ih]

theorem found_of_token {c : Char} (token : Text.isWhiteSpace c = false) (rest : List Char) :
    (found (c :: rest)).toList.head? = some '\'' := by
  simp [found, token, foundWidth]

theorem found_of_space {c : Char} (space : Text.isWhiteSpace c = true) (rest : List Char) :
    found (c :: rest) = if c = '\n' ∨ c = '\r' then "end of line" else "whitespace" := by
  have none : (c :: rest).takeWhile (fun d => !Text.isWhiteSpace d) = [] :=
    List.takeWhile_cons_of_neg (by simp [space])
  simp only [found, none, List.take_nil, List.isEmpty_nil, if_true]
  by_cases feed : c = '\n'
  · simp [feed]
  · by_cases back : c = '\r'
    · simp [back]
    · simp [feed, back]

theorem found_endOfInput_iff (rest : List Char) : found rest = "end of input" ↔ rest = [] := by
  cases rest with
  | nil => exact ⟨fun _ => rfl, fun _ => rfl⟩
  | cons c others =>
      refine iff_of_false ?_ nofun
      intro same
      cases space : Text.isWhiteSpace c with
      | false =>
          have token := found_of_token space others
          rw [same] at token
          exact absurd token (by decide)
      | true =>
          rw [found_of_space space] at same
          split at same <;> contradiction

theorem found_endOfLine_iff (rest : List Char) :
    found rest = "end of line" ↔ rest.head? = some '\n' ∨ rest.head? = some '\r' := by
  cases rest with
  | nil => exact iff_of_false (by decide) (by simp)
  | cons c others =>
      rw [List.head?_cons, Option.some_inj, Option.some_inj]
      cases space : Text.isWhiteSpace c with
      | false =>
          constructor
          · intro same
            have token := found_of_token space others
            rw [same] at token
            exact absurd token (by decide)
          · rintro (rfl | rfl) <;> contradiction
      | true =>
          rw [found_of_space space]
          by_cases ends : c = '\n' ∨ c = '\r'
          · simp [ends]
          · simp [ends]

end Findings

section Places

/-- A place in a line of a text: the lines before it, the two parts of the line, the end
of the line and the lines after it. -/
structure Place where
  finished : List SourceLine
  part : List Char
  left : List Char
  ending : LineEnd
  later : List SourceLine

namespace Place

def before (place : Place) : List Char :=
  place.finished.flatMap SourceLine.chars ++ place.part

def rest (place : Place) : List Char :=
  place.left ++ (place.ending.chars ++ place.later.flatMap SourceLine.chars)

def position (place : Place) : Nat := byteLength place.before

/-- The place is in the first line of the text that does not have the form of a line. -/
structure InFirstMalformed (text : List Char) (place : Place) : Prop where
  split : lines text = place.finished ++ ⟨place.part ++ place.left, place.ending⟩ :: place.later
  forms : ∀ done ∈ place.finished, WellFormed done.body
  malformed : ¬ WellFormed (place.part ++ place.left)

/-- A mnemonic and the blanks after it were read, and nothing is left of the line. -/
def MissesOperand (place : Place) : Prop :=
  ∃ lead opcode gap kind, place.part = lead ++ (opcode.mnemonic.toList ++ gap) ∧ Blanks lead ∧
    (form opcode).operand? = some kind ∧ Gap gap ∧ place.left = []

end Place

variable {source : String} {text : List Char} {place : Place}

theorem Place.InFirstMalformed.parts (inside : place.InFirstMalformed text) :
    text = place.before ++ place.rest :=
  parts_of_lines inside.split

theorem Place.InFirstMalformed.unbroken (inside : place.InFirstMalformed text) :
    Unbroken place.left := by
  rcases exists_lines_from inside.split with ⟨rest, split⟩
  exact (unbroken_append.mp (lines_cons_cases split).1).2

theorem Place.InFirstMalformed.starts (inside : place.InFirstMalformed text)
    (departs : Departs place.part place.left) : Stops isBlank place.rest := by
  rcases exists_lines_from inside.split with ⟨rest, split⟩
  have ends := atLineEnd_of_lines split
  exact stops_append departs.starts (ends.stops fun _ => not_endsLine_of_isBlank)

theorem Place.InFirstMalformed.left_eq_nil (inside : place.InFirstMalformed text)
    (ends : AtLineEnd place.rest) : place.left = [] := by
  have whole := inside.unbroken
  cases remains : place.left with
  | nil => rfl
  | cons c others =>
      have ended := ends c (by simp [Place.rest, remains])
      rw [remains] at whole
      have within := (unbroken_cons.mp whole).1
      simp [endsLine, within] at ended

/-- A text that the grammar does not take has a first line without form, and reading it
ends at the place where this line departs from its form. -/
theorem departure_of_rejected (rejected : Peg.program.run text ≠ some []) :
    ∃ (place : Place) (wanted : LineForm.Wanted), place.InFirstMalformed text ∧
      Departs place.part place.left ∧
      placedFrom 0 (lines text) = .error ⟨place.position, wanted⟩ := by
  have malformed : ∃ line ∈ lines text, ¬ WellFormed line.body := by
    rw [ne_eq, program_iff_wellFormed (lineSplit_lines text)] at rejected
    simpa using rejected
  rcases exists_departure malformed
    with ⟨finished, line, later, fault, left, split, forms, bad, reads, parts, departs⟩
  refine ⟨⟨finished, fault.before, left, line.ending, later⟩, fault.wanted, ⟨?_, forms, ?_⟩,
    departs, ?_⟩
  · rw [← parts]
    exact split
  · rw [← parts]
    exact bad
  · rw [split, placedFrom_departure forms reads, Nat.zero_add]
    rfl

theorem Place.InFirstMalformed.within (inside : place.InFirstMalformed source.toList) :
    Span.Within source ⟨place.position, place.position⟩ := by
  have parts := inside.parts
  rw [← List.append_nil place.before] at parts
  have within := within_of_append parts
  rw [List.append_nil] at within
  exact within

theorem Place.InFirstMalformed.position_eq_iff (inside : place.InFirstMalformed source.toList) :
    place.position = source.utf8ByteSize ↔ place.rest = [] := by
  have size := byteLength_eq_utf8ByteSize source.toList
  rw [String.ofList_toList, inside.parts, byteLength_append] at size
  rw [← size, Place.position]
  constructor
  · intro ends
    cases remains : place.rest with
    | nil => rfl
    | cons c others =>
        have positive := byteLength_pos (List.cons_ne_nil c others)
        rw [remains] at ends
        omega
  · intro none
    rw [none, byteLength_nil, Nat.add_zero]

theorem Place.InFirstMalformed.extends (inside : place.InFirstMalformed text)
    (departs : Departs place.part place.left) :
    ∃ extension, Peg.program.run (place.before ++ extension) = some [] := by
  rcases departs.extends with ⟨missing, unbroken, form⟩
  have whole : Unbroken (place.part ++ missing) := by
    rcases exists_lines_from inside.split with ⟨rest, split⟩
    have line := (lines_cons_cases split).1
    exact unbroken_append.mpr ⟨(unbroken_append.mp line).1, unbroken⟩
  refine ⟨missing, ?_⟩
  rw [run_program, Place.before, List.append_assoc]
  exact accepts_after inside.split inside.forms whole form

theorem Place.InFirstMalformed.parse (inside : place.InFirstMalformed source.toList)
    {wanted : LineForm.Wanted}
    (refused : placedFrom 0 (lines source.toList) = .error ⟨place.position, wanted⟩) :
    ∃ expected, Source.parse source =
      .error ⟨.unexpected expected (found place.rest), ⟨place.position, place.position⟩⟩ := by
  have rest : dropBytes place.position source.toList = place.rest := by
    rw [inside.parts]
    exact dropBytes_append place.before place.rest
  simp only [Source.parse, refused, SyntaxFault.error, SourceError.unexpected, rest]
  exact ⟨_, rfl⟩

theorem Place.InFirstMalformed.missesOperand (inside : place.InFirstMalformed text)
    (departs : Departs place.part place.left)
    (ended : found place.rest = "end of input" ∨ found place.rest = "end of line") :
    place.MissesOperand := by
  have ends : AtLineEnd place.rest := by
    rw [found_endOfInput_iff, found_endOfLine_iff] at ended
    rcases ended with none | feed | back
    · rw [none]
      exact stops_nil
    · intro c first
      rw [feed] at first
      cases first
      rfl
    · intro c first
      rw [back] at first
      cases first
      rfl
  have none := inside.left_eq_nil ends
  rw [none] at departs
  rcases departs.operand_of_nil with ⟨lead, opcode, gap, kind, read, blanks, wanted, apart⟩
  exact ⟨lead, opcode, gap, kind, read, blanks, wanted, apart, none⟩

/-- The error of a source that the grammar does not take points at one place, between
characters of the first line that does not have the form of a line, or at its end. What is
before the place can be continued to a text that the grammar takes; what stands there is no
blank; and no rule of the grammar fails further on than there. The end of the text or of
the line is found exactly if it is there, and then in place of an operand. -/
theorem syntax_error_points_at_departure (source : String)
    (rejected : Peg.program.run source.toList ≠ some []) :
    ∃ (place : Place) (expected found : String),
      parse source = .error ⟨.unexpected expected found, ⟨place.position, place.position⟩⟩ ∧
      source.toList = place.before ++ place.rest ∧
      Span.Within source ⟨place.position, place.position⟩ ∧
      place.InFirstMalformed source.toList ∧
      (∃ extension, Peg.program.run (place.before ++ extension) = some []) ∧
      (∀ c, place.rest.head? = some c → c ≠ ' ' ∧ c ≠ '\t') ∧
      (found = "end of input" ↔ place.position = source.utf8ByteSize) ∧
      (found = "end of line" ↔ place.rest.head? = some '\n' ∨ place.rest.head? = some '\r') ∧
      (found = "end of input" ∨ found = "end of line" → place.MissesOperand) ∧
      Furthest .program source.toList place.rest := by
  rcases departure_of_rejected rejected with ⟨place, wanted, inside, departs, refused⟩
  rcases inside.parse refused with ⟨expected, error⟩
  have parts := inside.parts
  refine ⟨place, expected, found place.rest, error, parts, inside.within, inside,
    inside.extends departs, ?_, ?_, found_endOfLine_iff _, inside.missesOperand departs, ?_⟩
  · intro c first
    exact not_isBlank_iff.mp (inside.starts departs c first)
  · rw [found_endOfInput_iff, inside.position_eq_iff]
  · apply furthest_program
    · rw [parts]
      exact List.suffix_append _ _
    · exact furthest_of_lines inside.split inside.forms inside.malformed departs

/-- The blanks behind a mnemonic are read, and its operand is missed where the line ends. -/
theorem missing_word_points_at_line_end :
    ∃ place : Place,
      parse "pop // é\r\npush \t\nstop 1" =
        .error ⟨.unexpected "a word (0 to 15, `true` or `false`)" "end of line", ⟨17, 17⟩⟩ ∧
      place.position = 17 ∧ place.InFirstMalformed "pop // é\r\npush \t\nstop 1".toList ∧
      place.MissesOperand ∧
      Furthest .program "pop // é\r\npush \t\nstop 1".toList place.rest := by
  have error : parse "pop // é\r\npush \t\nstop 1" =
      .error ⟨.unexpected "a word (0 to 15, `true` or `false`)" "end of line", ⟨17, 17⟩⟩ := rfl
  have rejected : Peg.program.run "pop // é\r\npush \t\nstop 1".toList ≠ some [] := by decide
  rcases syntax_error_points_at_departure _ rejected
    with ⟨place, _, _, points, _, _, inside, _, _, _, _, misses, furthest⟩
  rw [error] at points
  injection points with same
  injection same with kind span
  injection kind with _ ended
  injection span with position _
  exact ⟨place, error, position.symm, inside, misses (.inr ended.symm), furthest⟩

end Places

end Source

end GateMachine
