import GateMachine.Proofs.DepartedLines
import GateMachine.Proofs.FailedRules
import GateMachine.Proofs.JoinedSources

/-!
How far the rules of the grammar get. On a line that departs from its form a rule fails
where it departs, and none fails further on (`Departs.furthest`). A line that has the form
lets all its rules fail before its end (`suffix_of_wellFormed`), so only the lines up to
the first one without the form count (`furthest_next`, `furthest_of_lines`).
-/

namespace GateMachine

namespace Source

section Furthest

open Grammar (FailsAt)

variable {body part left tail text rest place : List Char}

/-- A rule fails where `place` is left of the text, and no rule fails further on. -/
structure Furthest (grammar : Grammar) (text place : List Char) : Prop where
  fails : FailsAt grammar text place
  nowhereAfter : ∀ other, FailsAt grammar text other → place <:+ other

theorem round_of_refused {fault : Phrase.Fault}
    (refused : Phrase.split (skipped text) = .error fault) : round text = skipped text := by
  cases taken : Peg.instruction.run (skipped text) with
  | none =>
      simp only [round, taken, Option.getD_none]
      exact skipped_skipped text
  | some rest =>
      rcases Peg.run_instruction_iff.mp taken with ⟨phrase, splits⟩
      rw [refused] at splits
      contradiction

theorem round_of_split {phrase : Phrase}
    (splits : Phrase.split (skipped text) = .ok (phrase, rest)) : round text = skipped rest := by
  have taken := Peg.run_instruction_iff.mpr ⟨phrase, splits⟩
  simp only [round, taken, Option.getD_some]

theorem skipped_left (starts : Stops isBlank left) (more : LineForm.ending? left = none)
    (ends : AtLineEnd tail) : skipped (left ++ tail) = left ++ tail := by
  apply skipped_of_stops (stops_append starts (ends.stops fun _ => not_endsLine_of_isBlank))
  intro commented
  rcases startsWithComment_iff.mp commented with ⟨note, same⟩
  rcases left with _ | ⟨c, _ | ⟨d, others⟩⟩
  · contradiction
  · cases same
    exact absurd (ends '/' rfl) (by decide)
  · cases same
    contradiction

section Malformed

variable (whole : Unbroken body) (malformed : ¬ WellFormed body) (ends : AtLineEnd tail)

include whole malformed ends

theorem failsAt_malformed :
    FailsAt .loop (body ++ tail) place ↔
      FailsAt .instruction (skipped (body ++ tail)) place ∨ place = round (body ++ tail) := by
  have notAtEnd : ¬ AtLineEnd (round (body ++ tail)) :=
    fun reached => malformed (wellFormed_of_round whole ends reached).1
  have more : round (body ++ tail) ≠ [] := by
    intro none
    rw [none] at notAtEnd
    exact notAtEnd stops_nil
  cases ended : Peg.newline.run (round (body ++ tail)) with
  | some rest => exact absurd (atLineEnd_of_newline ended) notAtEnd
  | none => rw [Grammar.failsAt_loop_of_unended ended, and_iff_right more]

theorem furthest_of_round {read : List Char} (start : skipped (body ++ tail) = read ++ place)
    (stop : round (body ++ tail) = place)
    (complete : ∀ head kind, Phrase.split (read ++ place) ≠ .error (.operand head kind)) :
    Furthest .loop (body ++ tail) place := by
  constructor
  · exact (failsAt_malformed whole malformed ends).mpr (.inr stop.symm)
  · intro other fails
    rcases (failsAt_malformed whole malformed ends).mp fails with here | rfl
    · rw [start] at here
      rcases Grammar.failsAt_instruction here with rfl | lacks
      · exact List.suffix_append _ _
      · rcases lacks.refused with ⟨head, kind, refused, _⟩
        exact absurd refused (complete head kind)
    · simp only [stop, List.suffix_refl]

theorem furthest_of_operand (start : skipped (body ++ tail) = text)
    (lacks : LacksOperand text place) : Furthest .loop (body ++ tail) place := by
  rcases lacks.refused with ⟨head, kind, refused, parts⟩
  rw [← start] at refused
  constructor
  · apply (failsAt_malformed whole malformed ends).mpr
    rw [start]
    exact .inl (Grammar.failsAt_instruction_operand lacks)
  · intro other fails
    rcases (failsAt_malformed whole malformed ends).mp fails with here | rfl
    · rw [start] at here
      rcases Grammar.failsAt_instruction here with rfl | also
      · rw [parts]
        exact List.suffix_append _ _
      · simp only [lacks.unique also, List.suffix_refl]
    · rw [round_of_refused refused, start, parts]
      exact List.suffix_append _ _

end Malformed

-- What is tried last on a line is its end: behind an instruction, or where there is none.
theorem Departs.furthest (departs : Departs part left) (whole : Unbroken (part ++ left))
    (malformed : ¬ WellFormed (part ++ left)) (ends : AtLineEnd tail) :
    Furthest .loop (part ++ left ++ tail) (left ++ tail) := by
  cases departs with
  | instruction blanks starts more refused =>
      have start : skipped (part ++ left ++ tail) = [] ++ (left ++ tail) := by
        rw [List.append_assoc, skipped_blanks blanks, skipped_left starts more ends,
          List.nil_append]
      have again : Phrase.split ([] ++ (left ++ tail)) = .error .mnemonic := by
        rw [List.nil_append, split_tail ends, refused]
        rfl
      have stop := round_of_refused (start.symm ▸ again)
      apply furthest_of_round whole malformed ends start (stop.trans start)
      intro head kind operand
      rw [again] at operand
      cases operand
  | @operand lead gap left opcode kind blanks wanted apart starts missing =>
      have start : skipped (lead ++ (opcode.mnemonic.toList ++ gap) ++ left ++ tail) =
          opcode.mnemonic.toList ++ gap ++ (left ++ tail) := by
        have phrase := skipped_phrase ⟨opcode, gap, left⟩ tail
        simp only [Phrase.chars, Phrase.head, List.append_assoc] at phrase
        simp only [List.append_assoc, skipped_blanks blanks, phrase]
      apply furthest_of_operand whole malformed ends start
      apply LacksOperand.intro wanted apart
      · exact stops_append starts (ends.stops fun _ => not_endsLine_of_isBlank)
      · rw [split?_tail ends, missing]
        rfl
  | @lineEnd lead trail left phrase blanks splits trailing starts more =>
      have start : skipped (lead ++ phrase.chars ++ trail ++ left ++ tail) =
          phrase.chars ++ trail ++ (left ++ tail) := by
        simp only [List.append_assoc, skipped_blanks blanks, skipped_phrase]
      have again : Phrase.split (phrase.chars ++ trail ++ (left ++ tail)) =
          .ok (phrase, trail ++ (left ++ tail)) := by
        have tailed := split_tail ends (phrase.chars ++ (trail ++ left))
        rw [splits] at tailed
        simpa [Except.map] using tailed
      have stop := round_of_split (start.symm ▸ again)
      rw [skipped_blanks trailing, skipped_left starts more ends] at stop
      apply furthest_of_round whole malformed ends start stop
      intro head kind operand
      rw [again] at operand
      cases operand

theorem skipped_suffix (text : List Char) : skipped text <:+ text := by
  rcases skipped_splits text with ⟨lead, comment, parts, _⟩
  rw [← List.append_assoc] at parts
  exact ⟨lead ++ comment, parts.symm⟩

theorem round_suffix (text : List Char) : round text <:+ skipped text := by
  cases splits : Phrase.split (skipped text) with
  | error fault =>
      simp only [round_of_refused splits, List.suffix_refl]
  | ok found =>
      rw [round_of_split splits]
      exact (skipped_suffix found.2).trans ⟨found.1.chars, Phrase.split_append splits⟩

theorem suffix_of_wellFormed (form : WellFormed body) (whole : Unbroken body)
    (ends : AtLineEnd tail) (fails : FailsAt .instruction (skipped (body ++ tail)) place) :
    tail <:+ place := by
  have reached := round_of_wellFormed form whole ends
  rcases Grammar.failsAt_instruction fails with rfl | lacks
  · have behind := round_suffix (body ++ tail)
    rw [reached] at behind
    exact behind
  · rcases lacks.refused with ⟨_, _, refused, _⟩
    rw [← round_of_refused refused, reached, split_atLineEnd ends] at refused
    cases refused

theorem furthest_next {ending : LineEnd} (whole : Unbroken body) (form : WellFormed body)
    (ends : ending.Before rest) (within : place <:+ rest) (later : Furthest .loop rest place) :
    Furthest .loop (body ++ (ending.chars ++ rest)) place := by
  have ended := run_newline_ending ends
  have atEnd := atLineEnd_of_newline ended
  have reached := round_of_wellFormed form whole atEnd
  rw [← reached] at ended
  constructor
  · exact (Grammar.failsAt_loop_of_ended ended).mpr (.inr later.fails)
  · intro other fails
    rcases (Grammar.failsAt_loop_of_ended ended).mp fails with here | there
    · have behind := suffix_of_wellFormed form whole atEnd here
      exact within.trans ((List.suffix_append ending.chars rest).trans behind)
    · exact later.nowhereAfter other there

theorem furthest_program (within : place <:+ text) (lines : Furthest .loop text place) :
    Furthest .program text place := by
  constructor
  · exact Grammar.failsAt_program_iff.mpr (.inl lines.fails)
  · intro other fails
    rcases Grammar.failsAt_program_iff.mp fails with inside | ⟨_, rfl⟩
    · exact lines.nowhereAfter other inside
    · exact within

end Furthest

section Texts

variable {text part left body : List Char} {line : SourceLine} {ending : LineEnd}
  {finished later others : List SourceLine}

theorem lines_next_cases {rest : List Char} (whole : Unbroken body) (ends : ending.Before rest)
    (split : lines (body ++ ending.chars ++ rest) = line :: others) :
    Unbroken line.body ∧ ∃ rest, line.ending.Before rest ∧ lines rest = others := by
  rw [lines_next whole ends] at split
  cases split
  exact ⟨whole, rest, ends, rfl⟩

-- The first line is the only one, or it has an end and the others follow.
theorem lines_cons_cases (split : lines text = line :: others) :
    Unbroken line.body ∧
      (line.ending = .endOfText ∧ others = [] ∨
        ∃ rest, line.ending.Before rest ∧ lines rest = others) := by
  have parts := lineSplit_lines text
  generalize (lines text).map SourceLine.body = bodies at parts
  cases parts with
  | last whole =>
      rw [lines_last whole] at split
      cases split
      exact ⟨whole, .inl ⟨rfl, rfl⟩⟩
  | @feed body rest _ whole _ =>
      have next := lines_next_cases whole (.feed rest) (by simpa [LineEnd.chars] using split)
      exact ⟨next.1, .inr next.2⟩
  | @returnFeed body rest _ whole _ =>
      have next := lines_next_cases whole (.returnFeed rest) (by simpa [LineEnd.chars] using split)
      exact ⟨next.1, .inr next.2⟩
  | loneReturn whole alone _ =>
      have next := lines_next_cases whole (.loneReturn alone) (by simpa [LineEnd.chars] using split)
      exact ⟨next.1, .inr next.2⟩

theorem atLineEnd_of_lines (split : lines text = line :: others) :
    AtLineEnd (line.ending.chars ++ others.flatMap SourceLine.chars) := by
  rcases (lines_cons_cases split).2 with ⟨only, rfl⟩ | ⟨rest, ends, rfl⟩
  · rw [only]
    exact stops_nil
  · rw [flatMap_chars_lines]
    exact atLineEnd_of_newline (run_newline_ending ends)

theorem exists_lines_from (split : lines text = finished ++ line :: later) :
    ∃ rest, lines rest = line :: later := by
  induction finished generalizing text with
  | nil => exact ⟨text, split⟩
  | cons first finished ih =>
      rw [List.cons_append] at split
      rcases lines_cons_cases split with ⟨_, ⟨_, none⟩ | ⟨rest, _, next⟩⟩
      · simp at none
      · exact ih next

theorem parts_of_lines (split : lines text = finished ++ ⟨part ++ left, ending⟩ :: later) :
    text = finished.flatMap SourceLine.chars ++ part ++
      (left ++ (ending.chars ++ later.flatMap SourceLine.chars)) := by
  rw [← flatMap_chars_lines text, split]
  simp [SourceLine.chars]

theorem before_front {front rest : List Char} (ends : ending.Before (front ++ rest))
    (whole : Unbroken body) : ending.Before (front ++ body) := by
  cases ends with
  | feed => exact .feed _
  | returnFeed => exact .returnFeed _
  | loneReturn alone =>
      apply LineEnd.Before.loneReturn
      cases front with
      | cons c front => exact alone
      | nil =>
          intro first
          rcases List.head?_eq_some_iff.mp first with ⟨others, same⟩
          rw [List.nil_append] at same
          subst same
          exact absurd rfl (unbroken_cons.mp whole).1.1

/-- Lines that are ended can be followed by any line. -/
theorem accepts_after (split : lines text = finished ++ line :: later)
    (forms : ∀ done ∈ finished, WellFormed done.body) (whole : Unbroken body)
    (form : WellFormed body) :
    loop.run (finished.flatMap SourceLine.chars ++ body) = some [] := by
  induction finished generalizing text with
  | nil => exact (loop_last whole).mpr form
  | cons first finished ih =>
      rw [List.cons_append] at split
      rcases List.forall_mem_cons.mp forms with ⟨here, there⟩
      rcases lines_cons_cases split with ⟨unbroken, ⟨_, none⟩ | ⟨rest, ends, next⟩⟩
      · simp at none
      · have front : rest = finished.flatMap SourceLine.chars ++
            (line :: later).flatMap SourceLine.chars := by
          rw [← flatMap_chars_lines rest, next, List.flatMap_append]
        rw [front] at ends
        have ended := run_newline_ending (before_front ends whole)
        rw [List.flatMap_cons, SourceLine.chars, List.append_assoc, List.append_assoc]
        exact (loop_line unbroken ended).mpr ⟨here, ih next there⟩

theorem furthest_of_lines (split : lines text = finished ++ ⟨part ++ left, ending⟩ :: later)
    (forms : ∀ done ∈ finished, WellFormed done.body) (malformed : ¬ WellFormed (part ++ left))
    (departs : Departs part left) :
    Furthest .loop text (left ++ (ending.chars ++ later.flatMap SourceLine.chars)) := by
  induction finished generalizing text with
  | nil =>
      have parts := parts_of_lines split
      rw [List.nil_append] at split
      rw [List.flatMap_nil, List.nil_append, ← List.append_assoc] at parts
      rw [parts]
      exact departs.furthest (lines_cons_cases split).1 malformed (atLineEnd_of_lines split)
  | cons first finished ih =>
      rw [List.cons_append] at split
      rcases List.forall_mem_cons.mp forms with ⟨here, there⟩
      rcases lines_cons_cases split with ⟨unbroken, ⟨_, none⟩ | ⟨rest, ends, next⟩⟩
      · simp at none
      · have parts : text = first.body ++ (first.ending.chars ++ rest) := by
          rw [← flatMap_chars_lines text, split, ← flatMap_chars_lines rest, next]
          simp [SourceLine.chars]
        rw [parts]
        apply furthest_next unbroken here ends
        · rw [parts_of_lines next]
          exact List.suffix_append _ _
        · exact ih next there

end Texts

end Source

end GateMachine
