import GateMachine.Proofs.GrammarRules
import GateMachine.Proofs.SourceReading
import GateMachine.Source.Production

/-!
What the grammar accepts, line by line. The rule for programs knows of no
lines: it skips blanks and comments where it can, repeats what ends in a line
end, gives up the last line it has begun and reads it again. `round` is what it
does between two line ends; it stops at the end of a line exactly when the line
has the form of a line (`round_of_wellFormed`, `wellFormed_of_round`). So the
rule takes a whole text exactly when all lines have the form
(`program_iff_wellFormed`), which is what `parse` accepts, numbers apart.
-/

namespace GateMachine

namespace Source

section Skipping

variable {text lead comment tail : List Char}

/-- The line is over: its end follows, or nothing at all. -/
def AtLineEnd (text : List Char) : Prop := Stops (fun c => !endsLine c) text

theorem AtLineEnd.stops {inRun : Char → Bool} (apart : ∀ c, inRun c = true → endsLine c = false)
    (ends : AtLineEnd text) : Stops inRun text :=
  ends.mono fun c inside => by rw [apart c inside, Bool.not_false]

theorem not_endsLine_of_isBlank {c : Char} (blank : isBlank c = true) : endsLine c = false := by
  rcases isBlank_iff.mp blank with rfl | rfl <;> rfl

theorem unbroken_iff : Unbroken text ↔ ∀ c ∈ text, (!endsLine c) = true := by
  simp [Unbroken, endsLine]

theorem startsWithComment_iff :
    startsWithComment text = true ↔ ∃ note, text = '/' :: '/' :: note := by
  unfold startsWithComment
  split
  · next note => simp
  · next other => simpa using other

theorem skipped_of_stops (blank : Stops isBlank text) (bare : ¬ startsWithComment text = true) :
    skipped text = text := by
  simp only [skipped, dropWhile_of_stops blank, if_neg bare]

theorem not_startsWithComment (ends : AtLineEnd text) : ¬ startsWithComment text = true := by
  intro starts
  obtain ⟨note, rfl⟩ := startsWithComment_iff.mp starts
  have slash := ends '/' rfl
  contradiction

theorem skipped_atLineEnd (ends : AtLineEnd text) : skipped text = text :=
  skipped_of_stops (ends.stops fun _ => not_endsLine_of_isBlank) (not_startsWithComment ends)

theorem skipped_blanks (blanks : Blanks lead) (text : List Char) :
    skipped (lead ++ text) = skipped text := by
  rw [skipped, skipped, List.dropWhile_append_of_pos (blanks_iff.mp blanks)]

theorem skipped_of_ident {c : Char} (ident : isIdent c = true) (text : List Char) :
    skipped (c :: text) = c :: text := by
  refine skipped_of_stops (stops_cons (not_isBlank_of_isIdent ident)) ?_
  intro starts
  obtain ⟨note, same⟩ := startsWithComment_iff.mp starts
  cases same
  contradiction

theorem skipped_phrase (phrase : Phrase) (rest : List Char) :
    skipped (phrase.chars ++ rest) = phrase.chars ++ rest := by
  rcases phrase.chars_eq_cons with ⟨c, others, starts, ident⟩
  rw [starts]
  exact skipped_of_ident ident _

theorem skipped_comment (written : Comment comment) (whole : Unbroken comment)
    (ends : AtLineEnd tail) : skipped (comment ++ tail) = tail := by
  cases written with
  | absent => exact skipped_atLineEnd ends
  | note text =>
      have blank : Stops isBlank ('/' :: '/' :: text ++ tail) := stops_cons (by decide)
      have starts := startsWithComment_iff.mpr ⟨text ++ tail, rfl⟩
      simp only [skipped, dropWhile_of_stops blank]
      rw [List.cons_append, List.cons_append, if_pos starts]
      have dropped := dropWhile_run (unbroken_iff.mp whole) ends
      exact dropped

theorem run_note_of_bare (bare : ¬ startsWithComment text = true) :
    (Peg.seq Peg.comment (.star Peg.whiteSpace)).run text = none := by
  cases taken : (Peg.seq Peg.comment (.star Peg.whiteSpace)).run text with
  | none => rfl
  | some rest =>
      obtain ⟨_, commented, _⟩ := Peg.run_seq_iff.mp taken
      obtain ⟨note, slashes, _⟩ := Peg.run_seq_iff.mp commented
      exact absurd (startsWithComment_iff.mpr ⟨note, Peg.run_literal_iff.mp slashes⟩) bare

-- No blank follows a comment: it runs to the end of its line.
theorem run_note (note : List Char) :
    (Peg.seq Peg.comment (.star Peg.whiteSpace)).run ('/' :: '/' :: note) =
      some (note.dropWhile fun c => !endsLine c) := by
  have ends : AtLineEnd (note.dropWhile fun c => !endsLine c) := stops_dropWhile _ note
  have blank := ends.stops fun _ => not_endsLine_of_isBlank
  refine Peg.run_seq_iff.mpr ⟨_, Peg.run_seq_iff.mpr ⟨note, Peg.run_literal_iff.mpr rfl,
    Peg.run_star_char Peg.run_noteChar note⟩, ?_⟩
  rw [Peg.run_star_char Peg.run_whiteSpace, dropWhile_of_stops blank]

section Cases

variable (text)

theorem skipped_of_starts (starts : startsWithComment (text.dropWhile isBlank) = true) :
    skipped text = (text.dropWhile isBlank).dropWhile fun c => !endsLine c := by
  simp only [skipped, if_pos starts]

theorem skipped_of_bare (bare : ¬ startsWithComment (text.dropWhile isBlank) = true) :
    skipped text = text.dropWhile isBlank := by
  simp only [skipped, if_neg bare]

theorem skipped_splits :
    ∃ lead comment, text = lead ++ (comment ++ skipped text) ∧ Blanks lead ∧ Comment comment ∧
      Unbroken comment ∧ (comment = [] ∨ AtLineEnd (skipped text)) := by
  have blanks : Blanks (text.takeWhile isBlank) := blanks_iff.mpr fun c => of_mem_takeWhile
  by_cases starts : startsWithComment (text.dropWhile isBlank) = true
  · rw [skipped_of_starts text starts]
    refine ⟨text.takeWhile isBlank, (text.dropWhile isBlank).takeWhile fun c => !endsLine c, ?_,
      blanks, ?_, unbroken_iff.mpr fun c => of_mem_takeWhile, .inr (stops_dropWhile _ _)⟩
    · rw [List.takeWhile_append_dropWhile, List.takeWhile_append_dropWhile]
    · obtain ⟨note, same⟩ := startsWithComment_iff.mp starts
      rw [same]
      exact .note _
  · rw [skipped_of_bare text starts]
    refine ⟨text.takeWhile isBlank, [], ?_, blanks, .absent, unbroken_nil, .inl rfl⟩
    rw [List.nil_append, List.takeWhile_append_dropWhile]

theorem skipped_skipped : skipped (skipped text) = skipped text := by
  by_cases starts : startsWithComment (text.dropWhile isBlank) = true
  · rw [skipped_of_starts text starts]
    exact skipped_atLineEnd (stops_dropWhile _ _)
  · rw [skipped_of_bare text starts]
    exact skipped_of_stops (stops_dropWhile _ _) starts

theorem run_skip : Peg.skip.run text = some (skipped text) := by
  refine Peg.run_seq_iff.mpr ⟨_, Peg.run_star_char Peg.run_whiteSpace text, ?_⟩
  by_cases starts : startsWithComment (text.dropWhile isBlank) = true
  · obtain ⟨note, same⟩ := startsWithComment_iff.mp starts
    rw [skipped_of_starts text starts, same]
    have shorter : (note.dropWhile fun c => !endsLine c).length < ('/' :: '/' :: note).length := by
      have bound : (note.dropWhile fun c => !endsLine c).length ≤ note.length :=
        (List.dropWhile_sublist _).length_le
      simp only [List.length_cons]
      omega
    rw [Peg.run_star_of_some (run_note note) shorter]
    exact Peg.run_star_of_none (run_note_of_bare (not_startsWithComment (stops_dropWhile _ _)))
  · rw [skipped_of_bare text starts]
    exact Peg.run_star_of_none (run_note_of_bare starts)

end Cases

end Skipping

section Rounds

/-- What is left after what can stand on a line. -/
def round (text : List Char) : List Char :=
  let start := skipped text
  skipped ((Peg.instruction.run start).getD start)

variable {body other lead trail comment tail rest : List Char}

theorem not_endsLine_of_isIdent {c : Char} (ident : isIdent c = true) : endsLine c = false := by
  have single : Unbroken [c] := unbroken_of_idents (by simpa using ident)
  simpa [endsLine] using (unbroken_cons.mp single).1

theorem stops_append {inRun : Char → Bool} (stops : Stops inRun lead) (later : Stops inRun rest) :
    Stops inRun (lead ++ rest) := by
  cases lead with
  | nil => exact later
  | cons c others => exact stops_cons (stops c rfl)

theorem run_instruction_atLineEnd (ends : AtLineEnd tail) : Peg.instruction.run tail = none := by
  cases taken : Peg.instruction.run tail with
  | none => rfl
  | some left =>
      obtain ⟨phrase, splits⟩ := Peg.run_instruction_iff.mp taken
      obtain ⟨c, others, starts, ident⟩ := phrase.chars_eq_cons
      have whole := Phrase.split_append splits
      rw [starts] at whole
      have ended : (!endsLine c) = false := ends c (by rw [← whole]; rfl)
      rw [not_endsLine_of_isIdent ident] at ended
      contradiction

-- A text parts in one way only into what holds no line end and what begins with one.
theorem append_unique (whole : Unbroken body) (ends : AtLineEnd tail) (otherWhole : Unbroken other)
    (otherEnds : AtLineEnd rest) (same : body ++ tail = other ++ rest) :
    body = other ∧ tail = rest :=
  append_unique_of_stops (unbroken_iff.mp whole) ends (unbroken_iff.mp otherWhole) otherEnds same

theorem skipped_rest (blanks : Blanks lead) (written : Comment comment) (whole : Unbroken comment)
    (ends : AtLineEnd tail) : skipped (lead ++ (comment ++ tail)) = tail := by
  rw [skipped_blanks blanks, skipped_comment written whole ends]

theorem round_of_wellFormed (form : WellFormed body) (whole : Unbroken body)
    (ends : AtLineEnd tail) : round (body ++ tail) = tail := by
  obtain ⟨command, form⟩ := form
  cases form with
  | @empty lead comment before ending =>
      have start := skipped_rest before ending (unbroken_append.mp whole).2 ends
      rw [round, List.append_assoc, start]
      simp only [run_instruction_atLineEnd ends, Option.getD_none]
      exact skipped_atLineEnd ends
  | @instruction lead text trail comment command before written after ending =>
      rw [unbroken_append] at whole
      have idents : Stops isIdent (trail ++ (comment ++ tail)) := by
        rw [← List.append_assoc]
        exact stops_append (stops_isIdent_of_trail after ending)
          (ends.stops fun _ => not_endsLine_of_isIdent)
      obtain ⟨phrase, splits, spelled, _⟩ := split_of_instructionText written idents
      have taken := Peg.run_instruction_iff.mpr ⟨phrase, splits⟩
      have start := skipped_phrase phrase (trail ++ (comment ++ tail))
      rw [spelled] at start
      have line : lead ++ text ++ trail ++ comment ++ tail =
          lead ++ (text ++ (trail ++ (comment ++ tail))) := by simp
      rw [round, line, skipped_blanks before, start]
      simp only [taken, Option.getD_some]
      exact skipped_rest after ending whole.2 ends

theorem wellFormed_of_round (whole : Unbroken body) (ends : AtLineEnd tail)
    (reached : AtLineEnd (round (body ++ tail))) : WellFormed body ∧ round (body ++ tail) = tail := by
  obtain ⟨lead, comment, parts, before, written, unbroken, bare⟩ := skipped_splits (body ++ tail)
  cases taken : Peg.instruction.run (skipped (body ++ tail)) with
  | none =>
      have rest : round (body ++ tail) = skipped (body ++ tail) := by
        simp only [round, taken, Option.getD_none]
        exact skipped_skipped (body ++ tail)
      rw [rest] at reached ⊢
      rw [← List.append_assoc] at parts
      have front := unbroken_append.mpr ⟨unbroken_of_blanks before, unbroken⟩
      obtain ⟨rfl, same⟩ := append_unique whole ends front reached parts
      exact ⟨⟨none, .empty before written⟩, same.symm⟩
  | some left =>
      have rest : round (body ++ tail) = skipped left := by
        simp only [round, taken, Option.getD_some]
      obtain ⟨phrase, splits⟩ := Peg.run_instruction_iff.mp taken
      have text := instructionText_of_split splits
      have none : comment = [] := by
        rcases bare with none | early
        · exact none
        · rw [run_instruction_atLineEnd early] at taken
          contradiction
      obtain ⟨trail, note, later, after, ending, unbrokenNote, _⟩ := skipped_splits left
      rw [rest] at reached ⊢
      have line : body ++ tail = (lead ++ phrase.chars ++ trail ++ note) ++ skipped left := by
        rw [parts, none, ← Phrase.split_append splits]
        simp [← later]
      have front : Unbroken (lead ++ phrase.chars ++ trail ++ note) := by
        simp only [unbroken_append]
        exact ⟨⟨⟨unbroken_of_blanks before, unbroken_of_instructionText text⟩,
          unbroken_of_blanks after⟩, unbrokenNote⟩
      obtain ⟨rfl, same⟩ := append_unique whole ends front reached line
      exact ⟨⟨some phrase.command, .instruction before text after ending⟩, same.symm⟩

end Rounds

section Programs

variable {body text tail rest : List Char} {bodies : List (List Char)}

/-- The rule for programs, turned so that it skips before each line and nowhere else. -/
def loop : Peg := .seq (.star (.seq .skip .endedLine)) (.seq .skip .lastLine)

theorem run_line (ending : Peg) (text : List Char) :
    (Peg.seq .skip (.spaced (.optional .instruction) ending)).run text =
      ending.run (round text) := by
  simp [Peg.spaced, Peg.run, Peg.run_optional, run_skip, round]

theorem length_skipped_le (text : List Char) : (skipped text).length ≤ text.length := by
  obtain ⟨lead, comment, parts, _⟩ := skipped_splits text
  have lengths := congrArg List.length parts
  simp only [List.length_append] at lengths
  omega

theorem length_round_le (text : List Char) : (round text).length ≤ text.length := by
  refine Nat.le_trans (length_skipped_le _) (Nat.le_trans ?_ (length_skipped_le text))
  cases taken : Peg.instruction.run (skipped text) with
  | none => exact Nat.le_refl _
  | some left =>
      obtain ⟨phrase, splits⟩ := Peg.run_instruction_iff.mp taken
      rw [← Phrase.split_append splits]
      simp

theorem length_lt_of_literal {written : String} (some : written.toList ≠ [])
    (taken : (Peg.literal written).run text = .some rest) : rest.length < text.length := by
  have positive := List.length_pos_iff.mpr some
  rw [Peg.run_literal_iff.mp taken, List.length_append]
  omega

theorem length_lt_of_newline (ended : Peg.newline.run text = some rest) :
    rest.length < text.length := by
  rw [Peg.newline, Peg.run_choices] at ended
  obtain ⟨item, listed, taken⟩ := List.exists_of_findSome?_eq_some ended
  simp only [List.mem_cons, List.not_mem_nil, or_false] at listed
  rcases listed with rfl | rfl | rfl <;> exact length_lt_of_literal (by decide) taken

theorem atLineEnd_of_newline (ended : Peg.newline.run text = some rest) : AtLineEnd text := by
  intro c first
  cases ends : endsLine c with
  | true => simp [ends]
  | false =>
      obtain ⟨others, rfl⟩ := List.head?_eq_some_iff.mp first
      rw [Peg.run_newline_of_stops (stops_cons ends)] at ended
      contradiction

theorem loop_of_some (ended : Peg.newline.run (round text) = some rest) :
    loop.run text = loop.run rest := by
  have taken : (Peg.seq .skip .endedLine).run text = some rest := by
    rw [Peg.endedLine, run_line, ended]
  have shorter := Nat.lt_of_lt_of_le (length_lt_of_newline ended) (length_round_le text)
  rw [loop, Peg.run_seq, Peg.run_seq, Peg.run_star_of_some taken shorter]

theorem loop_of_none (stuck : Peg.newline.run (round text) = none) :
    loop.run text = Peg.endOfInput.run (round text) := by
  have failed : (Peg.seq .skip .endedLine).run text = none := by
    rw [Peg.endedLine, run_line, stuck]
  rw [loop, Peg.run_seq, Peg.run_star_of_none failed]
  exact run_line .endOfInput text

theorem run_endedLine_skipped (text : List Char) :
    Peg.endedLine.run (skipped text) = Peg.newline.run (round text) := by
  rw [← run_line, Peg.run_seq, run_skip]
  rfl

-- Skipping twice is skipping once, which matters when the first line is not ended.
theorem run_program (text : List Char) : Peg.program.run text = loop.run text := by
  have start : Peg.program.run text =
      ((Peg.spacedStar .endedLine).run (skipped text)).bind (Peg.seq .skip .lastLine).run := by
    rw [Peg.program, Peg.spaced, Peg.spaced, Peg.run_seq, Peg.run, Option.bind_some, Peg.run_seq,
      run_skip, Option.bind_some, Peg.run_seq]
  rw [start, Peg.spacedStar, Peg.run_optional, Option.bind_some, Peg.run_seq .endedLine,
    run_endedLine_skipped]
  cases ended : Peg.newline.run (round text) with
  | none =>
      have again : round (skipped text) = round text := by rw [round, round, skipped_skipped]
      rw [loop_of_none ended, ← again]
      exact run_line .endOfInput (skipped text)
  | some rest =>
      rw [loop_of_some ended]
      rfl

theorem loop_of_unended (whole : Unbroken body) (ends : AtLineEnd tail)
    (unended : Peg.newline.run (round (body ++ tail)) = none) :
    loop.run (body ++ tail) = some [] ↔ WellFormed body ∧ tail = [] := by
  rw [loop_of_none unended, Peg.run_endOfInput_iff]
  constructor
  · rintro ⟨reached, _⟩
    have line := wellFormed_of_round whole ends (by rw [reached]; exact stops_nil)
    exact ⟨line.1, line.2.symm.trans reached⟩
  · rintro ⟨form, none⟩
    exact ⟨(round_of_wellFormed form whole ends).trans none, rfl⟩

theorem loop_line (whole : Unbroken body) (ended : Peg.newline.run tail = some rest) :
    loop.run (body ++ tail) = some [] ↔ WellFormed body ∧ loop.run rest = some [] := by
  have ends := atLineEnd_of_newline ended
  cases taken : Peg.newline.run (round (body ++ tail)) with
  | none =>
      rw [loop_of_unended whole ends taken]
      constructor
      · rintro ⟨_, rfl⟩
        contradiction
      · rintro ⟨form, _⟩
        rw [round_of_wellFormed form whole ends, ended] at taken
        contradiction
  | some left =>
      obtain ⟨form, same⟩ := wellFormed_of_round whole ends (atLineEnd_of_newline taken)
      rw [same, ended] at taken
      cases taken
      rw [← same] at ended
      rw [loop_of_some ended]
      exact ⟨fun accepted => ⟨form, accepted⟩, fun both => both.2⟩

theorem loop_last (whole : Unbroken body) : loop.run body = some [] ↔ WellFormed body := by
  have ends : AtLineEnd [] := stops_nil
  have unended : Peg.newline.run (round (body ++ [])) = none := by
    cases taken : Peg.newline.run (round (body ++ [])) with
    | none => rfl
    | some left =>
        rw [(wellFormed_of_round whole ends (atLineEnd_of_newline taken)).2] at taken
        contradiction
  have line := loop_of_unended whole ends unended
  rw [List.append_nil] at line
  rw [line]
  exact ⟨fun both => both.1, fun form => ⟨form, rfl⟩⟩

-- The induction follows the lines: each is one turn of the loop.
theorem loop_iff_wellFormed (split : LineSplit text bodies) :
    loop.run text = some [] ↔ ∀ body ∈ bodies, WellFormed body := by
  induction split with
  | last whole => rw [loop_last whole, List.forall_mem_singleton]
  | feed whole _ ih =>
      rw [loop_line whole (Peg.run_newline_feed _), ih, List.forall_mem_cons]
  | returnFeed whole _ ih =>
      rw [loop_line whole (Peg.run_newline_returnFeed _), ih, List.forall_mem_cons]
  | loneReturn whole alone _ ih =>
      rw [loop_line whole (Peg.run_newline_loneReturn alone), ih, List.forall_mem_cons]

/-- The rule for programs takes a whole text exactly when each of its lines has the
form of a line. -/
theorem program_iff_wellFormed (split : LineSplit text bodies) :
    Peg.program.run text = some [] ↔ ∀ body ∈ bodies, WellFormed body := by
  rw [run_program, loop_iff_wellFormed split]

end Programs

end Source

end GateMachine
