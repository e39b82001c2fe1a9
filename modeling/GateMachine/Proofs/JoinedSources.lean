import GateMachine.Proofs.GrammarLines
import GateMachine.Proofs.SourceLayout

/-!
Sources joined by a line feed. Reading goes line by line, and what is read of a line
is followed by what is read of the next (`placedFrom_line`); so the reading of two
texts with a line feed between them is the reading of the first followed by that of
the second (`placedFrom_joined`). The second begins further on, which moves its spans
and nothing else (`placedFrom_shift`, `statements_shift`). A return at the end of the
first text makes one line end with the line feed; the empty line that it ended before
has no instruction to lose.
-/

namespace GateMachine

/-- The same span in a text with that many bytes more in front. -/
def Span.shift (distance : Nat) (span : Span) : Span :=
  ⟨distance + span.start, distance + span.stop⟩

namespace Source

section Sequences

variable {ε α : Type}

/-- What is read first, followed by what is read next; the first error counts. -/
def followedBy (first second : Except ε (List α)) : Except ε (List α) :=
  match first with
  | .error error => .error error
  | .ok earlier => second.map (earlier ++ ·)

@[simp] theorem nil_followedBy (reading : Except ε (List α)) :
    followedBy (.ok []) reading = reading := by
  cases reading <;> rfl

@[simp] theorem followedBy_nil (reading : Except ε (List α)) :
    followedBy reading (.ok []) = reading := by
  cases reading with
  | error error => rfl
  | ok items => simp [followedBy, Except.map]

theorem followedBy_assoc (first second third : Except ε (List α)) :
    followedBy (followedBy first second) third = followedBy first (followedBy second third) := by
  cases first with
  | error error => rfl
  | ok earlier =>
      cases second with
      | error error => rfl
      | ok later => cases third <;> simp [followedBy, Except.map]

theorem followedBy_eq_ok_iff {first second : Except ε (List α)} {items : List α} :
    followedBy first second = .ok items ↔
      ∃ earlier later, first = .ok earlier ∧ second = .ok later ∧ items = earlier ++ later := by
  cases first with
  | error error => simp [followedBy]
  | ok earlier => cases second <;> simp [followedBy, Except.map, eq_comm]

/-- The same reading further on: its items and its error are moved. -/
def moved (moveError : ε → ε) (move : α → α) : Except ε (List α) → Except ε (List α)
  | .error error => .error (moveError error)
  | .ok items => .ok (items.map move)

variable {moveError : ε → ε} {move : α → α}

theorem moved_followedBy (first second : Except ε (List α)) :
    moved moveError move (followedBy first second) =
      followedBy (moved moveError move first) (moved moveError move second) := by
  cases first with
  | error error => rfl
  | ok earlier => cases second <;> simp [followedBy, moved, Except.map]

theorem followedBy_moved_eq_ok_iff {first second : Except ε (List α)} {items : List α} :
    followedBy first (moved moveError move second) = .ok items ↔
      ∃ earlier later, first = .ok earlier ∧ second = .ok later ∧
        items = earlier ++ later.map move := by
  rw [followedBy_eq_ok_iff]
  cases second with
  | error error => simp [moved]
  | ok later => simp [moved]

end Sequences

section Shifts

def Placed.shift (distance : Nat) (placed : Placed) : Placed :=
  { placed with start := distance + placed.start }

def SyntaxFault.shift (distance : Nat) (fault : SyntaxFault) : SyntaxFault :=
  { fault with position := distance + fault.position }

def Statement.shift (distance : Nat) (statement : Statement) : Statement :=
  { statement with
    span := statement.span.shift distance
    operandSpan := statement.operandSpan.map (Span.shift distance) }

def errorShift (distance : Nat) (error : SourceError) : SourceError :=
  { error with span := error.span.shift distance }

/-- The phrase of a line, if there is one, when the line begins at byte `offset`. -/
def placedLine (offset : Nat) (body : List Char) : Except SyntaxFault (List Placed) :=
  match LineForm.read body with
  | .error fault => .error ⟨offset + byteLength fault.before, fault.wanted⟩
  | .ok form => .ok (form.phrase.map (Placed.mk (offset + byteLength form.lead))).toList

theorem placedFrom_line (offset : Nat) (line : SourceLine) (others : List SourceLine) :
    placedFrom offset (line :: others) =
      followedBy (placedLine offset line.body)
        (placedFrom (offset + byteLength line.chars) others) := by
  rw [placedFrom, placedLine]
  cases LineForm.read line.body with
  | error fault => rfl
  | ok form =>
      cases placedFrom (offset + byteLength line.chars) others with
      | error fault => rfl
      | ok later =>
          dsimp only
          cases form.phrase <;> rfl

theorem placedLine_shift (distance offset : Nat) (body : List Char) :
    placedLine (distance + offset) body =
      moved (SyntaxFault.shift distance) (Placed.shift distance) (placedLine offset body) := by
  rw [placedLine, placedLine]
  cases LineForm.read body with
  | error fault => simp [moved, SyntaxFault.shift, Nat.add_assoc]
  | ok form =>
      dsimp only
      cases form.phrase <;> simp [moved, Placed.shift, Nat.add_assoc]

theorem placedFrom_shift (distance offset : Nat) (sourceLines : List SourceLine) :
    placedFrom (distance + offset) sourceLines =
      moved (SyntaxFault.shift distance) (Placed.shift distance)
        (placedFrom offset sourceLines) := by
  induction sourceLines generalizing offset with
  | nil => rfl
  | cons line rest ih =>
      rw [placedFrom_line, placedFrom_line, moved_followedBy, placedLine_shift, Nat.add_assoc, ih]

theorem statements_cons (placed : Placed) (rest : List Placed) :
    statements (placed :: rest) =
      followedBy (placed.statement.map fun statement => [statement]) (statements rest) := by
  rw [statements]
  cases placed.statement with
  | error error => rfl
  | ok statement => cases statements rest <;> rfl

theorem statements_append (first second : List Placed) :
    statements (first ++ second) = followedBy (statements first) (statements second) := by
  induction first with
  | nil => exact (nil_followedBy (statements second)).symm
  | cons placed rest ih =>
      rw [List.cons_append, statements_cons, statements_cons, ih, followedBy_assoc]

theorem statement_shift (distance : Nat) (placed : Placed) :
    ((placed.shift distance).statement.map fun statement => [statement]) =
      moved (errorShift distance) (Statement.shift distance)
        (placed.statement.map fun statement => [statement]) := by
  have span : (placed.shift distance).span = placed.span.shift distance := by
    simp [Placed.span, Placed.shift, Span.shift, Nat.add_assoc]
  have operand : (placed.shift distance).operandSpan = placed.operandSpan.shift distance := by
    simp [Placed.operandSpan, Placed.shift, Span.shift, Nat.add_assoc]
  have phrase : (placed.shift distance).phrase = placed.phrase := rfl
  rw [Placed.statement, Placed.statement, span, operand, phrase]
  cases placed.phrase.instruction with
  | ok instruction => cases (form placed.phrase.opcode).operand? <;> rfl
  | error fault => cases fault <;> rfl

theorem statements_shift (distance : Nat) (placed : List Placed) :
    statements (placed.map (Placed.shift distance)) =
      moved (errorShift distance) (Statement.shift distance) (statements placed) := by
  induction placed with
  | nil => rfl
  | cons first rest ih =>
      rw [List.map_cons, statements_cons, statements_cons, moved_followedBy, statement_shift, ih]

end Shifts

section Joining

variable {body text first second : List Char} {bodies : List (List Char)} {ending : LineEnd}

/-- After a line feed the second text is read on from where the first one ends. -/
def ReadsOn (first second : List Char) : Prop :=
  ∀ offset, placedFrom offset (lines (first ++ '\n' :: second)) =
    followedBy (placedFrom offset (lines first))
      (placedFrom (offset + byteLength first + 1) (lines second))

theorem run_newline_ending (ends : ending.Before text) :
    Peg.newline.run (ending.chars ++ text) = some text := by
  cases ends with
  | feed => exact Peg.run_newline_feed text
  | returnFeed => exact Peg.run_newline_returnFeed text
  | loneReturn alone => exact Peg.run_newline_loneReturn alone

theorem placedFrom_next (whole : Unbroken body) (ends : ending.Before text) (offset : Nat) :
    placedFrom offset (lines (body ++ ending.chars ++ text)) =
      followedBy (placedLine offset body)
        (placedFrom (offset + byteLength (body ++ ending.chars)) (lines text)) := by
  rw [lines_next whole ends, placedFrom_line]
  rfl

theorem placedFrom_last (whole : Unbroken body) (offset : Nat) :
    placedFrom offset (lines body) = placedLine offset body := by
  rw [lines_last whole, placedFrom_line]
  exact followedBy_nil (placedLine offset body)

theorem byteLength_feed (body : List Char) : byteLength (body ++ ['\n']) = byteLength body + 1 := by
  rw [byteLength_append]
  rfl

theorem readsOn_last (whole : Unbroken body) : ReadsOn body second := by
  intro offset
  have ended := placedFrom_next whole (.feed second) offset
  rw [LineEnd.chars, byteLength_feed, ← Nat.add_assoc, List.append_assoc] at ended
  rw [placedFrom_last whole]
  exact ended

theorem readsOn_next (whole : Unbroken body) (ends : ending.Before text)
    (still : ending.Before (text ++ '\n' :: second)) (later : ReadsOn text second) :
    ReadsOn (body ++ ending.chars ++ text) second := by
  intro offset
  have place : offset + byteLength (body ++ ending.chars) + byteLength text + 1 =
      offset + byteLength (body ++ ending.chars ++ text) + 1 := by
    rw [byteLength_append _ text, Nat.add_assoc offset]
  rw [List.append_assoc (body ++ ending.chars), placedFrom_next whole still,
    placedFrom_next whole ends, later, followedBy_assoc, place]

-- The return and the line feed end one line; between them there was an empty one.
theorem readsOn_return (whole : Unbroken body) : ReadsOn (body ++ ['\r']) second := by
  intro offset
  have together := placedFrom_next whole (.returnFeed second) offset
  have alone : LineEnd.Before .return [] := .loneReturn nofun
  have apart := placedFrom_next whole alone offset
  have none : placedFrom (offset + byteLength (body ++ ['\r'])) (lines []) = .ok [] :=
    placedFrom_last unbroken_nil _
  have place : byteLength (body ++ ['\r', '\n']) = byteLength (body ++ ['\r']) + 1 := by
    rw [← byteLength_feed, List.append_assoc]
    rfl
  rw [LineEnd.chars, none, followedBy_nil, List.append_nil] at apart
  rw [LineEnd.chars, place, ← Nat.add_assoc, List.append_assoc] at together
  rw [apart, List.append_assoc]
  exact together

-- The induction is on the lines of the first text. Only its last line end can change.
theorem placedFrom_joined (split : LineSplit first bodies) (second : List Char) :
    ReadsOn first second := by
  induction split with
  | last whole => exact readsOn_last whole
  | @feed body text _ whole _ ih =>
      simpa [LineEnd.chars] using readsOn_next whole (.feed text) (.feed _) ih
  | @returnFeed body text _ whole _ ih =>
      simpa [LineEnd.chars] using readsOn_next whole (.returnFeed text) (.returnFeed _) ih
  | @loneReturn body text _ whole alone _ ih =>
      cases text with
      | nil => exact readsOn_return whole
      | cons c rest =>
          have still : LineEnd.Before .return ((c :: rest) ++ '\n' :: second) := .loneReturn alone
          simpa [LineEnd.chars] using readsOn_next whole (.loneReturn alone) still ih

end Joining

section Texts

theorem placedLine_iff_wellFormed (offset : Nat) (body : List Char) :
    (∃ placed, placedLine offset body = .ok placed) ↔ WellFormed body := by
  constructor
  · rintro ⟨placed, found⟩
    rw [placedLine] at found
    split at found
    · contradiction
    · next form reads => exact ⟨_, lineText_of_read reads⟩
  · rintro ⟨command, form⟩
    rcases read_of_lineText form with ⟨read, reads, _⟩
    rw [placedLine, reads]
    exact ⟨_, rfl⟩

theorem placedFrom_iff_wellFormed (offset : Nat) (sourceLines : List SourceLine) :
    (∃ placed, placedFrom offset sourceLines = .ok placed) ↔
      ∀ body ∈ sourceLines.map SourceLine.body, WellFormed body := by
  induction sourceLines generalizing offset with
  | nil => simp [placedFrom]
  | cons line rest ih =>
      rw [List.map_cons, List.forall_mem_cons, ← placedLine_iff_wellFormed offset,
        ← ih (offset + byteLength line.chars), placedFrom_line]
      constructor
      · rintro ⟨placed, found⟩
        rcases followedBy_eq_ok_iff.mp found with ⟨earlier, later, here, there, _⟩
        exact ⟨⟨earlier, here⟩, later, there⟩
      · rintro ⟨⟨earlier, here⟩, later, there⟩
        exact ⟨_, followedBy_eq_ok_iff.mpr ⟨earlier, later, here, there, rfl⟩⟩

theorem program_iff_placedFrom (text : List Char) (offset : Nat) :
    Peg.program.run text = some [] ↔ ∃ placed, placedFrom offset (lines text) = .ok placed := by
  rw [program_iff_wellFormed (lineSplit_lines text), placedFrom_iff_wellFormed]

theorem toList_joined (first second : String) :
    (first ++ "\n" ++ second).toList = first.toList ++ '\n' :: second.toList := by
  simp

theorem placedFrom_joined_iff {first second : List Char} {placed : List Placed} :
    placedFrom 0 (lines (first ++ '\n' :: second)) = .ok placed ↔
      ∃ earlier later, placedFrom 0 (lines first) = .ok earlier ∧
        placedFrom 0 (lines second) = .ok later ∧
        placed = earlier ++ later.map (Placed.shift (byteLength first + 1)) := by
  have further := placedFrom_shift (byteLength first + 1) 0 (lines second)
  rw [placedFrom_joined (lineSplit_lines first) second, Nat.zero_add,
    ← Nat.add_zero (byteLength first + 1), further, followedBy_moved_eq_ok_iff]

theorem statements_joined_iff {distance : Nat} {first second : List Placed}
    {read : List Statement} :
    statements (first ++ second.map (Placed.shift distance)) = .ok read ↔
      ∃ earlier later, statements first = .ok earlier ∧ statements second = .ok later ∧
        read = earlier ++ later.map (Statement.shift distance) := by
  rw [statements_append, statements_shift, followedBy_moved_eq_ok_iff]

/-- Two texts with a line feed between them are read exactly when both of them are
read, and then as the statements of the first, unchanged, followed by those of the
second, with every span moved by the bytes of the first and one more. The rules of the
grammar, which know of no lines, take the joined text exactly when they take both. -/
theorem joined_parses_in_parts (first second : String) :
    (∀ read, parse (first ++ "\n" ++ second) = .ok read ↔
      ∃ earlier later, parse first = .ok earlier ∧ parse second = .ok later ∧
        read = earlier ++ later.map (Statement.shift (first.utf8ByteSize + 1))) ∧
    (Peg.program.run (first ++ "\n" ++ second).toList = some [] ↔
      Peg.program.run first.toList = some [] ∧ Peg.program.run second.toList = some []) := by
  have size : byteLength first.toList = first.utf8ByteSize := by
    rw [byteLength_eq_utf8ByteSize, String.ofList_toList]
  rw [toList_joined]
  constructor
  · intro read
    simp only [parse_eq_ok_iff, toList_joined, placedFrom_joined_iff, size]
    constructor
    · rintro ⟨_, ⟨front, back, here, there, rfl⟩, made⟩
      rcases statements_joined_iff.mp made with ⟨earlier, later, madeFront, madeBack, rfl⟩
      exact ⟨earlier, later, ⟨front, here, madeFront⟩, ⟨back, there, madeBack⟩, rfl⟩
    · rintro ⟨earlier, later, ⟨front, here, madeFront⟩, ⟨back, there, madeBack⟩, rfl⟩
      exact ⟨_, ⟨front, back, here, there, rfl⟩,
        statements_joined_iff.mpr ⟨earlier, later, madeFront, madeBack, rfl⟩⟩
  · simp only [program_iff_placedFrom _ 0, placedFrom_joined_iff]
    constructor
    · rintro ⟨_, front, back, here, there, rfl⟩
      exact ⟨⟨front, here⟩, back, there⟩
    · rintro ⟨⟨front, here⟩, back, there⟩
      exact ⟨_, front, back, here, there, rfl⟩

example : parse ("pop\r" ++ "\n" ++ " stop") =
    .ok [⟨.pop, ⟨0, 3⟩, none⟩, ⟨.stop, ⟨6, 10⟩, none⟩] := by
  rfl

end Texts

end Source

end GateMachine
