import GateMachine.Proofs.DepartedLines
import GateMachine.Proofs.PassageStatements

/-!
What is said about a source that does not load. The form of all lines is looked at
first, then whether numbers fit, then where jumps lead; the first offence of the
first kind is reported alone, at exactly the operand that is to blame
(`load_reports_first_offence`). Positions in malformed lines come from what was
read of them (`malformed_position`), the others from the layout of the source.
-/

namespace GateMachine

/-- Whole characters of a source. -/
structure Span.Within (source : String) (span : Span) : Prop where
  ordered : span.start ≤ span.stop
  inside : span.stop ≤ source.utf8ByteSize
  startValid : String.Pos.Raw.IsValid source ⟨span.start⟩
  stopValid : String.Pos.Raw.IsValid source ⟨span.stop⟩

namespace Source

section Spans

variable {source : String} {passage : Passage}

theorem within_of_append {first middle last : List Char}
    (parts : source.toList = first ++ middle ++ last) :
    Span.Within source ⟨byteLength first, byteLength (first ++ middle)⟩ where
  ordered := by simp
  inside := by
    have whole := byteLength_eq_utf8ByteSize source.toList
    rw [String.ofList_toList, parts, byteLength_append (first ++ middle)] at whole
    exact Nat.le.intro whole
  startValid := isValid_byteLength (parts.trans (List.append_assoc first middle last))
  stopValid := isValid_byteLength parts

theorem Passage.In.operandSpan_within (inside : passage.In source.toList) :
    passage.operandSpan.Within source := by
  obtain ⟨after, parts⟩ := inside.within
  have split : passage.before ++ passage.phrase.chars =
      passage.before ++ passage.phrase.head ++ passage.phrase.operand := by
    simp [Phrase.chars]
  rw [split] at parts
  rw [Passage.operandSpan, split]
  exact within_of_append parts

end Spans

section Offences

/-- The first item for which something holds. -/
def FirstSuch {α : Type} (holds : α → Prop) (items : List α) (item : α) : Prop :=
  ∃ earlier later, items = earlier ++ item :: later ∧ holds item ∧ ∀ other ∈ earlier, ¬ holds other

theorem exists_firstSuch {α : Type} {holds : α → Prop} {items : List α}
    (present : ∃ item ∈ items, holds item) : ∃ item, FirstSuch holds items item := by
  classical
  have found : (items.find? fun item => decide (holds item)).isSome = true := by
    simpa using present
  obtain ⟨item, here⟩ := Option.isSome_iff_exists.mp found
  obtain ⟨held, earlier, later, split, before⟩ := List.find?_eq_some_iff_append.mp here
  exact ⟨item, earlier, later, split, by simpa using held, by simpa using before⟩

-- The lines before the first malformed one are whole, and of that one a part was read.
theorem exists_departure {sourceLines : List SourceLine}
    (malformed : ∃ line ∈ sourceLines, ¬ WellFormed line.body) :
    ∃ finished line later fault left, sourceLines = finished ++ line :: later ∧
      (∀ done ∈ finished, WellFormed done.body) ∧ ¬ WellFormed line.body ∧
      LineForm.read line.body = .error fault ∧ line.body = fault.before ++ left ∧
      Departs fault.before left := by
  obtain ⟨line, finished, later, split, bad, before⟩ := exists_firstSuch malformed
  have forms : ∀ done ∈ finished, WellFormed done.body :=
    fun done there => Classical.not_not.mp (before done there)
  cases reads : LineForm.read line.body with
  | ok form => exact absurd ⟨_, lineText_of_read reads⟩ bad
  | error fault =>
      obtain ⟨left, parts, departs⟩ := departs_of_read reads
      exact ⟨finished, line, later, fault, left, split, forms, bad, reads, parts, departs⟩

variable {source : String} {passages : List Passage} {read : List Statement}

theorem parse_of_layout (layout : Layout [] source.toList passages) :
    parse source = statements (passages.map Passage.placed) := by
  have found := placedFrom_of_layout layout
  rw [byteLength_nil] at found
  simp only [parse, found]

/-- The passages give these statements, one each. -/
def Gives (passages : List Passage) (read : List Statement) : Prop :=
  passages.map (fun passage => passage.placed.statement) = read.map .ok

theorem Gives.passage_of_mem (gives : Gives passages read) {statement : Statement}
    (member : statement ∈ read) :
    ∃ passage ∈ passages, passage.placed.statement = .ok statement := by
  have image : Except.ok statement ∈ read.map (Except.ok (ε := SourceError)) :=
    List.mem_map.mpr ⟨statement, member, rfl⟩
  rw [← gives] at image
  exact List.mem_map.mp image

theorem Gives.split {earlier later : List Passage} {passage : Passage}
    (gives : Gives (earlier ++ passage :: later) read) :
    ∃ before statement after, read = before ++ statement :: after ∧ Gives earlier before ∧
      passage.placed.statement = .ok statement := by
  unfold Gives at gives
  rw [List.map_append, List.map_cons] at gives
  obtain ⟨before, rest, rfl, first, others⟩ := List.map_eq_append_iff.mp gives.symm
  obtain ⟨statement, after, rfl, here, _⟩ := List.map_eq_cons_iff.mp others
  exact ⟨before, statement, after, rfl, first.symm, here.symm⟩

theorem Gives.reaches (gives : Gives passages read) {text : List Char} {len : Nat}
    (inside : ∀ passage ∈ passages, passage.In text)
    (reaches : ∀ passage ∈ passages, passage.command.Reaches len) :
    ∀ instruction ∈ read.map Statement.instruction, instruction.Reaches len := by
  intro instruction member
  obtain ⟨statement, there, rfl⟩ := List.mem_map.mp member
  obtain ⟨passage, here, made⟩ := gives.passage_of_mem there
  exact (reaches_of_statement (inside passage here) made).mpr (reaches passage here)

end Offences

section Loading

variable {source : String} {passages : List Passage}

-- A line without form hides the numbers before it, and a number the jumps before it.
example : ∃ error, parse "push 16\njump" = .error error ∧ error.kind.code = "P001" :=
  ⟨_, rfl, rfl⟩

example : parse "jump 3\npush 16" = .error ⟨.invalidWord "16", ⟨12, 14⟩⟩ := rfl

end Loading

end Source

end GateMachine
