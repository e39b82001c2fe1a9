import GateMachine.Proofs.DisplayedPrograms
import GateMachine.Proofs.JoinedSources
import GateMachine.Proofs.LoadDiagnostics
import Mathlib.Data.String.Basic

/-!
The spans of a source that is read. `Tiled` lays a text out from its first byte to its
last: what no span marks is a blank, a line end or a comment, and nothing is left over.
The layout of a source gives such a tiling (`tiled_of_layout`), and its spans come in order
and do not meet (`Tiled.ordered`). What a span marks stands for itself: cut out and read
alone it is the same statement at the start of its text (`slice_parses_alone`).
-/

namespace GateMachine

/-- The part of a source that a span marks. -/
def Span.slice (source : String) (span : Span) : String :=
  String.Pos.Raw.extract source ⟨span.start⟩ ⟨span.stop⟩

namespace Source

section Tiles

/-- From byte `offset` on, a text is made of blanks, line ends, comments that run to the
ends of their lines, and what the spans mark. -/
inductive Tiled : Nat → List Char → List Span → Prop where
  | nil (offset : Nat) : Tiled offset [] []
  | blank {offset : Nat} {c : Char} {rest : List Char} {spans : List Span}
      (blank : c = ' ' ∨ c = '\t') (later : Tiled (offset + c.utf8Size) rest spans) :
      Tiled offset (c :: rest) spans
  | lineEnd {offset : Nat} {c : Char} {rest : List Char} {spans : List Span}
      (ends : c = '\n' ∨ c = '\r') (later : Tiled (offset + c.utf8Size) rest spans) :
      Tiled offset (c :: rest) spans
  | comment {offset : Nat} {note rest : List Char} {spans : List Span} (whole : Unbroken note)
      (ends : AtLineEnd rest)
      (later : Tiled (offset + byteLength ('/' :: '/' :: note)) rest spans) :
      Tiled offset ('/' :: '/' :: note ++ rest) spans
  | marked {offset : Nat} {text rest : List Char} {spans : List Span} (some : text ≠ [])
      (later : Tiled (offset + byteLength text) rest spans) :
      Tiled offset (text ++ rest) (⟨offset, offset + byteLength text⟩ :: spans)

variable {offset : Nat} {text rest : List Char} {spans : List Span}

/-- The first span ends before the second begins. -/
def Ordered (first second : Span) : Prop :=
  first.start < second.start ∧ first.stop ≤ second.start

theorem Tiled.start_le (tiled : Tiled offset text spans) :
    ∀ span ∈ spans, offset ≤ span.start := by
  induction tiled with
  | nil offset => simp
  | blank _ _ ih | lineEnd _ _ ih | comment _ _ _ ih =>
      intro span member
      exact Nat.le_trans (Nat.le_add_right _ _) (ih span member)
  | marked _ _ ih =>
      intro span member
      rcases List.mem_cons.mp member with rfl | later
      · exact Nat.le_refl _
      · exact Nat.le_trans (Nat.le_add_right _ _) (ih span later)

theorem Tiled.ordered (tiled : Tiled offset text spans) : spans.Pairwise Ordered := by
  induction tiled with
  | nil offset => exact List.Pairwise.nil
  | blank _ _ ih | lineEnd _ _ ih | comment _ _ _ ih => exact ih
  | marked some later ih =>
      apply List.Pairwise.cons _ ih
      intro span member
      have positive := byteLength_pos some
      have after := later.start_le span member
      exact ⟨Nat.lt_of_lt_of_le (Nat.lt_add_of_pos_right positive) after, after⟩

theorem tiled_blanks {lead : List Char} (blanks : Blanks lead)
    (later : Tiled (offset + byteLength lead) rest spans) : Tiled offset (lead ++ rest) spans := by
  induction lead generalizing offset with
  | nil => exact later
  | cons c lead ih =>
      rcases List.forall_mem_cons.mp blanks with ⟨here, others⟩
      apply Tiled.blank here
      apply ih others
      rw [Nat.add_assoc]
      exact later

theorem tiled_comment {comment : List Char} (written : Comment comment) (whole : Unbroken comment)
    (ends : AtLineEnd rest) (later : Tiled (offset + byteLength comment) rest spans) :
    Tiled offset (comment ++ rest) spans := by
  cases written with
  | absent => exact later
  | note text =>
      have note : Unbroken text := (unbroken_cons.mp (unbroken_cons.mp whole).2).2
      exact .comment note ends later

theorem tiled_lineEnd (ending : LineEnd)
    (later : Tiled (offset + byteLength ending.chars) rest spans) :
    Tiled offset (ending.chars ++ rest) spans := by
  cases ending with
  | feed => exact .lineEnd (.inl rfl) later
  | returnFeed => exact .lineEnd (.inr rfl) (.lineEnd (.inl rfl) later)
  | endOfText => exact later
  | _ => exact .lineEnd (.inr rfl) later

end Tiles

section Layouts

variable {before body text rest : List Char} {passage : Option Passage} {passages : List Passage}
  {spans : List Span}

def Passage.span (passage : Passage) : Span :=
  ⟨byteLength passage.before, byteLength (passage.before ++ passage.phrase.chars)⟩

theorem tiled_of_lineLayout (line : LineLayout before body passage) (whole : Unbroken body)
    (ends : AtLineEnd rest) (later : Tiled (byteLength (before ++ body)) rest spans) :
    Tiled (byteLength before) (body ++ rest) ((passage.map Passage.span).toList ++ spans) := by
  cases line with
  | @empty lead comment blanks ending =>
      rw [List.append_assoc]
      apply tiled_blanks blanks
      apply tiled_comment ending (unbroken_append.mp whole).2 ends
      simpa [Nat.add_assoc] using later
  | @instruction lead trail comment phrase command blanks parted written trailing ending =>
      rcases phrase.chars_eq_cons with ⟨c, others, starts, _⟩
      have some : phrase.chars ≠ [] := by simp [starts]
      have unbroken : Unbroken comment := (unbroken_append.mp whole).2
      have rest : Tiled (byteLength before + byteLength lead + byteLength phrase.chars)
          (trail ++ (comment ++ rest)) spans := by
        apply tiled_blanks trailing
        apply tiled_comment ending unbroken ends
        simpa [Nat.add_assoc] using later
      have tiles := tiled_blanks blanks (Tiled.marked some rest)
      simpa [Passage.span, Nat.add_assoc] using tiles

/-- A layout leaves nothing of its text out. -/
theorem tiled_of_layout (layout : Layout before text passages) :
    Tiled (byteLength before) text (passages.map Passage.span) := by
  induction layout with
  | @last before body passage whole line =>
      have tiles := tiled_of_lineLayout line whole stops_nil (.nil (byteLength (before ++ body)))
      cases passage <;> simpa using tiles
  | @next before body rest ending passage passages whole line ends later ih =>
      rw [byteLength_append (before ++ body)] at ih
      have behind := tiled_lineEnd ending ih
      have atEnd := atLineEnd_of_newline (run_newline_ending ends)
      have tiles := tiled_of_lineLayout line whole atEnd behind
      cases passage <;> simpa using tiles

end Layouts

section Slices

variable {source : String} {first middle last : List Char} {passage : Passage}
  {statement : Statement}

theorem slice_of_append (parts : source.toList = first ++ middle ++ last) :
    Span.slice source ⟨byteLength first, byteLength (first ++ middle)⟩ = String.ofList middle := by
  have size (text : List Char) : String.utf8Len text = byteLength text := by
    rw [byteLength_eq_utf8ByteSize, String.utf8ByteSize_ofList]
  have cut := String.extract_of_valid first middle last
  rw [← parts, String.ofList_toList, size, size, ← byteLength_append] at cut
  exact cut

theorem Passage.In.slice_eq (inside : passage.In source.toList) :
    passage.span.slice source = String.ofList passage.phrase.chars := by
  rcases inside.within with ⟨after, parts⟩
  exact slice_of_append parts

theorem Passage.In.operand_slice_eq (inside : passage.In source.toList) :
    passage.operandSpan.slice source = String.ofList passage.phrase.operand := by
  rcases inside.within with ⟨after, parts⟩
  have split : passage.before ++ passage.phrase.chars =
      passage.before ++ passage.phrase.head ++ passage.phrase.operand := by
    simp [Phrase.chars]
  rw [split] at parts
  rw [Passage.operandSpan, split]
  exact slice_of_append parts

theorem statement_eq {placed : Placed} (made : placed.statement = .ok statement) :
    statement.span = placed.span ∧
      statement.operandSpan =
        (form placed.phrase.opcode).operand?.map fun _ => placed.operandSpan := by
  unfold Placed.statement at made
  split at made
  · cases made
    exact ⟨rfl, rfl⟩
  · contradiction
  · contradiction

theorem span_placed (passage : Passage) : passage.placed.span = passage.span := by
  simp [Placed.span, Passage.placed, Passage.span]

theorem span_of_statement (made : passage.placed.statement = .ok statement) :
    statement.span = passage.span := by
  rw [(statement_eq made).1, span_placed]

/-- What a passage holds is a source with one passage, at its start. -/
theorem layout_alone (inside : passage.In source.toList) :
    Layout [] (String.ofList passage.phrase.chars).toList
      [⟨[], passage.phrase, passage.command⟩] := by
  have line : LineLayout [] ([] ++ passage.phrase.chars ++ [] ++ [])
      (some ⟨[] ++ [], passage.phrase, passage.command⟩) :=
    .instruction blanks_nil inside.parted inside.written blanks_nil .absent
  simp only [List.nil_append, List.append_nil] at line
  rw [String.toList_ofList]
  exact .last (unbroken_of_instructionText inside.written) line

theorem slice_parses_alone (inside : passage.In source.toList)
    (made : passage.placed.statement = .ok statement) :
    ∃ alone, parse (statement.span.slice source) = .ok [alone] ∧
      alone.span = ⟨0, (statement.span.slice source).utf8ByteSize⟩ ∧
      alone.shift statement.span.start = statement := by
  have slice : statement.span.slice source = String.ofList passage.phrase.chars := by
    rw [span_of_statement made, inside.slice_eq]
  have start : statement.span.start = byteLength passage.before := by
    rw [span_of_statement made]
    rfl
  have further := statement_shift (byteLength passage.before) ⟨0, passage.phrase⟩
  have same : Placed.shift (byteLength passage.before) ⟨0, passage.phrase⟩ = passage.placed := rfl
  rw [same, made] at further
  cases read : Placed.statement ⟨0, passage.phrase⟩ with
  | error error =>
      rw [read] at further
      cases further
  | ok alone =>
      rw [read] at further
      have moved : [statement] = [alone.shift (byteLength passage.before)] := Except.ok.inj further
      have only : statements [⟨0, passage.phrase⟩] = .ok [alone] := by simp only [statements, read]
      refine ⟨alone, ?_, ?_, ?_⟩
      · rw [slice, parse_of_layout (layout_alone inside)]
        exact only
      · rw [slice, ← byteLength_eq_utf8ByteSize, (statement_eq read).1]
        simp [Placed.span]
      · rw [start]
        exact (List.cons.inj moved).1.symm

end Slices

section Operands

variable {source : String} {passage : Passage} {statement : Statement}

theorem opcode_of_instruction {phrase : Phrase} {instruction : Instruction Line}
    (meaning : phrase.instruction = .ok instruction) : instruction.opcode = phrase.opcode := by
  unfold Phrase.instruction at meaning
  cases spelled : phrase.opcode with
  | jump | ifNZero =>
      simp only [spelled, form] at meaning
      split at meaning
      · cases meaning
        rfl
      · contradiction
  | push | replace | mod | eq =>
      simp only [spelled, form] at meaning
      split at meaning
      · cases meaning
        rfl
      · contradiction
  | _ =>
      simp only [spelled, form] at meaning
      cases meaning
      rfl

/-- The operations that are written with an operand. -/
def operandOpcodes : List Opcode := [.push, .replace, .mod, .eq, .jump, .ifNZero, .print]

theorem operand?_ne_none_iff {opcode : Opcode} :
    (form opcode).operand? ≠ none ↔ opcode ∈ operandOpcodes := by
  cases opcode <;> simp [form, Form.operand?, operandOpcodes]

theorem operandSpan_ne_none_iff (made : passage.placed.statement = .ok statement) :
    statement.operandSpan ≠ none ↔ statement.instruction.opcode ∈ operandOpcodes := by
  rw [(statement_eq made).2, opcode_of_instruction (instruction_of_statement made),
    ← operand?_ne_none_iff, ne_eq, Option.map_eq_none_iff]

theorem gap_of_operand (inside : passage.In source.toList)
    (wanted : (form passage.phrase.opcode).operand? ≠ none) : Gap passage.phrase.gap := by
  rcases split_of_parted inside.parted inside.written stops_nil with ⟨splits, _⟩
  rcases split_cases splits with ⟨_, ⟨unwanted, _, _⟩ | ⟨_, _, _, apart, _⟩⟩
  · exact absurd unwanted wanted
  · exact apart

theorem quoted_of_print {phrase : Phrase} {written after : List Char} {text : String}
    (splits : Phrase.split written = .ok (phrase, after))
    (prints : phrase.instruction = .ok (.print text)) :
    ∃ body, phrase.operand = '"' :: body ++ ['"'] ∧ StringBody body text.toList := by
  have printing := opcode_of_instruction prints
  rcases phrase with ⟨opcode, gap, operand⟩
  cases printing
  have value : text = Phrase.textValue operand := by
    injection prints with same
    injection same with same
    exact same.symm
  rcases split_cases splits with ⟨_, ⟨unwanted, _, _⟩ | ⟨kind, wanted, _, _, found⟩⟩
  · contradiction
  · cases wanted
    simp only [OperandKind.split?] at found
    split at found
    · next body rest quoted =>
        cases found
        refine ⟨body, rfl, ?_⟩
        rw [value, textValue_quote, String.toList_ofList]
        exact stringBody_of_split? quoted
    · contradiction

end Operands

section Statements

variable {source : String} {passage : Passage} {statement : Statement} {read : List Statement}

/-- The operand of a statement stands behind its mnemonic and some blanks and reaches to its
end. A text that is printed stands there with both of its quotes. -/
structure OperandStands (source : String) (statement : Statement) (operand : Span) : Prop where
  within : operand.Within source
  nonempty : operand.start < operand.stop
  behind : statement.span.start + statement.instruction.opcode.mnemonic.utf8ByteSize < operand.start
  stop_eq : operand.stop = statement.span.stop
  apart : ∃ gap, Gap gap ∧ (statement.span.slice source).toList =
    statement.instruction.opcode.mnemonic.toList ++ gap ++ (operand.slice source).toList
  quoted : ∀ text, statement.instruction = .print text →
    ∃ body, (operand.slice source).toList = '"' :: body ++ ['"'] ∧ StringBody body text.toList

/-- A statement stands in its source: its span marks some whole characters, which read
alone are the same statement at their start, and only what has an operand marks one. -/
structure Stands (source : String) (statement : Statement) : Prop where
  within : statement.span.Within source
  nonempty : statement.span.start < statement.span.stop
  alone : ∃ alone, parse (statement.span.slice source) = .ok [alone] ∧
    alone.span = ⟨0, (statement.span.slice source).utf8ByteSize⟩ ∧
    alone.shift statement.span.start = statement
  operand_iff : statement.operandSpan ≠ none ↔ statement.instruction.opcode ∈ operandOpcodes
  operand : ∀ operand ∈ statement.operandSpan, OperandStands source statement operand

theorem operandStands (inside : passage.In source.toList)
    (made : passage.placed.statement = .ok statement) {operand : Span}
    (present : operand ∈ statement.operandSpan) : OperandStands source statement operand := by
  have meaning := instruction_of_statement made
  have opcode : statement.instruction.opcode = passage.phrase.opcode :=
    opcode_of_instruction meaning
  rw [(statement_eq made).2] at present
  rcases Option.map_eq_some_iff.mp present with ⟨kind, wanted, same⟩
  rw [operandSpan_placed] at same
  subst same
  have wants : (form passage.phrase.opcode).operand? ≠ none :=
    Option.ne_none_iff_exists'.mpr ⟨kind, wanted⟩
  have gap := gap_of_operand inside wants
  have some := operand_of_wanted inside wants
  have span := span_of_statement made
  have mnemonic : byteLength passage.phrase.opcode.mnemonic.toList =
      passage.phrase.opcode.mnemonic.utf8ByteSize := by
    rw [byteLength_eq_utf8ByteSize, String.ofList_toList]
  have operandSize := byteLength_pos some
  have gapSize := byteLength_pos gap.1
  refine ⟨inside.operandSpan_within, ?_, ?_, ?_, ?_, ?_⟩
  · simp only [Passage.operandSpan, Phrase.chars, byteLength_append]
    omega
  · rw [span, opcode, ← mnemonic]
    simp only [Passage.operandSpan, Passage.span, Phrase.head, byteLength_append]
    omega
  · rw [span]
    rfl
  · rw [span, inside.slice_eq, inside.operand_slice_eq, opcode]
    refine ⟨passage.phrase.gap, gap, ?_⟩
    simp [Phrase.chars, Phrase.head]
  · intro text prints
    rw [inside.operand_slice_eq, String.toList_ofList]
    rw [prints] at meaning
    exact quoted_of_print (split_of_parted inside.parted inside.written stops_nil).1 meaning

theorem stands_of_passage (inside : passage.In source.toList)
    (made : passage.placed.statement = .ok statement) : Stands source statement where
  within := by
    rcases inside.within with ⟨after, parts⟩
    rw [span_of_statement made]
    exact within_of_append parts
  nonempty := by
    rcases passage.phrase.chars_eq_cons with ⟨c, others, starts, _⟩
    have some : passage.phrase.chars ≠ [] := by simp [starts]
    have positive := byteLength_pos some
    rw [span_of_statement made]
    simp only [Passage.span, byteLength_append]
    omega
  alone := slice_parses_alone inside made
  operand_iff := operandSpan_ne_none_iff made
  operand := fun _ => operandStands inside made

theorem map_statement_of_ok {placed : List Placed} (made : statements placed = .ok read) :
    placed.map Placed.statement = read.map .ok := by
  induction placed generalizing read with
  | nil =>
      cases made
      rfl
  | cons first rest ih =>
      simp only [statements] at made
      split at made
      · contradiction
      · next statement here =>
          split at made
          · contradiction
          · next later there =>
              cases made
              rw [List.map_cons, List.map_cons, here, ih there]

theorem layout_of_parse (parsed : parse source = .ok read) :
    ∃ passages, Layout [] source.toList passages ∧ Gives passages read := by
  have split := lineSplit_lines source.toList
  have acceptable := parses_iff_acceptable.mp ⟨read, parsed⟩
  rcases layout_of_wellFormed split (fun body there => (acceptable body there).1) []
    with ⟨passages, layout⟩
  rw [parse_of_layout layout] at parsed
  have given := map_statement_of_ok parsed
  rw [List.map_map] at given
  exact ⟨passages, layout, given⟩

theorem Gives.spans {passages : List Passage} (gives : Gives passages read) :
    passages.map Passage.span = read.map Statement.span := by
  induction passages generalizing read with
  | nil =>
      cases List.map_eq_nil_iff.mp gives.symm
      rfl
  | cons passage rest ih =>
      rcases List.map_eq_cons_iff.mp gives.symm with ⟨statement, later, rfl, here, others⟩
      rw [List.map_cons, List.map_cons, span_of_statement here.symm, ih others.symm]

/-- The spans of a source that is read tile it. Each marks some whole characters that read
alone are the same statement, with its operand, if it has one, at the end of it; they
come in order and do not meet; and all that they leave out are blanks, line ends and
comments. -/
theorem spans_tile_source (source : String) (read : List Statement)
    (parsed : parse source = .ok read) :
    (∀ statement ∈ read, Stands source statement) ∧
      (read.map Statement.span).Pairwise Ordered ∧
      Tiled 0 source.toList (read.map Statement.span) := by
  rcases layout_of_parse parsed with ⟨passages, layout, gives⟩
  have tiles := tiled_of_layout layout
  rw [gives.spans] at tiles
  refine ⟨?_, tiles.ordered, tiles⟩
  intro statement member
  rcases gives.passage_of_mem member with ⟨passage, there, made⟩
  exact stands_of_passage (layout.passage_in passage there) made

/-- Characters of several bytes in a comment and in a text, and all three line ends. -/
theorem wide_characters_are_tiled :
    parse "// é\r\n\tprint  \"ü\\n\"//\rpop \n" =
        .ok [⟨.print "ü\n", ⟨8, 21⟩, some ⟨15, 21⟩⟩, ⟨.pop, ⟨24, 27⟩, none⟩] ∧
      (∀ statement ∈ [⟨.print "ü\n", ⟨8, 21⟩, some ⟨15, 21⟩⟩, ⟨.pop, ⟨24, 27⟩, none⟩],
        Stands "// é\r\n\tprint  \"ü\\n\"//\rpop \n" statement) ∧
      [⟨8, 21⟩, ⟨24, 27⟩].Pairwise Ordered ∧
      Tiled 0 "// é\r\n\tprint  \"ü\\n\"//\rpop \n".toList [⟨8, 21⟩, ⟨24, 27⟩] :=
  ⟨rfl, spans_tile_source _ _ rfl⟩

end Statements

end Source

end GateMachine
