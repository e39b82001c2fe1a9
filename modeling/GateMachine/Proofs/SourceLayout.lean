import GateMachine.Proofs.SourceReading

/-!
Where the instructions of a source stand. A `Passage` is an instruction text
with all that comes before it, so that its place and the place of its operand
are lengths of text. `Layout` relates a text to its passages, line by line and
without a reader. A text whose lines all have the form of a line has exactly one
layout (`layout_of_wellFormed`, `layout_unique`), and reading places each phrase
where the layout has it (`placedFrom_of_layout`).
-/

namespace GateMachine

namespace Source

section Places

theorem byteLength_eq_utf8ByteSize (text : List Char) :
    byteLength text = (String.ofList text).utf8ByteSize := by
  induction text with
  | nil => rfl
  | cons c rest ih =>
      rw [byteLength_cons, String.ofList_cons, String.utf8ByteSize_append,
        String.utf8ByteSize_singleton, ih]

theorem byteLength_pos {text : List Char} (some : text ≠ []) : 0 < byteLength text := by
  cases text with
  | nil => contradiction
  | cons c others =>
      have positive := c.utf8Size_pos
      rw [byteLength_cons]
      omega

/-- The end of the first part of a text is the place of a character, or the end of the text. -/
theorem isValid_byteLength {source : String} {before after : List Char}
    (parts : source.toList = before ++ after) :
    String.Pos.Raw.IsValid source ⟨byteLength before⟩ := by
  rw [String.Pos.Raw.isValid_iff_exists_append]
  refine ⟨String.ofList before, String.ofList after, ?_, ?_⟩
  · rw [← String.ofList_append, ← parts, String.ofList_toList]
  · rw [byteLength_eq_utf8ByteSize]
    rfl

theorem append_unique_of_byteLength {first second after other : List Char}
    (same : first ++ after = second ++ other) (length : byteLength first = byteLength second) :
    first = second := by
  induction first generalizing second with
  | nil =>
      cases second with
      | nil => rfl
      | cons c rest =>
          have positive := c.utf8Size_pos
          simp only [byteLength_nil, byteLength_cons] at length
          omega
  | cons c rest ih =>
      cases second with
      | nil =>
          have positive := c.utf8Size_pos
          simp only [byteLength_nil, byteLength_cons] at length
          omega
      | cons d others =>
          obtain ⟨rfl, later⟩ := List.cons.inj same
          have shorter : byteLength rest = byteLength others := by
            simpa using length
          rw [ih later shorter]

end Places

section Phrases

variable {phrase : Phrase} {command : Command} {after : List Char}

/-- A phrase is a mnemonic alone, or blanks and an operand follow it, the blanks
being all that stand between the two. -/
inductive Phrase.Parted : Phrase → Prop where
  | bare (opcode : Opcode) : Parted ⟨opcode, [], []⟩
  | operand (opcode : Opcode) {gap : List Char} {c : Char} {rest : List Char} (apart : Gap gap)
      (starts : c ≠ ' ' ∧ c ≠ '\t') : Parted ⟨opcode, gap, c :: rest⟩

theorem stops_isIdent_of_gap {gap : List Char} (apart : Gap gap) (rest : List Char) :
    Stops isIdent (gap ++ rest) := by
  cases gap with
  | nil => exact absurd rfl apart.1
  | cons blank gap =>
      exact stops_cons (not_isIdent_of_isBlank (blanks_iff.mp apart.2 blank (by simp)))

theorem not_isBlank_iff {c : Char} : isBlank c = false ↔ c ≠ ' ' ∧ c ≠ '\t' := by
  simp [isBlank]

-- The letters of a phrase give back its parts: its mnemonic ends at the first
-- blank, and its gap where the blanks end.
theorem Phrase.Parted.parts (parted : phrase.Parted) :
    opcode? (phrase.chars.takeWhile isIdent) = some phrase.opcode ∧
      phrase.gap = (phrase.chars.dropWhile isIdent).takeWhile isBlank ∧
      phrase.operand = (phrase.chars.dropWhile isIdent).dropWhile isBlank := by
  have letters : ∀ c ∈ phrase.opcode.mnemonic.toList, isIdent c = true :=
    fun c letter => isIdent_of_mem_mnemonic letter
  cases parted with
  | bare opcode =>
      have spelled : Phrase.chars ⟨opcode, [], []⟩ = opcode.mnemonic.toList ++ [] := by
        simp [Phrase.chars, Phrase.head]
      have stops : Stops isIdent [] := stops_nil
      rw [spelled, takeWhile_run letters stops, dropWhile_run letters stops]
      exact ⟨opcode?_mnemonic opcode, rfl, rfl⟩
  | @operand opcode gap c rest apart starts =>
      have spelled : Phrase.chars ⟨opcode, gap, c :: rest⟩ =
          opcode.mnemonic.toList ++ (gap ++ c :: rest) := by
        simp [Phrase.chars, Phrase.head]
      have stops := stops_isIdent_of_gap apart (c :: rest)
      have ends : Stops isBlank (c :: rest) := stops_cons (not_isBlank_iff.mpr starts)
      have blanks := blanks_iff.mp apart.2
      rw [spelled, takeWhile_run letters stops, dropWhile_run letters stops,
        takeWhile_run blanks ends, dropWhile_run blanks ends]
      exact ⟨opcode?_mnemonic opcode, rfl, rfl⟩

theorem Phrase.Parted.unique {other : Phrase} (parted : phrase.Parted) (also : other.Parted)
    (same : phrase.chars = other.chars) : phrase = other := by
  obtain ⟨opcode, gap, operand⟩ := parted.parts
  obtain ⟨otherOpcode, otherGap, otherOperand⟩ := also.parts
  rw [same, otherOpcode] at opcode
  rw [same, ← otherGap] at gap
  rw [same, ← otherOperand] at operand
  calc
    phrase = ⟨phrase.opcode, phrase.gap, phrase.operand⟩ := rfl
    _ = ⟨other.opcode, other.gap, other.operand⟩ := by
      rw [Option.some.inj opcode, gap, operand]
    _ = other := rfl

theorem split?_starts {kind : OperandKind} {text operand : List Char}
    (found : kind.split? text = some (operand, after)) (stops : Stops isBlank text) :
    ∃ c rest, operand = c :: rest ∧ isBlank c = false := by
  have whole := OperandKind.split?_append found
  cases operand with
  | cons c rest =>
      refine ⟨c, rest, rfl, stops c ?_⟩
      rw [← whole]
      rfl
  | nil =>
      -- Neither a number nor a truth value nor a quotation is empty.
      cases kind with
      | word | line =>
          simp only [OperandKind.split?] at found
          split at found
          · next spelled =>
              have empty : text.takeWhile isIdent = [] :=
                congrArg Prod.fst (Option.some.inj found)
              rw [empty] at spelled
              contradiction
          · contradiction
      | quoted =>
          simp only [OperandKind.split?] at found
          split at found
          · simp at found
          · contradiction

theorem parted_of_split {text : List Char} (found : Phrase.split text = .ok (phrase, after)) :
    phrase.Parted := by
  obtain ⟨_, ⟨_, only, _⟩ | ⟨kind, _, _, apart, operandFound⟩⟩ := split_cases found
  · rw [only]
    exact .bare _
  · obtain ⟨c, rest, operand, starts⟩ := split?_starts operandFound (stops_dropWhile _ _)
    obtain ⟨opcode, gap, _⟩ := phrase
    cases operand
    exact .operand opcode apart (not_isBlank_iff.mp starts)

/-- An instruction text that no letter follows is split off with the parts it has. -/
theorem split_of_parted (parted : phrase.Parted) (written : InstructionText phrase.chars command)
    (stops : Stops isIdent after) :
    Phrase.split (phrase.chars ++ after) = .ok (phrase, after) ∧ phrase.command = command := by
  obtain ⟨other, splits, spelled, means⟩ := split_of_instructionText written stops
  cases (parted_of_split splits).unique parted spelled
  exact ⟨splits, means⟩

end Phrases

section Layouts

/-- An instruction text, its parts and what it asks for, after all that comes before
it in a source. -/
structure Passage where
  before : List Char
  phrase : Phrase
  command : Command

namespace Passage

/-- The bytes of the operand. -/
def operandSpan (passage : Passage) : Span :=
  ⟨byteLength (passage.before ++ passage.phrase.head),
    byteLength (passage.before ++ passage.phrase.chars)⟩

def placed (passage : Passage) : Placed := ⟨byteLength passage.before, passage.phrase⟩

end Passage

/-- The passage of a line, if there is one, after all that comes before the line. -/
inductive LineLayout (before : List Char) : List Char → Option Passage → Prop where
  | empty {lead comment : List Char} (blanks : Blanks lead) (ending : Comment comment) :
      LineLayout before (lead ++ comment) none
  | instruction {lead trail comment : List Char} {phrase : Phrase} {command : Command}
      (blanks : Blanks lead) (parted : phrase.Parted)
      (written : InstructionText phrase.chars command) (trailing : Blanks trail)
      (ending : Comment comment) :
      LineLayout before (lead ++ phrase.chars ++ trail ++ comment)
        (some ⟨before ++ lead, phrase, command⟩)

/-- The line end is whole: a return is not the first half of a return and a feed. -/
inductive LineEnd.Before : LineEnd → List Char → Prop where
  | feed (rest : List Char) : Before .feed rest
  | returnFeed (rest : List Char) : Before .returnFeed rest
  | loneReturn {rest : List Char} (alone : rest.head? ≠ some '\n') : Before .return rest

/-- The passages of a text in their order, after all that comes before the text. -/
inductive Layout : List Char → List Char → List Passage → Prop where
  | last {before body : List Char} {passage : Option Passage} (whole : Unbroken body)
      (line : LineLayout before body passage) : Layout before body passage.toList
  | next {before body rest : List Char} {ending : LineEnd} {passage : Option Passage}
      {passages : List Passage} (whole : Unbroken body) (line : LineLayout before body passage)
      (ends : ending.Before rest) (later : Layout (before ++ body ++ ending.chars) rest passages) :
      Layout before (body ++ ending.chars ++ rest) (passage.toList ++ passages)

variable {before body text : List Char} {bodies : List (List Char)} {passages : List Passage}

theorem lineLayout_of_wellFormed (form : WellFormed body) (before : List Char) :
    ∃ passage, LineLayout before body passage := by
  obtain ⟨command, line⟩ := form
  cases line with
  | empty blanks ending => exact ⟨none, .empty blanks ending⟩
  | instruction blanks written trailing ending =>
      obtain ⟨phrase, splits, rfl, _⟩ := split_of_instructionText written stops_nil
      exact ⟨_, .instruction blanks (parted_of_split splits) written trailing ending⟩

theorem layout_line {rest : List Char} {ending : LineEnd} (whole : Unbroken body)
    (form : WellFormed body) (ends : ending.Before rest)
    (later : ∀ before, ∃ passages, Layout before rest passages) (before : List Char) :
    ∃ passages, Layout before (body ++ ending.chars ++ rest) passages := by
  obtain ⟨passage, line⟩ := lineLayout_of_wellFormed form before
  obtain ⟨passages, others⟩ := later (before ++ body ++ ending.chars)
  exact ⟨_, .next whole line ends others⟩

-- The induction is on the lines, each after the text of those before it.
theorem layout_of_wellFormed (split : LineSplit text bodies)
    (forms : ∀ body ∈ bodies, WellFormed body) (before : List Char) :
    ∃ passages, Layout before text passages := by
  induction split generalizing before with
  | last whole =>
      obtain ⟨passage, line⟩ := lineLayout_of_wellFormed (forms _ List.mem_cons_self) before
      exact ⟨_, .last whole line⟩
  | @feed body text bodies whole _ ih =>
      obtain ⟨form, others⟩ := List.forall_mem_cons.mp forms
      simpa [LineEnd.chars] using layout_line whole form (.feed text) (ih others) before
  | @returnFeed body text bodies whole _ ih =>
      obtain ⟨form, others⟩ := List.forall_mem_cons.mp forms
      simpa [LineEnd.chars] using layout_line whole form (.returnFeed text) (ih others) before
  | loneReturn whole alone _ ih =>
      obtain ⟨form, others⟩ := List.forall_mem_cons.mp forms
      simpa [LineEnd.chars] using layout_line whole form (.loneReturn alone) (ih others) before

end Layouts

section Contents

variable {source before body text : List Char} {passage : Passage} {passages : List Passage}

/-- The passage is a part of the source, and what it holds is an instruction text in its parts. -/
structure Passage.In (source : List Char) (passage : Passage) : Prop where
  within : ∃ after, source = passage.before ++ passage.phrase.chars ++ after
  parted : passage.phrase.Parted
  written : InstructionText passage.phrase.chars passage.command

theorem Passage.In.command_eq (inside : passage.In source) :
    passage.phrase.command = passage.command :=
  (split_of_parted inside.parted inside.written stops_nil).2

theorem Passage.In.unique {other : Passage} (inside : passage.In source) (also : other.In source)
    (same : passage.placed = other.placed) : passage = other := by
  have phrase : passage.phrase = other.phrase := congrArg Placed.phrase same
  have command : passage.command = other.command := by
    rw [← inside.command_eq, ← also.command_eq, phrase]
  obtain ⟨after, parts⟩ := inside.within
  obtain ⟨otherAfter, otherParts⟩ := also.within
  rw [parts, List.append_assoc, List.append_assoc] at otherParts
  -- Equal places in one source have equal texts before them.
  have before := append_unique_of_byteLength otherParts (congrArg Placed.start same)
  calc
    passage = ⟨passage.before, passage.phrase, passage.command⟩ := rfl
    _ = ⟨other.before, other.phrase, other.command⟩ := by rw [before, phrase, command]
    _ = other := rfl

theorem LineLayout.passage_in (line : LineLayout before body (some passage)) (rest : List Char) :
    passage.In (before ++ body ++ rest) := by
  cases line with
  | @instruction lead trail comment phrase command _ parted written _ _ =>
      exact ⟨⟨trail ++ comment ++ rest, by simp⟩, parted, written⟩

theorem Layout.passage_in (layout : Layout before text passages) :
    ∀ passage ∈ passages, passage.In (before ++ text) := by
  induction layout with
  | last whole line =>
      intro passage member
      rw [Option.mem_toList] at member
      cases member
      simpa using line.passage_in []
  | @next before body rest ending _ _ whole line ends later ih =>
      intro passage member
      rcases List.mem_append.mp member with here | there
      · rw [Option.mem_toList] at here
        cases here
        simpa using line.passage_in (ending.chars ++ rest)
      · simpa using ih passage there

end Contents

section Reading

variable {before body rest text : List Char} {passages : List Passage}

theorem lines_next {ending : LineEnd} (whole : Unbroken body) (ends : ending.Before rest) :
    lines (body ++ ending.chars ++ rest) = ⟨body, ending⟩ :: lines rest := by
  cases ends with
  | feed => simpa [LineEnd.chars] using lines_append whole (lines_feed rest)
  | returnFeed => simpa [LineEnd.chars] using lines_append whole (lines_returnFeed rest)
  | loneReturn alone => simpa [LineEnd.chars] using lines_append whole (lines_loneReturn alone)

theorem placedFrom_cons {offset : Nat} {line : SourceLine} {others : List SourceLine}
    {form : LineForm} {placed : List Placed} (reads : LineForm.read line.body = .ok form)
    (later : placedFrom (offset + byteLength line.chars) others = .ok placed) :
    placedFrom offset (line :: others) =
      .ok ((form.phrase.map (Placed.mk (offset + byteLength form.lead))).toList ++ placed) := by
  simp only [placedFrom, reads, later]
  cases form.phrase <;> rfl

theorem placed_of_lineLayout {passage : Option Passage}
    (line : LineLayout before body passage) :
    ∃ form, LineForm.read body = .ok form ∧
      form.phrase.map (Placed.mk (byteLength before + byteLength form.lead)) =
        passage.map Passage.placed := by
  cases line with
  | empty blanks ending =>
      obtain ⟨note, reads⟩ := read_empty blanks ending
      exact ⟨_, reads, rfl⟩
  | instruction blanks parted written trailing ending =>
      obtain ⟨splits, _⟩ := split_of_parted parted written (stops_isIdent_of_trail trailing ending)
      obtain ⟨note, reads⟩ := read_phrase blanks splits trailing ending
      exact ⟨_, reads, by simp [Passage.placed]⟩

/-- Reading finds the passages of a layout, each at the length of what is before it. -/
theorem placedFrom_of_layout (layout : Layout before text passages) :
    placedFrom (byteLength before) (lines text) = .ok (passages.map Passage.placed) := by
  induction layout with
  | @last before body passage whole line =>
      obtain ⟨form, reads, same⟩ := placed_of_lineLayout line
      rw [lines_last whole, placedFrom_cons reads rfl, same]
      cases passage <;> rfl
  | @next before body rest ending passage passages whole line ends later ih =>
      obtain ⟨form, reads, same⟩ := placed_of_lineLayout line
      have offset : byteLength before + byteLength (SourceLine.chars ⟨body, ending⟩) =
          byteLength (before ++ body ++ ending.chars) := by
        simp [SourceLine.chars]
      rw [lines_next whole ends, placedFrom_cons reads (by rw [offset]; exact ih), same]
      cases passage <;> rfl

end Reading

end Source

end GateMachine
