import GateMachine.Proofs.FailedRules
import GateMachine.Proofs.SourceTiles

/-!
What the rules of the grammar take. A match leaves a tree: which rules took part in it, and
which bytes each of them took. `Builds` collects this and forgets what was given up again. A
text is matched in one way only (`Builds.unique`), so it is enough to build its trees once:
line by line they are those of its phrases, with the operation and the operand of each
(`builds_program_iff`). From these phrases `parse` goes on, so the grammar and the reader of
lines agree on more than which texts they take (`parse_exact`).
-/

namespace GateMachine

namespace Source

theorem layout_of_placed {text : List Char} {placed : List Placed}
    (reads : placedFrom 0 (lines text) = .ok placed) :
    ∃ passages, Layout [] text passages ∧ placed = passages.map Passage.placed := by
  have forms := (placedFrom_iff_wellFormed 0 (lines text)).mp ⟨placed, reads⟩
  rcases layout_of_wellFormed (lineSplit_lines text) forms [] with ⟨passages, layout⟩
  have also := placedFrom_of_layout layout
  rw [byteLength_nil, reads] at also
  cases also
  exact ⟨passages, layout, rfl⟩

namespace Grammar

section Matches

/-- The expression takes `part`, which begins at byte `start`, if `rest` follows it; the
rules that take part in this leave these trees, in the order of the text. -/
inductive Builds : Grammar → Nat → List Char → List Char → List Tree → Prop where
  | silent {item : Peg} {start : Nat} {part rest : List Char}
      (taken : item.run (part ++ rest) = some rest) : Builds (.silent item) start part rest []
  | rule {production : Production} {item : Grammar} {start : Nat} {part rest : List Char}
      {inside : List Tree} (taken : Builds item start part rest inside) :
      Builds (.rule production item) start part rest
        [.node production ⟨start, start + byteLength part⟩ inside]
  | seq {first second : Grammar} {start : Nat} {part more rest : List Char}
      {trees others : List Tree} (here : Builds first start part (more ++ rest) trees)
      (there : Builds second (start + byteLength part) more rest others) :
      Builds (.seq first second) start (part ++ more) rest (trees ++ others)
  | left {first second : Grammar} {start : Nat} {part rest : List Char} {trees : List Tree}
      (taken : Builds first start part rest trees) :
      Builds (.choice first second) start part rest trees
  | right {first second : Grammar} {start : Nat} {part rest : List Char} {trees : List Tree}
      (stuck : first.peg.run (part ++ rest) = none)
      (taken : Builds second start part rest trees) :
      Builds (.choice first second) start part rest trees
  | done {item : Grammar} {start : Nat} {rest : List Char} (stuck : item.peg.run rest = none) :
      Builds (.star item) start [] rest []
  | again {item : Grammar} {start : Nat} {part more rest : List Char} {trees others : List Tree}
      (nonempty : part ≠ []) (here : Builds item start part (more ++ rest) trees)
      (there : Builds (.star item) (start + byteLength part) more rest others) :
      Builds (.star item) start (part ++ more) rest (trees ++ others)

variable {grammar : Grammar} {start : Nat} {part rest other left : List Char}
  {trees others : List Tree}

/-- Trees are left by a match, and by nothing else. -/
theorem Builds.run_eq (taken : Builds grammar start part rest trees) :
    grammar.peg.run (part ++ rest) = some rest := by
  induction taken with
  | silent taken => exact taken
  | rule _ ih => exact ih
  | seq _ _ first second =>
      rw [List.append_assoc]
      exact Peg.run_seq_iff.mpr ⟨_, first, second⟩
  | left _ ih => rw [peg, Peg.run_choice, ih, Option.some_or]
  | right stuck _ ih => rw [peg, Peg.run_choice, stuck, Option.none_or, ih]
  | done stuck => exact Peg.run_star_of_none stuck
  | again nonempty _ _ first second =>
      have shorter := List.length_pos_iff.mpr nonempty
      rw [List.append_assoc, peg, Peg.run_star_of_some first (by simpa using shorter)]
      exact second

theorem Builds.same_part (taken : Builds grammar start part rest trees)
    (also : Builds grammar start other left others) (same : part ++ rest = other ++ left) :
    part = other ∧ rest = left := by
  have ends := taken.run_eq
  rw [same, also.run_eq] at ends
  cases ends
  exact ⟨List.append_cancel_right same, rfl⟩

/-- There is one way only in which a text is matched. -/
theorem Builds.unique (taken : Builds grammar start part rest trees)
    (also : Builds grammar start other left others) (same : part ++ rest = other ++ left) :
    trees = others := by
  induction taken generalizing other left others with
  | silent _ =>
      cases also
      rfl
  | rule taken ih =>
      cases also with
      | rule also =>
          rcases taken.same_part also same with ⟨rfl, _⟩
          rw [ih also same]
  | seq here _ first second =>
      cases also with
      | seq hereToo thereToo =>
          rw [List.append_assoc, List.append_assoc] at same
          rcases here.same_part hereToo same with ⟨rfl, behind⟩
          rw [first hereToo same, second thereToo behind]
  | left taken ih =>
      cases also with
      | left also => exact ih also same
      | right stuck _ =>
          rw [← same, taken.run_eq] at stuck
          contradiction
  | right stuck taken ih =>
      cases also with
      | left also =>
          rw [same, also.run_eq] at stuck
          contradiction
      | right _ also => exact ih also same
  | done stuck =>
      cases also with
      | done _ => rfl
      | again _ hereToo _ =>
          rw [List.nil_append, List.append_assoc] at same
          rw [same, hereToo.run_eq] at stuck
          contradiction
  | again _ here _ first second =>
      rw [List.append_assoc] at same
      cases also with
      | done stuck =>
          rw [← List.nil_append left, ← same, here.run_eq] at stuck
          contradiction
      | again _ hereToo thereToo =>
          rw [List.append_assoc] at same
          rcases here.same_part hereToo same with ⟨rfl, behind⟩
          rw [first hereToo same, second thereToo behind]

end Matches

section Phrases

variable {kind : OperandKind} {phrase : Phrase} {opcode : Opcode} {text written after : List Char}

theorem builds_quoted {body : List Char} (found : Quoted.split? text = some (body, after))
    (start : Nat) :
    Builds quoted start (['"'] ++ (body ++ ['"'])) after
      [operandTree .quoted ⟨start, start + byteLength (['"'] ++ (body ++ ['"']))⟩] := by
  have splits := splitBody_of_stringBody (stringBody_of_split? found) (splitBody_quote after)
  have opening : Builds (.silent (.literal "\"")) start ['"'] ((body ++ ['"']) ++ after) [] :=
    .silent (Peg.run_literal_iff.mpr rfl)
  have inside : Builds (.rule .text (.silent (.star .textChar))) (start + 1) body (['"'] ++ after)
      [.node .text ⟨start + 1, start + 1 + byteLength body⟩ []] := by
    apply Builds.rule
    apply Builds.silent
    rw [Peg.run_star_textChar, List.singleton_append, splits]
  have closing : Builds (.silent (.literal "\"")) (start + 1 + byteLength body) ['"'] after [] :=
    .silent (Peg.run_literal_iff.mpr rfl)
  have stop : start + byteLength (['"'] ++ (body ++ ['"'])) - 1 = start + 1 + byteLength body := by
    have quote : byteLength ['"'] = 1 := rfl
    simp only [byteLength_append, quote]
    omega
  rw [operandTree, stop]
  exact .rule (opening.seq (inside.seq closing))

theorem builds_operand (found : kind.split? text = some (written, after)) (start : Nat) :
    Builds (operand kind) start written after
      [operandTree kind ⟨start, start + byteLength written⟩] := by
  have taken := Peg.run_operandRule_iff.mpr ⟨written, found⟩
  rw [← OperandKind.split?_append found] at taken
  cases kind with
  | word => exact .rule (.silent taken)
  | line => exact .rule (.silent taken)
  | quoted =>
      simp only [OperandKind.split?] at found
      split at found
      · next body rest quoted =>
          cases found
          exact builds_quoted quoted start
      · contradiction

theorem builds_withOperand (wanted : (form phrase.opcode).operand? = some kind)
    (apart : Gap phrase.gap) (starts : Stops isBlank text)
    (found : kind.split? text = some (phrase.operand, after)) (start : Nat) :
    Builds (withOperand phrase.opcode kind) start phrase.chars after
      [Placed.tree ⟨start, phrase⟩] := by
  rw [← OperandKind.split?_append found] at starts
  have mnemonic : Builds (.silent (.literal phrase.opcode.mnemonic)) start
      phrase.opcode.mnemonic.toList ((phrase.gap ++ phrase.operand) ++ after) [] :=
    .silent (Peg.run_literal_iff.mpr rfl)
  have blanks : Builds (.silent .separator) (start + byteLength phrase.opcode.mnemonic.toList)
      phrase.gap (phrase.operand ++ after) [] :=
    .silent ((Peg.run_plus_iff Peg.run_whiteSpace).mpr
      ⟨phrase.gap, apart.1, blanks_iff.mp apart.2, starts, rfl⟩)
  have operand := builds_operand found
    (start + byteLength phrase.opcode.mnemonic.toList + byteLength phrase.gap)
  have place : start + byteLength phrase.opcode.mnemonic.toList + byteLength phrase.gap =
      start + byteLength phrase.head := by
    rw [Phrase.head, byteLength_append, Nat.add_assoc]
  have stop : start + byteLength phrase.head + byteLength phrase.operand =
      start + byteLength phrase.chars := by
    rw [Phrase.chars, byteLength_append, Nat.add_assoc]
  have chars : phrase.opcode.mnemonic.toList ++ (phrase.gap ++ phrase.operand) = phrase.chars :=
    (List.append_assoc _ _ _).symm
  have inside := mnemonic.seq (blanks.seq operand)
  rw [chars, place, stop] at inside
  simp only [Placed.tree, wanted]
  exact .rule inside

theorem builds_operation (splits : Phrase.split text = .ok (phrase, after)) (start : Nat) :
    Builds (operation phrase.opcode) start phrase.chars after [Placed.tree ⟨start, phrase⟩] := by
  rcases split_cases splits with ⟨_, ⟨bare, _, _⟩ | ⟨kind, wanted, _, apart, found⟩⟩
  · have taken := Peg.run_operation_iff.mpr ⟨phrase, rfl, splits⟩
    rw [Peg.operation_of_bare bare, ← Phrase.split_append splits] at taken
    simp only [operation, Placed.tree, bare]
    exact .rule (.silent taken)
  · have tree := builds_withOperand wanted apart (stops_dropWhile isBlank _) found start
    simpa only [operation, wanted] using tree

theorem run_operation_of_other (splits : Phrase.split text = .ok (phrase, after))
    (other : phrase.opcode ≠ opcode) : (operation opcode).peg.run text = none := by
  rw [peg_operation]
  cases taken : (Peg.operation opcode).run text with
  | none => rfl
  | some rest =>
      rcases Peg.run_operation_iff.mp taken with ⟨also, same, again⟩
      rw [splits] at again
      cases again
      exact absurd same other

-- The operations before this one are tried and take nothing.
theorem builds_choices {opcodes : List Opcode} (listed : phrase.opcode ∈ opcodes)
    (splits : Phrase.split text = .ok (phrase, after)) (start : Nat) :
    Builds (choices (opcodes.map operation)) start phrase.chars after
      [Placed.tree ⟨start, phrase⟩] := by
  induction opcodes with
  | nil => contradiction
  | cons opcode opcodes ih =>
      by_cases here : phrase.opcode = opcode
      · subst here
        exact .left (builds_operation splits start)
      · have stuck := run_operation_of_other splits here
        rw [← Phrase.split_append splits] at stuck
        exact .right stuck (ih (List.mem_of_ne_of_mem here listed))

theorem builds_instruction (splits : Phrase.split text = .ok (phrase, after)) (start : Nat) :
    Builds instruction start phrase.chars after [Placed.tree ⟨start, phrase⟩] :=
  builds_choices (by cases phrase.opcode <;> simp) splits start

end Phrases

section Lines

variable {before body last rest text : List Char} {passage : Option Passage}
  {passages : List Passage} {ending : Grammar} {start : Nat} {trees others : List Tree}

theorem builds_skip {part : List Char} (skips : skipped (part ++ rest) = rest) (start : Nat) :
    Builds (.silent .skip) start part rest [] := by
  apply Builds.silent
  rw [run_skip, skips]

/-- The line is skipped up to its instruction, and then up to its end. -/
theorem builds_line (line : LineLayout before body passage) (whole : Unbroken body)
    (ends : AtLineEnd (last ++ rest))
    (closes : Builds ending (byteLength before + byteLength body) last rest trees) :
    Builds (.seq (.silent .skip) (spaced (optional instruction) ending)) (byteLength before)
      (body ++ last) rest ((passage.toList.map fun passage => passage.placed.tree) ++ trees) := by
  cases line with
  | @empty lead comment blanks written =>
      have skips : skipped (lead ++ comment ++ (last ++ rest)) = last ++ rest := by
        rw [List.append_assoc]
        exact skipped_rest blanks written (unbroken_append.mp whole).2 ends
      have nothing : Builds (optional instruction)
          (byteLength before + byteLength (lead ++ comment)) [] (last ++ rest) [] :=
        .right (run_instruction_atLineEnd ends) (.silent rfl)
      have still : Builds (.silent .skip) (byteLength before + byteLength (lead ++ comment) + 0)
          [] (last ++ rest) [] := builds_skip (skipped_atLineEnd ends) _
      exact (builds_skip skips _).seq (nothing.seq (still.seq closes))
  | @instruction lead trail comment phrase command blanks parted written trailing noted =>
      have idents : Stops isIdent (trail ++ comment ++ last ++ rest) := by
        rw [List.append_assoc]
        exact stops_append (stops_isIdent_of_trail trailing noted)
          (ends.stops fun _ => not_endsLine_of_isIdent)
      have splits := (split_of_parted parted written idents).1
      have found : Builds (optional instruction) (byteLength before + byteLength lead)
          phrase.chars (trail ++ comment ++ last ++ rest) _ := .left (builds_instruction splits _)
      have leads : skipped (lead ++ (phrase.chars ++ (trail ++ comment ++ last) ++ rest)) =
          phrase.chars ++ (trail ++ comment ++ last) ++ rest := by
        rw [skipped_blanks blanks, List.append_assoc, skipped_phrase]
      have trails : skipped (trail ++ comment ++ (last ++ rest)) = last ++ rest := by
        rw [List.append_assoc]
        exact skipped_rest trailing noted (unbroken_append.mp whole).2 ends
      have place : byteLength before + byteLength (lead ++ phrase.chars ++ trail ++ comment) =
          byteLength before + byteLength lead + byteLength phrase.chars +
            byteLength (trail ++ comment) := by
        simp only [byteLength_append, Nat.add_assoc]
      have parts : lead ++ phrase.chars ++ trail ++ comment ++ last =
          lead ++ (phrase.chars ++ (trail ++ comment ++ last)) := by simp
      rw [place] at closes
      rw [parts, Option.toList_some, List.map_singleton, Passage.placed, byteLength_append]
      exact (builds_skip leads _).seq (found.seq ((builds_skip trails _).seq closes))

theorem builds_turn {part : List Char} (nonempty : part ≠ [])
    (turn : Builds (.seq (.silent .skip) endedLine) start part (text ++ rest) trees)
    (later : Builds loop (start + byteLength part) text rest others) :
    Builds loop start (part ++ text) rest (trees ++ others) := by
  cases later with
  | seq here there =>
      rw [List.append_assoc] at turn
      rw [Nat.add_assoc, ← byteLength_append] at there
      rw [← List.append_assoc, ← List.append_assoc]
      exact .seq (.again nonempty turn here) there

theorem builds_lastLine (taken : Builds (.seq (.silent .skip) lastLine) start text [] trees) :
    Builds loop start text [] trees := by
  have reached : Peg.endOfInput.run (round (text ++ [])) = some [] :=
    (run_line .endOfInput (text ++ [])).symm.trans taken.run_eq
  have stuck : (Grammar.seq (.silent .skip) endedLine).peg.run (text ++ []) = none := by
    refine (run_line .newline (text ++ [])).trans ?_
    rw [(Peg.run_endOfInput_iff.mp reached).1]
    rfl
  exact .seq (.done stuck) taken

/-- The end of the text, which is a rule of its own. -/
def endTree (stop : Nat) : Tree := .node .endOfInput ⟨stop, stop⟩ []

-- The induction follows the lines: each is one turn of the loop, and the last one ends it.
theorem builds_loop (layout : Layout before text passages) :
    Builds loop (byteLength before) text []
      ((passages.map fun passage => passage.placed.tree) ++
        [endTree (byteLength (before ++ text))]) := by
  induction layout with
  | @last before body passage whole line =>
      have ends : AtLineEnd ([] ++ []) := stops_nil
      have closes : Builds (.rule .endOfInput (.silent .endOfInput))
          (byteLength before + byteLength body) [] [] [endTree _] := .rule (.silent rfl)
      have taken := builds_line line whole ends closes
      rw [List.append_nil, ← byteLength_append] at taken
      exact builds_lastLine taken
  | @next before body rest ending passage passages whole line ends later ih =>
      have newline := run_newline_ending ends
      have closes : Builds (.silent .newline) (byteLength before + byteLength body)
          ending.chars rest [] := .silent newline
      have turn := builds_line line whole (atLineEnd_of_newline newline) closes
      have nonempty : body ++ ending.chars ≠ [] := by
        cases ends <;> simp [LineEnd.chars]
      have place : byteLength (before ++ body ++ ending.chars) =
          byteLength before + byteLength (body ++ ending.chars) := by
        rw [List.append_assoc, byteLength_append]
      have all : before ++ body ++ ending.chars ++ rest =
          before ++ (body ++ ending.chars ++ rest) := by simp
      rw [place, all] at ih
      rw [← List.append_nil rest] at turn
      have taken := builds_turn nonempty turn ih
      rw [List.append_nil, ← List.append_assoc, ← List.map_append] at taken
      exact taken

/-- The rule for programs behind its start: the first line is begun before the others are. -/
def firstLine : Grammar :=
  .seq (.silent .skip) (.seq (spacedStar endedLine) (.seq (.silent .skip) lastLine))

-- A first line that does not end is read again, from where it was skipped to before.
theorem builds_unended {lead line : List Char}
    (stuck : (Grammar.seq (.silent .skip) endedLine).peg.run (lead ++ (line ++ rest)) = none)
    (skip : Builds (.silent .skip) start lead (line ++ rest) others)
    (read : Builds lastLine (start + byteLength lead) line rest trees) :
    Builds firstLine start (lead ++ line) rest (others ++ trees) := by
  have skips : Peg.skip.run (lead ++ (line ++ rest)) = some (line ++ rest) := skip.run_eq
  have unended : endedLine.peg.run (line ++ rest) = none := by
    rw [peg, Peg.run_seq, peg, skips] at stuck
    exact stuck
  have none : Builds (spacedStar endedLine) (start + byteLength lead) [] (line ++ rest) [] := by
    refine .right ?_ (.silent rfl)
    rw [List.nil_append, peg, Peg.run_seq, unended]
    rfl
  have stays : skipped ([] ++ (line ++ rest)) = line ++ rest := by
    rw [run_skip, Option.some_inj] at skips
    rw [List.nil_append, ← skips, skipped_skipped]
  exact skip.seq (none.seq ((builds_skip stays _).seq read))

theorem builds_ended {lead line more last : List Char} {nothing here final : List Tree}
    (skip : Builds (.silent .skip) start lead (line ++ (more ++ (last ++ rest))) nothing)
    (read : Builds endedLine (start + byteLength lead) line (more ++ (last ++ rest)) here)
    (later : Builds endedLines (start + byteLength (lead ++ line)) more (last ++ rest) others)
    (ends : Builds (.seq (.silent .skip) lastLine) (start + byteLength (lead ++ line ++ more))
      last rest final) :
    Builds firstLine start (lead ++ line ++ more ++ last) rest
      (nothing ++ here ++ others ++ final) := by
  have parts : line ++ (more ++ (last ++ rest)) = line ++ more ++ last ++ rest := by simp
  have place : start + byteLength (lead ++ line ++ more) =
      start + byteLength lead + byteLength (line ++ more) := by
    simp only [byteLength_append, Nat.add_assoc]
  rw [byteLength_append, ← Nat.add_assoc] at later
  rw [parts] at skip
  rw [place] at ends
  have lines : Builds (spacedStar endedLine) (start + byteLength lead) (line ++ more)
      (last ++ rest) (here ++ others) := .left (read.seq later)
  have taken : Builds firstLine start _ rest _ := skip.seq (lines.seq ends)
  simpa only [List.append_assoc] using taken

theorem builds_firstLine (taken : Builds loop start text rest trees) :
    Builds firstLine start text rest trees := by
  cases taken with
  | seq here there =>
      cases here with
      | done stuck =>
          cases there with
          | @seq _ _ _ lead line _ _ _ skip read =>
              rw [List.append_assoc lead] at stuck
              exact (builds_unended stuck skip read :)
      | again _ turn others =>
          cases turn with
          | seq skip line => exact builds_ended skip line others there

theorem builds_program (layout : Layout [] text passages) :
    Builds program 0 text [] [programTree text (passages.map Passage.placed)] := by
  have start : Builds (.silent .empty) 0 [] (text ++ []) [] := .silent rfl
  have taken : Builds program 0 text [] _ :=
    .rule (start.seq (builds_firstLine (builds_loop layout)))
  rw [Nat.zero_add] at taken
  rw [programTree, List.map_map]
  exact taken

theorem rest_of_program (taken : Peg.program.run text = some rest) : rest = [] := by
  rw [run_program] at taken
  rcases Peg.run_seq_iff.mp taken with ⟨between, _, ended⟩
  have last := (run_line .endOfInput between).symm.trans ended
  exact (Peg.run_endOfInput_iff.mp last).2

/-- The rule for programs takes whole texts only, and leaves the trees of what is read of
their lines. -/
theorem builds_program_iff :
    Builds program 0 text rest trees ↔
      rest = [] ∧ ∃ placed, placedFrom 0 (lines text) = .ok placed ∧
        trees = [programTree text placed] := by
  have found {placed : List Placed} (reads : placedFrom 0 (lines text) = .ok placed) :
      Builds program 0 text [] [programTree text placed] := by
    rcases layout_of_placed reads with ⟨passages, layout, rfl⟩
    exact builds_program layout
  constructor
  · intro taken
    have accepted : Peg.program.run (text ++ rest) = some rest := taken.run_eq
    obtain rfl := rest_of_program accepted
    rw [List.append_nil] at accepted
    rcases (program_iff_placedFrom text 0).mp accepted with ⟨placed, reads⟩
    exact ⟨rfl, placed, reads, taken.unique (found reads) rfl⟩
  · rintro ⟨rfl, placed, reads, rfl⟩
    exact found reads

end Lines

end Grammar

section Texts

/-- What is read of a text stands in it: the spans mark the phrase and its operand. -/
structure Placed.In (source : String) (placed : Placed) : Prop where
  phrase : placed.span.slice source = String.ofList placed.phrase.chars
  operand : placed.operandSpan.slice source = String.ofList placed.phrase.operand

theorem placed_in {source : String} {placed : List Placed}
    (reads : placedFrom 0 (lines source.toList) = .ok placed) :
    ∀ found ∈ placed, found.In source := by
  rcases layout_of_placed reads with ⟨passages, layout, rfl⟩
  intro found member
  rcases List.mem_map.mp member with ⟨passage, listed, rfl⟩
  have inside := layout.passage_in passage listed
  constructor
  · rw [span_placed, inside.slice_eq]
    rfl
  · rw [operandSpan_placed, inside.operand_slice_eq]
    rfl

/-- A text has exactly one splitting into lines. It is accepted exactly when every
line has the form of a line and every number fits, and the instructions that are
then read are exactly those that the lines denote, in their order. The rules of the
grammar, which know of no lines, take exactly the texts whose lines all have the form.
What they take is a tree of operations with their operands, and these are, line by line,
the phrases that `parse` makes its instructions of. -/
theorem parse_exact (source : String) :
    ∃ bodies, (∀ other, LineSplit source.toList other ↔ other = bodies) ∧
      ((∃ read, parse source = .ok read) ↔
        ∀ body ∈ bodies, WellFormed body ∧
          ∀ command, LineText body (some command) → command.Fits) ∧
      (Peg.program.run source.toList = some [] ↔ ∀ body ∈ bodies, WellFormed body) ∧
      Grammar.program.peg = Peg.program ∧
      (∀ trees, Grammar.program.Builds 0 source.toList [] trees ↔
        ∃ placed, placedFrom 0 (lines source.toList) = .ok placed ∧
          parse source = statements placed ∧ (∀ found ∈ placed, found.In source) ∧
          trees = [programTree source.toList placed]) ∧
      ∀ instructions,
        (∃ read, parse source = .ok read ∧ read.map Statement.instruction = instructions) ↔
          Denotes bodies instructions := by
  refine ⟨(lines source.toList).map SourceLine.body, ?_, parses_iff_acceptable, ?_,
    Grammar.peg_program, ?_, ?_⟩
  · intro other
    exact lineSplit_iff_lines
  · exact program_iff_wellFormed (lineSplit_lines source.toList)
  · intro trees
    rw [Grammar.builds_program_iff]
    constructor
    · rintro ⟨_, placed, reads, same⟩
      exact ⟨placed, reads, by simp only [parse, reads], placed_in reads, same⟩
    · rintro ⟨placed, reads, _, _, same⟩
      exact ⟨rfl, placed, reads, same⟩
  · intro instructions
    exact parses_iff_denotes

end Texts

end Source

end GateMachine
