import GateMachine.Proofs.ListingLabels

/-!
Different programs have different listings. A line is read from its front: past the blanks
a mark goes on to its colon, and a mnemonic to the space behind it; the rest is the
operand, or the number of the line that a jump leads to (`row_injective`). Labels say nothing
that these numbers do not, so the two listings need not even number them alike.
-/

namespace GateMachine

open Source (Stops stops_nil stops_cons append_unique_of_stops)

namespace Text

theorem ne_of_notMem {stop : Char} {text : List Char} (absent : stop ∉ text) :
    ∀ c ∈ text, (c != stop) = true := by
  intro c member
  exact bne_iff_ne.mpr fun same => absent (same ▸ member)

/-- A text parts in one way only into what stands before the first stop and the rest. -/
theorem append_unique_at {stop : Char} {front rest other tail : String}
    (free : stop ∉ front.toList) (starts : Stops (· != stop) rest.toList)
    (otherFree : stop ∉ other.toList) (otherStarts : Stops (· != stop) tail.toList)
    (same : front ++ rest = other ++ tail) : front = other ∧ rest = tail := by
  have chars : front.toList ++ rest.toList = other.toList ++ tail.toList := by
    rw [← String.toList_append, same, String.toList_append]
  have ⟨fronts, rests⟩ := append_unique_of_stops (ne_of_notMem free) starts
    (ne_of_notMem otherFree) otherStarts chars
  exact ⟨String.toList_inj.mp fronts, String.toList_inj.mp rests⟩

theorem notMem_toString {c : Char} (notDigit : c.isDigit = false) (number : Nat) :
    c ∉ (toString number).toList := by
  intro member
  have digit := (Source.digits_toString number).2 c member
  rw [notDigit] at digit
  contradiction

theorem toString_injective {first second : Nat} (same : toString first = toString second) :
    first = second := by
  rw [← Source.numeral_toString first, ← Source.numeral_toString second, same]

end Text

open Text (append_unique_at notMem_toString toString_injective)

section Operands

theorem Quoted.quote_injective {first second : String}
    (same : Quoted.quote first = Quoted.quote second) : first = second := by
  have escaped : Quoted.escape first.toList = Quoted.escape second.toList := by
    simpa [Quoted.quote, String.ofList_inj] using same
  have read := congrArg Quoted.value escaped
  rw [Quoted.value_escape, Quoted.value_escape] at read
  exact String.toList_inj.mp read

theorem Word.decimal_injective {first second : Word} (same : first.decimal = second.decimal) :
    first = second :=
  Word.value_injective (toString_injective same)

theorem Address.position_injective {first second : Address}
    (same : first.position = second.position) : first = second := by
  cases first
  cases second
  simpa [Address.position, UInt64.toNat_inj] using same

theorem Opcode.mnemonic_injective {first second : Opcode}
    (same : first.mnemonic = second.mnemonic) : first = second := by
  have read := Source.opcode?_mnemonic first
  rw [same, Source.opcode?_mnemonic second] at read
  exact (Option.some.inj read).symm

end Operands

namespace Program

variable {labels others : List Nat} {position : Nat} {first second : Instruction Address}

section Texts

/-- What is written behind the mnemonic. -/
def rowTail (labels : List Nat) (instruction : Instruction Address) : String :=
  match instruction.target? with
  | some address =>
      jumpText ((label? labels address.position).getD address.text) address.lineNumber
  | none =>
      match instruction.operandText? Address.text with
      | some operand => " " ++ operand
      | none => ""

theorem rowText_eq_append (labels : List Nat) (instruction : Instruction Address) :
    rowText labels instruction = instruction.opcode.mnemonic ++ rowTail labels instruction := by
  cases named : instruction.target? with
  | some address => simp only [rowText_of_target labels named, rowTail, named]
  | none =>
      simp only [rowText_of_plain labels named, Instruction.text, rowTail, named]
      cases instruction.operandText? Address.text with
      | none => exact (String.append_empty).symm
      | some operand => exact String.append_assoc

theorem stops_rowTail (labels : List Nat) (instruction : Instruction Address) :
    Stops (· != ' ') (rowTail labels instruction).toList := by
  unfold rowTail
  split
  · simpa [jumpText] using stops_cons (by decide)
  · split
    · simpa using stops_cons (by decide)
    · exact stops_nil

theorem comma_notMem_label (labels : List Nat) (address : Address) :
    ',' ∉ ((label? labels address.position).getD address.text).toList := by
  cases found : label? labels address.position with
  | none => simpa [Address.text] using notMem_toString (by decide) address.position
  | some label =>
      obtain ⟨number, _, rfl⟩ := Option.map_eq_some_iff.mp found
      simpa using notMem_toString (by decide) number

/-- Where a jump leads is told by the number of the line, whatever the label. -/
theorem jumpText_injective {label other : String} {line next : Nat}
    (free : ',' ∉ label.toList) (otherFree : ',' ∉ other.toList)
    (same : jumpText label line = jumpText other next) : line = next := by
  simp only [jumpText, String.append_assoc, String.append_right_inj] at same
  have rests := (append_unique_at free (by simpa using stops_cons (by decide)) otherFree
    (by simpa using stops_cons (by decide)) same).2
  simp only [String.append_right_inj, String.append_left_inj] at rests
  exact toString_injective rests

theorem eq_of_jumpTails {address other : Address}
    (same : jumpText ((label? labels address.position).getD address.text) address.lineNumber =
      jumpText ((label? others other.position).getD other.text) other.lineNumber) :
    address = other := by
  have lines := jumpText_injective (comma_notMem_label labels address)
    (comma_notMem_label others other) same
  exact Address.position_injective (Nat.succ.inj lines)

theorem eq_of_opcode_of_tail (opcode : first.opcode = second.opcode)
    (tails : rowTail labels first = rowTail others second) : first = second := by
  cases first <;> cases second <;> cases opcode
  case push.push.refl | replace.replace.refl | mod.mod.refl | eq.eq.refl =>
    rw [Word.decimal_injective ((String.append_right_inj " ").mp tails)]
  case jump.jump.refl | ifNZero.ifNZero.refl =>
    rw [eq_of_jumpTails tails]
  case print.print.refl =>
    rw [Quoted.quote_injective ((String.append_right_inj " ").mp tails)]
  all_goals rfl

theorem space_notMem_mnemonic (opcode : Opcode) : ' ' ∉ opcode.mnemonic.toList := by
  intro space
  have ident := Source.isIdent_of_mem_mnemonic space
  contradiction

theorem rowText_injective (same : rowText labels first = rowText others second) :
    first = second := by
  rw [rowText_eq_append, rowText_eq_append] at same
  have ⟨mnemonics, tails⟩ := append_unique_at (space_notMem_mnemonic _) (stops_rowTail labels first)
    (space_notMem_mnemonic _) (stops_rowTail others second) same
  exact eq_of_opcode_of_tail (Opcode.mnemonic_injective mnemonics) tails

/-- A row text begins with a small letter, so neither with a blank nor with a label. -/
theorem rowText_starts (labels : List Nat) (instruction : Instruction Address) :
    ∃ c, (rowText labels instruction).toList.head? = some c ∧ c.isLower = true := by
  have starts : ∃ c, instruction.opcode.mnemonic.toList.head? = some c ∧ c.isLower = true := by
    cases instruction.opcode <;> exact ⟨_, rfl, by decide⟩
  obtain ⟨c, first, lower⟩ := starts
  refine ⟨c, ?_, lower⟩
  rw [rowText_eq_append, String.toList_append, List.head?_append, first, Option.some_or]

end Texts

section Rows

/-- What is left of a line, its number apart, without blanks and a mark at its front. -/
def unmarked (line : List Char) : List Char :=
  match line.dropWhile (· == ' ') with
  | 'L' :: label => (label.dropWhile (· != ':')).drop 3
  | text => text

theorem dropWhile_padLeft (width : Nat) (text : String) (rest : List Char) :
    ((Column.padLeft width text).toList ++ rest).dropWhile (· == ' ') =
      (text.toList ++ rest).dropWhile (· == ' ') := by
  have blanks : ∀ c ∈ List.replicate (width - text.length) ' ', (c == ' ') = true := by
    intro c member
    exact beq_iff_eq.mpr (List.eq_of_mem_replicate member)
  rw [Column.padLeft, String.toList_append, Column.spaces, String.toList_ofList,
    List.append_assoc, List.dropWhile_append_of_pos blanks]

theorem mark_cases (labels : List Nat) (position : Nat) :
    mark labels position = "" ∨ ∃ number, mark labels position = labelText number ++ ":" := by
  unfold mark
  split
  · next label found =>
      obtain ⟨number, _, rfl⟩ := Option.map_eq_some_iff.mp found
      exact .inr ⟨number, rfl⟩
  · exact .inl rfl

theorem unmarked_bare {text : List Char} {c : Char} (lower : c.isLower = true)
    (starts : text.head? = some c) : unmarked (' ' :: ' ' :: text) = text := by
  obtain ⟨rest, rfl⟩ := List.head?_eq_some_iff.mp starts
  have notBlank : c ≠ ' ' := by
    rintro rfl
    contradiction
  have dropped : (' ' :: ' ' :: c :: rest).dropWhile (· == ' ') = c :: rest := by
    simp [notBlank]
  rw [unmarked, dropped]
  split
  · next label same =>
      cases same
      contradiction
  · rfl

theorem unmarked_label (number : Nat) (text : List Char) :
    unmarked ((labelText number ++ ":").toList ++ ' ' :: ' ' :: text) = text := by
  have chars : (labelText number ++ ":").toList ++ ' ' :: ' ' :: text =
      'L' :: ((toString number).toList ++ ':' :: ' ' :: ' ' :: text) := by
    simp [labelText]
  have digits := Text.ne_of_notMem (notMem_toString (show ':'.isDigit = false by decide) number)
  rw [chars, unmarked, List.dropWhile_cons_of_neg (by decide)]
  exact congrArg (List.drop 3) (Source.dropWhile_run digits (stops_cons (by decide)))

/-- A line that is read past its mark gives the text of its instruction. -/
theorem unmarked_entry (labels : List Nat) (position : Nat) (instruction : Instruction Address) :
    unmarked ((Column.padLeft 4 (mark labels position)).toList ++
        ' ' :: ' ' :: (rowText labels instruction).toList) =
      (rowText labels instruction).toList := by
  obtain ⟨c, starts, lower⟩ := rowText_starts labels instruction
  have unpadded : unmarked ((Column.padLeft 4 (mark labels position)).toList ++
      ' ' :: ' ' :: (rowText labels instruction).toList) =
        unmarked ((mark labels position).toList ++
          ' ' :: ' ' :: (rowText labels instruction).toList) := by
    simp only [unmarked, dropWhile_padLeft]
  rw [unpadded]
  rcases mark_cases labels position with bare | ⟨number, labelled⟩
  · rw [bare]
    exact unmarked_bare lower starts
  · rw [labelled]
    exact unmarked_label number _

theorem row_injective (same : row labels position first = row others position second) :
    first = second := by
  simp only [row_eq_entry, entry, String.append_assoc, String.append_right_inj] at same
  have read := congrArg (fun line => unmarked line.toList) same
  simp only [String.toList_append] at read
  exact rowText_injective (String.toList_inj.mp
    ((unmarked_entry labels position first).symm.trans
      (read.trans (unmarked_entry others position second))))

theorem rows_injective {start : Nat} {listed other : List (Instruction Address)}
    (same : rows labels start listed = rows others start other) : listed = other := by
  induction listed generalizing start other with
  | nil =>
      cases other with
      | nil => rfl
      | cons first rest => cases same
  | cons first rest ih =>
      cases other with
      | nil => cases same
      | cons second tail =>
          have ⟨row, later⟩ := List.cons.inj same
          rw [row_injective row, ih later]

/-- Programs with the same listing are the same. -/
theorem listing_eq_iff (program other : Program) :
    program.listing = other.listing ↔ program = other := by
  constructor
  · intro same
    have lines : program.listingLines = other.listingLines := by
      rw [← lines_listing, same, lines_listing]
    have listed : rows program.labels 0 program.toList = rows other.labels 0 other.toList := by
      simp only [listingLines, List.cons_append, List.nil_append, List.cons.injEq] at lines
      exact List.append_cancel_right lines.2.2.2
    exact toList_injective (rows_injective listed)
  · intro same
    rw [same]

end Rows

end Program

end GateMachine
