import GateMachine.Program.Listing
import GateMachine.Proofs.AppendedCode
import GateMachine.Proofs.DisplayedPrograms
import Mathlib.Data.Finset.Card
import Mathlib.Data.Finset.Dedup
import Mathlib.Data.Finset.Image
import Mathlib.Data.Finset.Range
import Mathlib.Data.List.Sort

/-!
The listing of a program, taken apart into its lines. Nothing that is written in a line
breaks it, print texts included (`lines_listing`). The positions that jumps name are the
`targets` of a program; a target's label is the number of targets before it
(`idxOf?_labels`), which numbers them from zero without a gap, and a jump is written with
the label of the line it leads to (`listing_labels_targets`).
-/

namespace GateMachine

namespace Program

variable {program : Program} {position : Nat}

section Lines

/-- The lines of a text, between its line feeds. -/
def linesOf (text : String) : List String := (text.toList.splitOn '\n').map String.ofList

/-- A text that stays on its line. -/
def OneLine (text : String) : Prop := '\n' ∉ text.toList

instance (text : String) : Decidable (OneLine text) :=
  inferInstanceAs (Decidable ('\n' ∉ text.toList))

theorem oneLine_append {first second : String} :
    OneLine (first ++ second) ↔ OneLine first ∧ OneLine second := by
  simp [OneLine]

theorem oneLine_toString (number : Nat) : OneLine (toString number) := by
  intro feed
  have digit := (Source.digits_toString number).2 '\n' feed
  contradiction

theorem oneLine_padLeft {text : String} (whole : OneLine text) (width : Nat) :
    OneLine (Column.padLeft width text) := by
  refine oneLine_append.mpr ⟨?_, whole⟩
  simp [OneLine, Column.spaces]

theorem oneLine_mnemonic (opcode : Opcode) : OneLine opcode.mnemonic := by
  unfold OneLine
  cases opcode <;> decide

theorem oneLine_address (address : Address) : OneLine address.text :=
  oneLine_append.mpr ⟨by decide, oneLine_toString _⟩

/-- A line feed inside a text is written as a backslash and a letter. -/
theorem oneLine_quote (text : String) : OneLine (Quoted.quote text) := by
  have escaped (c : Char) : '\n' ∉ Quoted.escapeChar c := by
    unfold Quoted.escapeChar
    split
    · decide
    · decide
    · decide
    · decide
    · next feed _ => simpa using fun same : '\n' = c => feed same.symm
  have body : '\n' ∉ Quoted.escape text.toList := by
    simp only [Quoted.escape, List.mem_flatMap, not_exists, not_and]
    exact fun c _ => escaped c
  simp [Quoted.quote, OneLine, body]

theorem oneLine_text (instruction : Instruction Address) :
    OneLine (instruction.text Address.text) := by
  have mnemonic := oneLine_mnemonic instruction.opcode
  unfold Instruction.text
  split
  · next operand found =>
      refine oneLine_append.mpr ⟨oneLine_append.mpr ⟨mnemonic, by decide⟩, ?_⟩
      cases instruction with
      | push word | replace word | mod word | eq word =>
          cases found
          exact oneLine_toString word.value
      | jump address | ifNZero address =>
          cases found
          exact oneLine_address address
      | print text =>
          cases found
          exact oneLine_quote text
      | _ => cases found
  · exact mnemonic

theorem oneLine_label {labels : List Nat} {label : String}
    (found : label? labels position = some label) : OneLine label := by
  obtain ⟨number, _, rfl⟩ := Option.map_eq_some_iff.mp found
  exact oneLine_append.mpr ⟨by decide, oneLine_toString number⟩

/-- Where a jump leads, by label and by line. -/
def jumpText (label : String) (line : Nat) : String :=
  " (to " ++ label ++ ", line " ++ toString line ++ ")"

theorem rowText_of_target (labels : List Nat) {instruction : Instruction Address}
    {address : Address} (named : instruction.target? = some address) :
    rowText labels instruction = instruction.opcode.mnemonic ++
      jumpText ((label? labels address.position).getD address.text) address.lineNumber := by
  simp only [rowText, named]
  rfl

theorem rowText_of_plain (labels : List Nat) {instruction : Instruction Address}
    (plain : instruction.target? = none) :
    rowText labels instruction = instruction.text Address.text := by
  simp only [rowText, plain]

theorem oneLine_rowText (labels : List Nat) (instruction : Instruction Address) :
    OneLine (rowText labels instruction) := by
  cases named : instruction.target? with
  | none =>
      rw [rowText_of_plain labels named]
      exact oneLine_text instruction
  | some address =>
      have label : OneLine ((label? labels address.position).getD address.text) := by
        cases found : label? labels address.position with
        | none => exact oneLine_address address
        | some label => exact oneLine_label found
      rw [rowText_of_target labels named, jumpText]
      simp only [oneLine_append]
      exact ⟨oneLine_mnemonic _, ⟨⟨⟨by decide, label⟩, by decide⟩, oneLine_toString _⟩, by decide⟩

/-- The line of an instruction: its number and its mark, each to the right of a column of
four, then what it does. -/
def entry (position : Nat) (mark text : String) : String :=
  "    " ++ Column.padLeft 4 (toString (position + 1)) ++ " " ++ Column.padLeft 4 mark ++ "  " ++
    text

/-- What stands before an instruction: its label and a colon, if it has one. -/
def mark (labels : List Nat) (position : Nat) : String :=
  match label? labels position with
  | some label => label ++ ":"
  | none => ""

theorem row_eq_entry (labels : List Nat) (position : Nat) (instruction : Instruction Address) :
    row labels position instruction =
      entry position (mark labels position) (rowText labels instruction) := rfl

theorem oneLine_mark (labels : List Nat) (position : Nat) : OneLine (mark labels position) := by
  unfold mark
  split
  · next label found => exact oneLine_append.mpr ⟨oneLine_label found, by decide⟩
  · decide

theorem oneLine_row (labels : List Nat) (position : Nat) (instruction : Instruction Address) :
    OneLine (row labels position instruction) := by
  simp only [row_eq_entry, entry, oneLine_append]
  exact ⟨⟨⟨⟨⟨by decide, oneLine_padLeft (oneLine_toString _) 4⟩, by decide⟩,
    oneLine_padLeft (oneLine_mark labels position) 4⟩, by decide⟩,
    oneLine_rowText labels instruction⟩

theorem getElem?_rows (labels : List Nat) (start index : Nat)
    (instructions : List (Instruction Address)) :
    (rows labels start instructions)[index]? =
      instructions[index]?.map (row labels (start + index)) := by
  induction instructions generalizing start index with
  | nil => simp [rows]
  | cons first rest ih =>
      cases index with
      | zero => simp [rows]
      | succ index => simp [rows, ih, Nat.add_comm, Nat.add_left_comm]

theorem length_rows (labels : List Nat) (start : Nat) (instructions : List (Instruction Address)) :
    (rows labels start instructions).length = instructions.length := by
  induction instructions generalizing start with
  | nil => rfl
  | cons first rest ih => simp [rows, ih]

theorem oneLine_of_mem_rows {labels : List Nat} {start : Nat}
    {instructions : List (Instruction Address)} {line : String}
    (listed : line ∈ rows labels start instructions) : OneLine line := by
  obtain ⟨index, found⟩ := List.mem_iff_getElem?.mp listed
  rw [getElem?_rows] at found
  obtain ⟨instruction, _, rfl⟩ := Option.map_eq_some_iff.mp found
  exact oneLine_row labels (start + index) instruction

/-- Splitting a listing at its line feeds gives back the lines it was made of. -/
theorem lines_listing (program : Program) : linesOf program.listing = program.listingLines := by
  have whole : ∀ line ∈ program.listingLines, OneLine line := by
    simp only [listingLines, List.forall_mem_append, List.forall_mem_cons]
    refine ⟨⟨⟨by decide, ?_, by decide, by simp⟩, fun _ => oneLine_of_mem_rows⟩, by decide, by simp⟩
    exact oneLine_append.mpr ⟨by decide, oneLine_toString program.size⟩
  have unbroken : ∀ line ∈ program.listingLines.map String.toList, '\n' ∉ line :=
    List.forall_mem_map.mpr whole
  have some : program.listingLines.map String.toList ≠ [] := by simp [listingLines]
  have feed : "\n".toList = ['\n'] := rfl
  rw [linesOf, listing, String.toList_intercalate, feed, List.splitOn_intercalate '\n' unbroken some,
    List.map_map]
  simp

end Lines

section Labels

/-- Some jump of the program leads to the position. -/
def Targeted (program : Program) (position : Nat) : Prop :=
  ∃ instruction ∈ program.toList, ∃ address,
    instruction.target? = some address ∧ address.position = position

/-- The positions that jumps of the program name, each once. -/
def targets (program : Program) : Finset Nat :=
  (program.toList.filterMap fun instruction =>
    instruction.target?.map Address.position).toFinset

/-- How many targets stand before a position. -/
def targetsBefore (program : Program) (position : Nat) : Nat :=
  (program.targets.filter fun target => target < position).card

/-- The number of the label at a position: only a target has one. -/
def labelAt (program : Program) (position : Nat) : Option Nat :=
  if position ∈ program.targets then some (program.targetsBefore position) else none

theorem mem_targets : position ∈ program.targets ↔ program.Targeted position := by
  simp [targets, Targeted]

theorem labelAt_eq_some_iff {number : Nat} : program.labelAt position = some number ↔
    program.Targeted position ∧ number = program.targetsBefore position := by
  rw [← mem_targets, labelAt]
  split <;> simp_all [eq_comm]

theorem lt_size_of_target (target : position ∈ program.targets) : position < program.size := by
  obtain ⟨instruction, listed, address, named, rfl⟩ := mem_targets.mp target
  exact program.inRange instruction (by simpa [toList] using listed) address named

theorem mem_labels : position ∈ program.labels ↔ position ∈ program.targets := by
  rw [labels, List.mem_mergeSort, List.mem_eraseDups, targets, List.mem_toFinset]
  rfl

theorem nodup_eraseDups (numbers : List Nat) : numbers.eraseDups.Nodup := by
  match numbers with
  | [] => simp
  | number :: others =>
      rw [List.eraseDups_cons, List.nodup_cons]
      refine ⟨by simp, nodup_eraseDups _⟩
termination_by numbers.length
decreasing_by exact Nat.lt_succ_of_le (List.length_filter_le _ others)

/-- Each target is listed once, and smaller ones come first. -/
theorem sortedLT_labels (program : Program) : program.labels.SortedLT := by
  have ascending : program.labels.SortedLE := List.sortedLE_mergeSort
  have distinct : program.labels.Nodup :=
    (List.mergeSort_perm _ _).nodup_iff.mpr (nodup_eraseDups program.jumpTargets)
  exact ascending.sortedLT_of_nodup distinct

-- Lists that ascend and have the same members are the same.
theorem labels_eq_filter (program : Program) :
    program.labels =
      (List.range program.size).filter fun position => decide (position ∈ program.targets) := by
  have ascending : ((List.range program.size).filter fun position =>
      decide (position ∈ program.targets)).SortedLT :=
    (List.pairwise_lt_range.filter _).sortedLT
  apply program.sortedLT_labels.eq_of_mem_iff ascending
  intro position
  simpa [mem_labels] using lt_size_of_target

/-- In an ascending list the place of a number is how many smaller ones there are. -/
theorem idxOf?_filter_range (keep : Nat → Bool) (bound position : Nat) :
    ((List.range bound).filter keep).idxOf? position =
      if position < bound ∧ keep position = true then
        some ((List.range position).filter keep).length
      else none := by
  induction bound with
  | zero => simp
  | succ bound ih =>
      simp only [List.idxOf?] at ih ⊢
      rw [List.range_succ, List.filter_append, List.findIdx?_append, ih]
      by_cases last : position = bound
      · subst last
        by_cases kept : keep position <;> simp [kept]
      · have other : ([bound].filter keep).findIdx? (· == position) = none := by
          simp [List.findIdx?_eq_none_iff, List.mem_filter, Ne.symm last]
        have same : position < bound + 1 ↔ position < bound := by omega
        simp [other, same]

theorem length_filter_range (program : Program) (position : Nat) :
    ((List.range position).filter fun target => decide (target ∈ program.targets)).length =
      program.targetsBefore position := by
  have distinct : ((List.range position).filter fun target =>
      decide (target ∈ program.targets)).Nodup := List.nodup_range.filter _
  rw [targetsBefore, ← List.toFinset_card_of_nodup distinct]
  congr 1
  ext target
  simp [and_comm]

/-- The place of a label in the list of labels is its number. -/
theorem idxOf?_labels (program : Program) (position : Nat) :
    program.labels.idxOf? position = program.labelAt position := by
  rw [labels_eq_filter, idxOf?_filter_range, length_filter_range, labelAt]
  simp only [decide_eq_true_eq]
  congr 1
  simpa using lt_size_of_target

theorem targetsBefore_strictMonoOn (program : Program) :
    StrictMonoOn program.targetsBefore program.targets := by
  intro first named second _ before
  apply Finset.card_lt_card
  refine Finset.ssubset_iff_of_subset ?_ |>.mpr ⟨first, ?_, ?_⟩
  · exact Finset.monotone_filter_right _ fun target _ smaller => Nat.lt_trans smaller before
  · simpa using ⟨named, before⟩
  · simp

/-- The labels are numbered from zero without a gap. -/
theorem image_targetsBefore (program : Program) :
    program.targets.image program.targetsBefore = Finset.range program.targets.card := by
  apply Finset.eq_of_subset_of_card_le
  · intro number labelled
    obtain ⟨target, named, rfl⟩ := Finset.mem_image.mp labelled
    refine Finset.mem_range.mpr (Finset.card_lt_card ?_)
    exact Finset.filter_ssubset.mpr ⟨target, named, Nat.lt_irrefl target⟩
  · rw [Finset.card_range, Finset.card_image_of_injOn program.targetsBefore_strictMonoOn.injOn]

end Labels

section Entries

def labelText (number : Nat) : String := "L" ++ toString number

/-- The mark that a position should have: a label at a target, nothing elsewhere. -/
def markAt (program : Program) (position : Nat) : String :=
  match program.labelAt position with
  | some number => labelText number ++ ":"
  | none => ""

theorem label?_labels (program : Program) (position : Nat) :
    label? program.labels position = (program.labelAt position).map labelText := by
  rw [label?, idxOf?_labels]
  rfl

theorem mark_labels (program : Program) (position : Nat) :
    mark program.labels position = program.markAt position := by
  rw [mark, markAt, label?_labels]
  cases program.labelAt position <;> rfl

/-- A target always has a label, since it lies inside the program. -/
theorem labelAt_of_target {instruction : Instruction Address} {address : Address}
    (listed : program.get? position = some instruction)
    (named : instruction.target? = some address) :
    program.labelAt address.position = some (program.targetsBefore address.position) := by
  have member : instruction ∈ program.toList := by
    rw [get?_eq_toList] at listed
    exact List.mem_of_getElem? listed
  exact if_pos (mem_targets.mpr ⟨instruction, member, address, named, rfl⟩)

theorem getElem?_listingLines {instruction : Instruction Address}
    (listed : program.get? position = some instruction) :
    program.listingLines[position + 3]? =
      some (entry position (program.markAt position) (rowText program.labels instruction)) := by
  have inside : position < (rows program.labels 0 program.toList).length := by
    rw [length_rows, length_toList]
    exact lt_size_of_fetched listed
  rw [get?_eq_toList] at listed
  simp only [listingLines, List.cons_append, List.nil_append, List.getElem?_cons_succ]
  rw [List.getElem?_append_left inside, getElem?_rows, listed, Nat.zero_add, Option.map_some,
    row_eq_entry, mark_labels]

theorem getElem?_closing (program : Program) :
    program.listingLines[program.size + 3]? = some "\x7d" := by
  have ends : program.size = (rows program.labels 0 program.toList).length := by
    rw [length_rows, length_toList]
  simp only [listingLines, List.cons_append, List.nil_append, List.getElem?_cons_succ]
  rw [ends, List.getElem?_concat_length]

/-- A jump from one position to another is written with the mark that stands there and the
number of the line. -/
def WritesJump (program : Program) (lines : List String) (position : Nat) (opcode : Opcode)
    (target : Nat) : Prop :=
  ∃ number text,
    lines[position + 3]? = some (entry position (program.markAt position)
      (opcode.mnemonic ++ jumpText (labelText number) (target + 1))) ∧
    lines[target + 3]? = some (entry target (labelText number ++ ":") text)

theorem writesJump {instruction : Instruction Address} {address : Address}
    (listed : program.get? position = some instruction)
    (named : instruction.target? = some address) :
    program.WritesJump program.listingLines position instruction.opcode address.position := by
  have labelled := labelAt_of_target listed named
  have inside : address.position < program.size :=
    lt_size_of_target (mem_targets.mpr (labelAt_eq_some_iff.mp labelled).1)
  obtain ⟨destination, found⟩ : ∃ destination, program.get? address.position = some destination :=
    ⟨_, Array.getElem?_eq_getElem inside⟩
  refine ⟨program.targetsBefore address.position, rowText program.labels destination, ?_, ?_⟩
  · rw [getElem?_listingLines listed, rowText_of_target program.labels named, label?_labels,
      labelled]
    rfl
  · rw [getElem?_listingLines found, markAt, labelled]

/-- The lines of a listing: a frame of four, and one line for each instruction in between.
A mark stands at the targets and nowhere else; its number counts the targets before it. -/
structure Lists (program : Program) (lines : List String) : Prop where
  count : lines.length = program.size + 4
  header : lines[0]? = some "Program \x7b"
  len : lines[1]? = some ("  len: " ++ toString program.size)
  heading : lines[2]? = some "  instructions:"
  closing : lines[program.size + 3]? = some "\x7d"
  marked : ∀ position number, program.labelAt position = some number ↔
    program.Targeted position ∧ number = program.targetsBefore position
  gapless : program.targets.image program.targetsBefore = Finset.range program.targets.card
  ascending : StrictMonoOn program.targetsBefore program.targets
  plain : ∀ {position instruction}, program.get? position = some instruction →
    instruction.target? = none →
    lines[position + 3]? =
      some (entry position (program.markAt position) (instruction.text Address.text))
  jump : ∀ {position instruction address}, program.get? position = some instruction →
    instruction.target? = some address →
    program.WritesJump lines position instruction.opcode address.position

/-- A listing has one line for each instruction, whatever its texts hold, and its labels are
numbered by address; every jump is written with the label at its target. -/
theorem listing_labels_targets (program : Program) : program.Lists (linesOf program.listing) := by
  rw [lines_listing]
  exact {
    count := by simp [listingLines, length_rows, length_toList]
    header := rfl
    len := rfl
    heading := rfl
    closing := program.getElem?_closing
    marked := fun _ _ => labelAt_eq_some_iff
    gapless := program.image_targetsBefore
    ascending := program.targetsBefore_strictMonoOn
    plain := fun listed plain => by
      rw [getElem?_listingLines listed, rowText_of_plain program.labels plain]
    jump := writesJump }

end Entries

end Program

end GateMachine
