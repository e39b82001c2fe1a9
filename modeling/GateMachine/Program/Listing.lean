import GateMachine.Program

/-!
The listing of a program: one row for each instruction with its line, a label
where some jump leads there, and jumps written with the label and line of
their target. Labels are numbered in the order of the addresses they stand at.
-/

namespace GateMachine

namespace Program

/-- The positions that jumps name, in the order of the jumps. -/
def jumpTargets (program : Program) : List Nat :=
  program.toList.filterMap fun instruction => instruction.target?.map Address.position

/-- The positions that some jump names, each once, in ascending order. -/
def labels (program : Program) : List Nat :=
  program.jumpTargets.eraseDups.mergeSort fun first second => decide (first ≤ second)

/-- The label at a position, numbered by its place among `labels`. -/
def label? (labels : List Nat) (position : Nat) : Option String :=
  (labels.idxOf? position).map fun number => "L" ++ toString number

/-- A jump is written with its target's label and line, all else as in a source. -/
def rowText (labels : List Nat) (instruction : Instruction Address) : String :=
  match instruction.target? with
  | some address =>
      -- Every target has a label, since it lies inside the program.
      let label := (label? labels address.position).getD address.text
      instruction.opcode.mnemonic ++
        s!" (to {label}, line {address.lineNumber})"
  | none => instruction.text Address.text

def row (labels : List Nat) (position : Nat) (instruction : Instruction Address) : String :=
  let line := Column.padLeft 4 (toString (position + 1))
  let mark := match label? labels position with
    | some label => label ++ ":"
    | none => ""
  "    " ++ line ++ " " ++ Column.padLeft 4 mark ++ "  " ++ rowText labels instruction

def rows (labels : List Nat) : Nat → List (Instruction Address) → List String
  | _, [] => []
  | position, instruction :: rest =>
      row labels position instruction :: rows labels (position + 1) rest

def listingLines (program : Program) : List String :=
  ["Program \x7b", "  len: " ++ toString program.size, "  instructions:"] ++
    rows program.labels 0 program.toList ++ ["\x7d"]

def listing (program : Program) : String := "\n".intercalate program.listingLines

end Program

end GateMachine
