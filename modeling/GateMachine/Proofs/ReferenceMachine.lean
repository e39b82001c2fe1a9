import GateMachine.Proofs.MachineStep
import GateMachine.Proofs.WordArithmetic

/-!
The machine that the opcode table describes: a program counter, a list of
numbers with the top first, the texts printed so far, and ordinary arithmetic.
It knows nothing of bits, of words held in an array, or of what each
instruction needs; a stack that is too short is simply one that no row of the
table fits.

`view` forgets how the gate machine holds its state. One step of the gate
machine is one step of this machine on the view (`step_refines`), and so is
every run, with the same reports along the way (`machine_refines_reference`).
-/

namespace GateMachine

namespace Reference

structure State where
  pc : Nat
  /-- The top comes first. -/
  stack : List Nat
  output : List String
  halted : Bool
  deriving DecidableEq

/-- A fault is known by its kind and the instruction it happened at. -/
abbrev Report := Except (Fault.Kind × Nat) Tick

def State.start : State := { pc := 0, stack := [], output := [], halted := false }

namespace State

def fail (state : State) (kind : Fault.Kind) : Report × State :=
  (.error (kind, state.pc), state)

def next (state : State) (stack : List Nat) : Report × State :=
  (.ok .running, { state with pc := state.pc + 1, stack })

def goto (state : State) (address : Address) (stack : List Nat) : Report × State :=
  (.ok .running, { state with pc := address.position, stack })

def print (state : State) (text : String) : Report × State :=
  (.ok .running, { state with pc := state.pc + 1, output := state.output ++ [text] })

/-- No row of the table fits: the instruction needs a longer stack. -/
def short (state : State) (opcode : Opcode) (needed : Nat) : Report × State :=
  state.fail (.stackUnderflow opcode needed state.stack.length)

/-- The opcode table, one row a line. -/
def perform (state : State) (instruction : Instruction Address) : Report × State :=
  match instruction, state.stack with
  | .push word, stack => state.next (word.value :: stack)
  | .pop, _ :: rest => state.next rest
  | .dup, head :: rest => state.next (head :: head :: rest)
  | .peek, head :: second :: rest => state.next (second :: head :: second :: rest)
  | .replace word, _ :: rest => state.next (word.value :: rest)
  | .inc, head :: rest => state.next ((head + 1) % 16 :: rest)
  | .mod word, head :: rest =>
      if word.value = 0 then state.fail .divisionByZero
      else state.next (head % word.value :: rest)
  | .eq word, head :: rest => state.next ((if head = word.value then 1 else 0) :: head :: rest)
  | .jump address, stack => state.goto address stack
  | .ifNZero address, head :: rest =>
      if head = 0 then state.next rest else state.goto address rest
  | .printHead, head :: _ => state.print (toString head)
  | .print text, _ => state.print text
  | .stop, _ => (.ok .halted, { state with halted := true })
  | .peek, _ => state.short .peek 2
  | instruction, _ => state.short instruction.opcode 1

end State

/-- One tick. A halted machine stays as it is. -/
def step (program : List (Instruction Address)) (state : State) : Report × State :=
  if state.halted then
    (.ok .halted, state)
  else
    match program[state.pc]? with
    | none => state.fail (.pcOutOfBounds program.length)
    | some instruction => state.perform instruction

def after (program : List (Instruction Address)) : Nat → State → State
  | 0, state => state
  | ticks + 1, state => after program ticks (step program state).2

/-- What each of the first ticks reports. -/
def reports (program : List (Instruction Address)) : Nat → State → List Report
  | 0, _ => []
  | ticks + 1, state => (step program state).1 :: reports program ticks (step program state).2

section View

/-- The state as the table sees it. -/
def view (state : GateMachine.State) : State :=
  { pc := state.pc
    stack := state.stack.toList.map Word.value
    output := state.output.toList
    halted := state.halted }

def viewReport (report : Except Fault Tick) : Report :=
  report.mapError fun fault => (fault.kind, fault.pc)

def viewOutcome (outcome : Except Fault Tick × GateMachine.State) : Report × State :=
  (viewReport outcome.1, view outcome.2)

@[simp] theorem view_start : view .start = .start := rfl

@[simp] theorem viewOutcome_fail (state : GateMachine.State) (kind : Fault.Kind) :
    viewOutcome (state.fail kind) = (view state).fail kind := rfl

@[simp] theorem viewOutcome_next (state : GateMachine.State) (stack : Stack Word) :
    viewOutcome (state.next stack) = (view state).next (stack.toList.map Word.value) := rfl

@[simp] theorem viewOutcome_goto (state : GateMachine.State) (address : Address)
    (stack : Stack Word) :
    viewOutcome (state.goto address stack) =
      (view state).goto address (stack.toList.map Word.value) := rfl

@[simp] theorem viewOutcome_print (state : GateMachine.State) (text : String) :
    viewOutcome (state.print text) = (view state).print text := by
  have running : viewReport (.ok .running) = .ok .running := rfl
  simp [viewOutcome, view, State.print, GateMachine.State.print, running]

@[simp] theorem view_stack (state : GateMachine.State) :
    (view state).stack = state.stack.toList.map Word.value := rfl

theorem view_stack_lt (state : GateMachine.State) :
    ∀ number ∈ (view state).stack, number < 16 := by
  intro number member
  obtain ⟨word, _, rfl⟩ := List.mem_map.mp member
  exact word.value_lt

end View

section Refinement

theorem toList_eq_head_cons (stack : Stack Word) (inside : 0 < stack.size) :
    ∃ rest, stack.toList = stack.get 0 inside :: rest := by
  have head := stack.getElem?_toList 0 inside
  cases items : stack.toList with
  | nil => simp [items] at head
  | cons first rest =>
      rw [items] at head
      have same : first = stack.get 0 inside := Option.some.inj head
      exact ⟨rest, by rw [same]⟩

theorem toList_eq_two_cons (stack : Stack Word) (inside : 1 < stack.size) :
    ∃ rest, stack.toList =
      stack.get 0 (Nat.lt_of_succ_lt inside) :: stack.get 1 inside :: rest := by
  obtain ⟨below, whole⟩ := toList_eq_head_cons stack (Nat.lt_of_succ_lt inside)
  have second := stack.getElem?_toList 1 inside
  rw [whole] at second
  cases below with
  | nil => simp at second
  | cons next rest =>
      have same : next = stack.get 1 inside := Option.some.inj second
      exact ⟨rest, same ▸ whole⟩

-- The table needs a longer stack exactly where the instruction asks for one.
theorem perform_of_short (state : State) (instruction : Instruction Address)
    (short : state.stack.length < instruction.opcode.stackInputs) :
    state.perform instruction =
      state.fail (.stackUnderflow instruction.opcode instruction.opcode.stackInputs
        state.stack.length) := by
  cases stack : state.stack with
  | nil =>
      rw [stack] at short
      cases instruction <;>
        simp_all [Opcode.stackInputs, Instruction.opcode, State.perform, State.short]
  | cons head rest =>
      rw [stack] at short
      cases rest with
      | nil =>
          cases instruction <;>
            simp_all [Opcode.stackInputs, Instruction.opcode, State.perform, State.short]
      | cons second rest =>
          -- No instruction asks for more than two words.
          cases instruction <;>
            simp only [Opcode.stackInputs, Instruction.opcode, List.length_cons] at short <;> omega

/-- An instruction does to the view what its row of the table says. -/
theorem perform_refines (state : GateMachine.State) (instruction : Instruction Address)
    (enough : instruction.opcode.stackInputs ≤ state.stack.size) :
    viewOutcome (state.perform instruction enough) = (view state).perform instruction := by
  cases instruction with
  | push word => simp [GateMachine.State.perform, State.perform]
  | jump address => simp [GateMachine.State.perform, State.perform]
  | print text => simp [GateMachine.State.perform, State.perform]
  | stop => rfl
  | pop =>
      obtain ⟨rest, whole⟩ := toList_eq_head_cons state.stack enough
      simp [GateMachine.State.perform, State.perform, whole]
  | dup =>
      have inside : 0 < state.stack.size := enough
      obtain ⟨rest, whole⟩ := toList_eq_head_cons state.stack inside
      change viewOutcome (state.next (state.stack.dupAt 0 inside)) = _
      simp [State.perform, whole]
  | replace word =>
      have inside : 0 < state.stack.size := enough
      obtain ⟨rest, whole⟩ := toList_eq_head_cons state.stack inside
      change viewOutcome (state.next (state.stack.set 0 word inside)) = _
      simp [State.perform, whole]
  | printHead =>
      obtain ⟨rest, whole⟩ := toList_eq_head_cons state.stack enough
      simp [GateMachine.State.perform, State.perform, whole, Word.decimal]
  | peek =>
      have inside : 1 < state.stack.size := enough
      obtain ⟨rest, whole⟩ := toList_eq_two_cons state.stack inside
      change viewOutcome (state.next (state.stack.dupAt 1 inside)) = _
      simp [State.perform, whole]
  | inc =>
      have inside : 0 < state.stack.size := enough
      obtain ⟨rest, whole⟩ := toList_eq_head_cons state.stack inside
      change viewOutcome (state.next
        (state.stack.set 0 ((state.stack.get 0 inside).add .one) inside)) = _
      simp [State.perform, whole, Word.value_add, Word.value_one]
  | eq word =>
      obtain ⟨rest, whole⟩ := toList_eq_head_cons state.stack enough
      simp [GateMachine.State.perform, State.perform, whole, Word.value_eq]
  | mod word =>
      have inside : 0 < state.stack.size := enough
      obtain ⟨rest, whole⟩ := toList_eq_head_cons state.stack inside
      have remainder := Word.modulo_exact (state.stack.get 0 inside) word
      by_cases vanishes : word.value = 0
      · rw [if_pos vanishes, Option.map_eq_none_iff] at remainder
        simp [GateMachine.State.perform, State.perform, whole, vanishes, remainder]
      · rw [if_neg vanishes, Option.map_eq_some_iff] at remainder
        obtain ⟨result, computed, value⟩ := remainder
        have performed : state.perform (.mod word) enough =
            state.next (state.stack.set 0 result inside) := by
          simp only [GateMachine.State.perform, computed]
        rw [performed]
        simp [State.perform, whole, vanishes, value]
  | ifNZero address =>
      obtain ⟨rest, whole⟩ := toList_eq_head_cons state.stack enough
      by_cases vanishes : (state.stack.get 0 enough).value = 0
      · have zero := (Word.isZero_iff _).mpr vanishes
        simp [GateMachine.State.perform, State.perform, whole, vanishes, zero]
      · have nonzero := (Word.isZero_eq_false_iff _).mpr vanishes
        simp [GateMachine.State.perform, State.perform, whole, vanishes, nonzero]

/-- One tick of the gate machine is one tick of the table's machine. -/
theorem step_refines (program : Program) (state : GateMachine.State) :
    viewOutcome (program.step state) = step program.toList (view state) := by
  have fetch : program.toList[(view state).pc]? = program.get? state.pc := by
    simp [Program.get?, Program.toList, view]
  have length : program.toList.length = program.size := by
    simp [Program.size, Program.toList]
  by_cases halted : state.halted = true
  · have same : (view state).halted = true := halted
    rw [Program.step_of_halted halted, step, if_pos same]
    rfl
  have active : state.halted = false := by simpa using halted
  have same : ¬ (view state).halted = true := halted
  rw [step, if_neg same, fetch]
  cases fetched : program.get? state.pc with
  | none => rw [Program.step_of_past_end active fetched, viewOutcome_fail, length]
  | some instruction =>
      by_cases enough : instruction.opcode.stackInputs ≤ state.stack.size
      · rw [Program.step_of_enough active fetched enough]
        exact perform_refines state instruction enough
      · have few := Nat.lt_of_not_le enough
        have short : (view state).stack.length < instruction.opcode.stackInputs := by
          simpa using few
        rw [Program.step_of_short active fetched few, viewOutcome_fail]
        simp [perform_of_short (view state) instruction short]

theorem after_refines (program : Program) (ticks : Nat) (state : GateMachine.State) :
    view (program.after ticks state) = after program.toList ticks (view state) := by
  induction ticks generalizing state with
  | zero => rfl
  | succ ticks ih =>
      have tick := congrArg Prod.snd (step_refines program state)
      rw [Program.after, after, ih, ← tick]
      rfl

theorem reports_refine (program : Program) (ticks : Nat) (state : GateMachine.State) :
    (program.trace ticks state).map (fun outcome => viewReport outcome.1) =
      reports program.toList ticks (view state) := by
  induction ticks generalizing state with
  | zero => rfl
  | succ ticks ih =>
      have tick := step_refines program state
      have said := congrArg Prod.fst tick
      have left := congrArg Prod.snd tick
      simp only [Program.trace, List.map_cons, reports, ih]
      rw [← said, ← left]
      rfl

/-- From its start and for any number of ticks, the gate machine is in the state
that the table's machine is in, and every tick up to there has said the same.
The numbers on the stack stay below sixteen. -/
theorem machine_refines_reference (program : Program) (ticks : Nat) :
    view (program.after ticks .start) = after program.toList ticks .start ∧
      (program.trace ticks .start).map (fun outcome => viewReport outcome.1) =
        reports program.toList ticks .start ∧
      ∀ number ∈ (after program.toList ticks .start).stack, number < 16 := by
  have state := after_refines program ticks .start
  rw [view_start] at state
  refine ⟨state, reports_refine program ticks .start, ?_⟩
  rw [← state]
  exact view_stack_lt (program.after ticks .start)

end Refinement

end Reference

end GateMachine
