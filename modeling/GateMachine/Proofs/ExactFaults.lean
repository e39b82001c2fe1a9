import GateMachine.Proofs.BoundedRuns
import GateMachine.Proofs.WordArithmetic

/-!
Which steps fault. Three checks are made one after the other: the program
counter must be at an instruction, the stack must hold what the instruction
asks for, and nothing is divided by zero. `Verdict` says what they come to, and
a step faults exactly with the check that failed (`failsWith_iff`).

What an instruction asks for is also what it uses. `attempt` runs it with each
access to the stack checked where it is made; an access fails exactly when the
stack is shorter than the instruction asks for (`attempt_eq_none_iff`), and
otherwise the instruction does what the machine does (`attempt_of_enough`).
-/

namespace GateMachine

namespace State

section Attempts

/-- Runs an instruction that looks before each access to the stack. There is no
result if it would have reached below the bottom. -/
def attempt (state : State) : Instruction Address → Option (Except Fault Tick × State)
  | .push word => some (state.next (state.stack.push word))
  | .pop => state.stack.pop?.map fun popped => state.next popped.2
  | .dup => (state.stack.dupAt? 0).map state.next
  | .peek => (state.stack.dupAt? 1).map state.next
  | .replace word => (state.stack.set? 0 word).map state.next
  | .inc =>
      (state.stack.get? 0).bind fun head =>
        (state.stack.set? 0 (head.add .one)).map state.next
  | .mod word =>
      (state.stack.get? 0).bind fun head =>
        match head.modulo word with
        | some remainder => (state.stack.set? 0 remainder).map state.next
        | none => some (state.fail .divisionByZero)
  | .eq word =>
      (state.stack.get? 0).map fun head => state.next (state.stack.push (head.eq word))
  | .jump address => some (state.goto address state.stack)
  | .ifNZero address =>
      state.stack.pop?.map fun popped =>
        if popped.1.isZero then state.next popped.2 else state.goto address popped.2
  | .stop => some (.ok .halted, { state with halted := true })
  | .printHead => (state.stack.get? 0).map fun head => state.print head.decimal
  | .print text => some (state.print text)

variable {state : State} {instruction : Instruction Address}

theorem attempt_of_enough (enough : instruction.opcode.stackInputs ≤ state.stack.size) :
    state.attempt instruction = some (state.perform instruction enough) := by
  cases instruction with
  | push word | jump address | stop | print text => rfl
  | pop | dup | replace word | inc | eq word | printHead =>
      have inside : 0 < state.stack.size := enough
      simp [attempt, perform, Stack.pop?, Stack.dupAt?, Stack.set?, Stack.get?, inside]
  | peek =>
      have inside : 1 < state.stack.size := enough
      simp [attempt, perform, Stack.dupAt?, inside]
  | mod word =>
      have inside : 0 < state.stack.size := enough
      cases remainder : (state.stack.get 0 inside).modulo word with
      | none => simp [attempt, perform, Stack.get?, inside, remainder]
      | some result => simp [attempt, perform, Stack.get?, Stack.set?, inside, remainder]
  | ifNZero address =>
      have inside : 0 < state.stack.size := enough
      by_cases zero : (state.stack.get 0 inside).isZero = true
      · simp [attempt, perform, Stack.pop?, inside, zero]
      · simp [attempt, perform, Stack.pop?, inside, zero]

theorem attempt_of_short (short : state.stack.size < instruction.opcode.stackInputs) :
    state.attempt instruction = none := by
  cases instruction with
  | push word | jump address | stop | print text => exact absurd short (Nat.not_lt_zero _)
  | pop | dup | replace word | inc | mod word | eq word | ifNZero address | printHead =>
      have empty : ¬ 0 < state.stack.size := Nat.not_lt_of_le (Nat.le_of_lt_succ short)
      simp [attempt, Stack.pop?, Stack.dupAt?, Stack.set?, Stack.get?, empty]
  | peek =>
      have few : ¬ 1 < state.stack.size := Nat.not_lt_of_le (Nat.le_of_lt_succ short)
      simp [attempt, Stack.dupAt?, few]

theorem attempt_eq_none_iff :
    state.attempt instruction = none ↔ state.stack.size < instruction.opcode.stackInputs := by
  constructor
  · intro stuck
    by_cases enough : instruction.opcode.stackInputs ≤ state.stack.size
    · rw [attempt_of_enough enough] at stuck
      contradiction
    · exact Nat.lt_of_not_le enough
  · exact attempt_of_short

end Attempts

end State

namespace Program

variable {program : Program} {state : State} {kind : Fault.Kind}

section Checks

/-- What the checks before a step come to: the fault of the first that fails, or none. -/
inductive Verdict (program : Program) (state : State) : Option Fault.Kind → Prop where
  | pastEnd (absent : program.get? state.pc = none) :
      Verdict program state (some (.pcOutOfBounds program.size))
  | short {instruction : Instruction Address}
      (fetched : program.get? state.pc = some instruction)
      (few : state.stack.size < instruction.opcode.stackInputs) :
      Verdict program state (some (.stackUnderflow instruction.opcode
        instruction.opcode.stackInputs state.stack.size))
  | byZero (fetched : program.get? state.pc = some (.mod .zero)) (enough : 1 ≤ state.stack.size) :
      Verdict program state (some .divisionByZero)
  | pass {instruction : Instruction Address}
      (fetched : program.get? state.pc = some instruction)
      (enough : instruction.opcode.stackInputs ≤ state.stack.size)
      (nonzero : instruction ≠ .mod .zero) : Verdict program state none

theorem exists_verdict (program : Program) (state : State) :
    ∃ verdict, Verdict program state verdict := by
  cases fetched : program.get? state.pc with
  | none => exact ⟨_, .pastEnd fetched⟩
  | some instruction =>
      by_cases enough : instruction.opcode.stackInputs ≤ state.stack.size
      · by_cases zero : instruction = .mod .zero
        · subst zero
          exact ⟨_, .byZero fetched enough⟩
        · exact ⟨_, .pass fetched enough zero⟩
      · exact ⟨_, .short fetched (Nat.lt_of_not_le enough)⟩

theorem perform_mod_zero (enough : 1 ≤ state.stack.size) :
    state.perform (.mod .zero) enough = state.fail .divisionByZero := by
  have stuck := (Word.modulo_eq_none_iff (state.stack.get 0 enough) .zero).mpr rfl
  simp only [State.perform, stuck]

theorem perform_of_nonzero {instruction : Instruction Address}
    (enough : instruction.opcode.stackInputs ≤ state.stack.size)
    (nonzero : instruction ≠ .mod .zero) :
    ∃ tick next, state.perform instruction enough = (.ok tick, next) := by
  cases instruction with
  | mod word =>
      have inside : 0 < state.stack.size := enough
      cases remainder : (state.stack.get 0 inside).modulo word with
      | none =>
          have zero := (Word.modulo_eq_none_iff _ word).mp remainder
          exact absurd (congrArg Instruction.mod zero) nonzero
      | some result =>
          simp only [State.perform, remainder]
          exact ⟨_, _, rfl⟩
  | ifNZero address =>
      simp only [State.perform]
      split
      · exact ⟨_, _, rfl⟩
      · exact ⟨_, _, rfl⟩
  | _ => exact ⟨_, _, rfl⟩

theorem step_of_failed (active : state.halted = false)
    (verdict : Verdict program state (some kind)) : program.step state = state.fail kind := by
  cases verdict with
  | pastEnd absent => exact step_of_past_end active absent
  | short fetched few => exact step_of_short active fetched few
  | byZero fetched enough =>
      rw [step_of_enough active fetched enough]
      exact perform_mod_zero enough

theorem step_of_passed (active : state.halted = false) (verdict : Verdict program state none) :
    ∃ tick next, program.step state = (.ok tick, next) := by
  cases verdict with
  | pass fetched enough nonzero =>
      rw [step_of_enough active fetched enough]
      exact perform_of_nonzero enough nonzero

end Checks

section Faults

/-- The next step faults with this kind. -/
def FailsWith (program : Program) (state : State) (kind : Fault.Kind) : Prop :=
  ∃ fault, (program.step state).1 = .error fault ∧ fault.kind = kind

def Succeeds (program : Program) (state : State) : Prop :=
  ∃ tick, (program.step state).1 = .ok tick

theorem failsWith_iff (active : state.halted = false) :
    program.FailsWith state kind ↔ Verdict program state (some kind) := by
  constructor
  · rintro ⟨fault, faulted, rfl⟩
    obtain ⟨verdict, checked⟩ := exists_verdict program state
    cases verdict with
    | none =>
        obtain ⟨tick, next, stepped⟩ := step_of_passed active checked
        simp [stepped] at faulted
    | some kind =>
        rw [step_of_failed active checked] at faulted
        cases faulted
        exact checked
  · intro checked
    rw [FailsWith, step_of_failed active checked]
    exact ⟨_, rfl, rfl⟩

theorem succeeds_iff (active : state.halted = false) :
    program.Succeeds state ↔ Verdict program state none := by
  constructor
  · rintro ⟨tick, succeeded⟩
    obtain ⟨verdict, checked⟩ := exists_verdict program state
    cases verdict with
    | none => exact checked
    | some kind =>
        rw [step_of_failed active checked] at succeeded
        contradiction
  · intro checked
    obtain ⟨tick, next, stepped⟩ := step_of_passed active checked
    exact ⟨tick, by rw [stepped]⟩

theorem get?_eq_none_iff {index : Nat} : program.get? index = none ↔ program.size ≤ index := by
  simp [get?, size]

/-- A fault is met again at every later step: it has left no trace in the state. -/
theorem step_again {fault : Fault} {next : State}
    (faulted : program.step state = (.error fault, next)) (ticks : Nat) :
    program.step (program.after ticks state) = (.error fault, state) := by
  obtain ⟨rfl, _⟩ := of_step_error faulted
  have still : (program.step next).2 = next := by rw [faulted]
  rw [after_of_still still, faulted]

theorem fault_eq {fault : Fault} {next : State}
    (faulted : program.step state = (.error fault, next)) :
    fault = { kind := fault.kind, pc := state.pc, output := state.output } := by
  have outcome := outcome_of_step program state
  rw [faulted] at outcome
  cases outcome with
  | fault kind => rfl

/-- A halted machine only says so. Any other step is checked in three ways, each
fault has exactly one cause, and a step with none succeeds. A fault takes nothing
away and comes again at every later step. What the check of the stack lets pass never
reaches below the bottom of the stack, and what it stops would have. -/
theorem step_faults_exactly (program : Program) (state : State) :
    (state.halted = true → program.step state = (.ok .halted, state)) ∧
    (state.halted = false →
      (∀ len, program.FailsWith state (.pcOutOfBounds len) ↔
        program.size ≤ state.pc ∧ len = program.size) ∧
      (∀ opcode needed found, program.FailsWith state (.stackUnderflow opcode needed found) ↔
        ∃ instruction, program.get? state.pc = some instruction ∧
          opcode = instruction.opcode ∧ needed = opcode.stackInputs ∧
          found = state.stack.size ∧ found < needed) ∧
      (program.FailsWith state .divisionByZero ↔
        program.get? state.pc = some (.mod .zero) ∧ Opcode.mod.stackInputs ≤ state.stack.size) ∧
      (program.Succeeds state ↔
        ∃ instruction, program.get? state.pc = some instruction ∧
          instruction.opcode.stackInputs ≤ state.stack.size ∧ instruction ≠ .mod .zero) ∧
      ∀ instruction, program.get? state.pc = some instruction →
        (state.attempt instruction = none ↔
          state.stack.size < instruction.opcode.stackInputs) ∧
        (instruction.opcode.stackInputs ≤ state.stack.size →
          state.attempt instruction = some (program.step state))) ∧
    ∀ fault next, program.step state = (.error fault, next) →
      next = state ∧ fault.pc = state.pc ∧ fault.output = state.output ∧
        ∀ ticks, program.step (program.after ticks state) = (.error fault, state) := by
  refine ⟨step_of_halted, ?_, ?_⟩
  · intro active
    simp only [failsWith_iff active, succeeds_iff active]
    refine ⟨?_, ?_, ?_, ?_, ?_⟩
    · intro len
      rw [← get?_eq_none_iff]
      constructor
      · rintro ⟨absent⟩
        exact ⟨absent, rfl⟩
      · rintro ⟨absent, rfl⟩
        exact .pastEnd absent
    · intro opcode needed found
      constructor
      · rintro (_ | ⟨fetched, few⟩)
        exact ⟨_, fetched, rfl, rfl, rfl, few⟩
      · rintro ⟨instruction, fetched, rfl, rfl, rfl, few⟩
        exact .short fetched few
    · constructor
      · rintro (_ | _ | ⟨fetched, enough⟩)
        exact ⟨fetched, enough⟩
      · rintro ⟨fetched, enough⟩
        exact .byZero fetched enough
    · constructor
      · rintro (_ | _ | _ | ⟨fetched, enough, nonzero⟩)
        exact ⟨_, fetched, enough, nonzero⟩
      · rintro ⟨instruction, fetched, enough, nonzero⟩
        exact .pass fetched enough nonzero
    · intro instruction fetched
      refine ⟨State.attempt_eq_none_iff, ?_⟩
      intro enough
      rw [State.attempt_of_enough enough, step_of_enough active fetched enough]
  · intro fault next faulted
    obtain ⟨same, output⟩ := of_step_error faulted
    exact ⟨same, congrArg Fault.pc (fault_eq faulted), output, step_again faulted⟩

end Faults

end Program

end GateMachine
