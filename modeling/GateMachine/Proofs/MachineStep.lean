import GateMachine.Machine.Run

/-!
What one step of the machine can do. `Outcome` lists it once, and what is said
about runs is derived from the list (`outcome_of_step`). A fault leaves the state alone and
carries its output, a halted machine stays halted, and a step that goes on
only ever adds to the output.
-/

namespace GateMachine

namespace Program

variable {program : Program} {state : State} {instruction : Instruction Address}

section Equations

theorem step_of_halted (halted : state.halted = true) :
    program.step state = (.ok .halted, state) := by
  simp only [step, halted, if_true]

theorem step_of_past_end (active : state.halted = false) (absent : program.get? state.pc = none) :
    program.step state = state.fail (.pcOutOfBounds program.size) := by
  simp only [step, active, absent, Bool.false_eq_true, if_false]

theorem step_of_short (active : state.halted = false)
    (fetched : program.get? state.pc = some instruction)
    (short : state.stack.size < instruction.opcode.stackInputs) :
    program.step state =
      state.fail (.stackUnderflow instruction.opcode instruction.opcode.stackInputs
        state.stack.size) := by
  have few : ¬ instruction.opcode.stackInputs ≤ state.stack.size := Nat.not_le_of_lt short
  simp only [step, active, fetched, Bool.false_eq_true, if_false, dif_neg few]

theorem step_of_enough (active : state.halted = false)
    (fetched : program.get? state.pc = some instruction)
    (enough : instruction.opcode.stackInputs ≤ state.stack.size) :
    program.step state = state.perform instruction enough := by
  simp only [step, active, fetched, Bool.false_eq_true, if_false, dif_pos enough]

end Equations

section Outcomes

/-- Everything that a step can come to. -/
inductive Outcome (program : Program) (state : State) : Except Fault Tick × State → Prop where
  | idle (halted : state.halted = true) : Outcome program state (.ok .halted, state)
  | fault (kind : Fault.Kind) : Outcome program state (state.fail kind)
  | next {instruction : Instruction Address} (fetched : program.get? state.pc = some instruction)
      (stack : Stack Word) : Outcome program state (state.next stack)
  | goto (address : Address) (inside : address.position < program.size) (stack : Stack Word) :
      Outcome program state (state.goto address stack)
  | print {instruction : Instruction Address} (fetched : program.get? state.pc = some instruction)
      (text : String) : Outcome program state (state.print text)
  | stop (fetched : program.get? state.pc = some .stop) :
      Outcome program state (.ok .halted, { state with halted := true })

theorem target_inside (fetched : program.get? state.pc = some instruction) {address : Address}
    (named : instruction.target? = some address) : address.position < program.size :=
  program.inRange instruction (Array.mem_of_getElem? fetched) address named

theorem outcome_of_perform (fetched : program.get? state.pc = some instruction)
    (enough : instruction.opcode.stackInputs ≤ state.stack.size) :
    Outcome program state (state.perform instruction enough) := by
  cases instruction with
  | push word | pop | dup | peek | replace word | inc | eq word => exact .next fetched _
  | jump address => exact .goto address (target_inside fetched rfl) state.stack
  | printHead | print text => exact .print fetched _
  | stop => exact .stop fetched
  | mod word =>
      simp only [State.perform]
      split
      · exact .next fetched _
      · exact .fault .divisionByZero
  | ifNZero address =>
      simp only [State.perform]
      split
      · exact .next fetched state.stack.drop
      · exact .goto address (target_inside fetched rfl) state.stack.drop

theorem outcome_of_step (program : Program) (state : State) :
    Outcome program state (program.step state) := by
  by_cases halted : state.halted = true
  · rw [step_of_halted halted]
    exact .idle halted
  have active : state.halted = false := by simpa using halted
  cases fetched : program.get? state.pc with
  | none =>
      rw [step_of_past_end active fetched]
      exact .fault (.pcOutOfBounds program.size)
  | some instruction =>
      by_cases enough : instruction.opcode.stackInputs ≤ state.stack.size
      · rw [step_of_enough active fetched enough]
        exact outcome_of_perform fetched enough
      · rw [step_of_short active fetched (Nat.lt_of_not_le enough)]
        exact .fault _

end Outcomes

section Frames

variable {next final : State} {fault : Fault}

/-- A fault leaves the state as it was and carries its output. -/
theorem of_step_error (faulted : program.step state = (.error fault, next)) :
    next = state ∧ fault.output = state.output := by
  have outcome := outcome_of_step program state
  rw [faulted] at outcome
  cases outcome with
  | fault kind => exact ⟨rfl, rfl⟩

/-- The tick that halts prints nothing. -/
theorem of_step_halted (halts : program.step state = (.ok .halted, final)) :
    final.output = state.output ∧ final.halted = true := by
  have outcome := outcome_of_step program state
  rw [halts] at outcome
  cases outcome with
  | idle halted => exact ⟨rfl, halted⟩
  | stop fetched => exact ⟨rfl, rfl⟩

theorem Outcome.output_grows {result : Except Fault Tick × State}
    (outcome : Outcome program state result) :
    state.output.toList <+: result.2.output.toList := by
  cases outcome with
  | print fetched text => exact ⟨[text], by simp [State.print]⟩
  | _ => exact List.prefix_refl _

end Frames

end Program

end GateMachine
