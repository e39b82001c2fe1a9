import GateMachine.Proofs.Executions
import GateMachine.Proofs.ReachableStates

/-!
Programs that only jump forward. A step that goes on leads to the next instruction or
to the place that its instruction names (`place_of_running`), so where no jump leads
back the program counter rises with every such step (`pc_lt_of_running`). After as many
ticks as the program has instructions there is nothing left to execute, and one tick
more finds this out (`forward_program_ends`).
-/

namespace GateMachine

namespace Program

variable {program : Program} {state : State} {ticks : Nat}

section Places

theorem place_of_perform {instruction : Instruction Address}
    (enough : instruction.opcode.stackInputs ≤ state.stack.size)
    (running : (state.perform instruction enough).1 = .ok .running) :
    (state.perform instruction enough).2.pc = state.pc + 1 ∨
      ∃ address ∈ instruction.target?,
        (state.perform instruction enough).2.pc = address.position := by
  cases instruction with
  | push word | pop | dup | peek | replace word | inc | eq word => exact .inl rfl
  | printHead | print text => exact .inl rfl
  | jump address => exact .inr ⟨address, rfl, rfl⟩
  | stop => cases running
  | mod word =>
      simp only [State.perform] at running ⊢
      split at running
      · exact .inl rfl
      · cases running
  | ifNZero address =>
      simp only [State.perform]
      split
      · exact .inl rfl
      · exact .inr ⟨address, rfl, rfl⟩

theorem place_of_running (running : (program.step state).1 = .ok .running) :
    ∃ instruction ∈ program.get? state.pc,
      (program.step state).2.pc = state.pc + 1 ∨
        ∃ address ∈ instruction.target?, (program.step state).2.pc = address.position := by
  have active := active_of_running running
  cases fetched : program.get? state.pc with
  | none =>
      rw [step_of_past_end active fetched] at running
      cases running
  | some instruction =>
      by_cases enough : instruction.opcode.stackInputs ≤ state.stack.size
      · rw [step_of_enough active fetched enough] at running ⊢
        exact ⟨instruction, rfl, place_of_perform enough running⟩
      · rw [step_of_short active fetched (Nat.lt_of_not_le enough)] at running
        cases running

end Places

section Forward

/-- Every jump leads further down than where it stands. -/
def Forward (program : Program) : Prop :=
  ∀ index < program.size, ∀ instruction ∈ program.get? index,
    ∀ address ∈ instruction.target?, index < address.position

instance (program : Program) : Decidable program.Forward :=
  inferInstanceAs (Decidable (∀ index < program.size, ∀ instruction ∈ program.get? index,
    ∀ address ∈ instruction.target?, index < address.position))

theorem pc_lt_of_running (forward : program.Forward)
    (running : (program.step state).1 = .ok .running) :
    state.pc < (program.step state).2.pc := by
  rcases place_of_running running with ⟨instruction, fetched, next | ⟨address, named, there⟩⟩
  · rw [next]
    exact Nat.lt_succ_self state.pc
  · rw [there]
    exact forward state.pc (lt_size_of_fetched fetched) instruction fetched address named

theorem pc_add_le_after (forward : program.Forward) (running : program.GoesOn ticks state) :
    state.pc + ticks ≤ (program.after ticks state).pc := by
  induction ticks generalizing state with
  | zero => exact Nat.le_refl state.pc
  | succ ticks ih =>
      rcases goesOn_succ.mp running with ⟨now, later⟩
      have risen := pc_lt_of_running forward now
      have rest := ih later
      rw [after]
      omega

/-- The program counter cannot rise past the end, so it rises once for each instruction. -/
theorem goesOn_le_size (forward : program.Forward) (running : program.GoesOn ticks .start) :
    ticks ≤ program.size := by
  have risen : State.start.pc + ticks ≤ (program.after ticks .start).pc :=
    pc_add_le_after forward running
  have inside := (bounded_after program ticks).pc_le
  have begins : State.start.pc = 0 := rfl
  omega

theorem finishesAt_of_forward (forward : program.Forward) :
    ∃ ticks result, program.FinishesAt ticks .start result ∧ ticks ≤ program.size + 1 := by
  rcases endless_or_finishesAt program .start with endless | ⟨ticks, result, ends⟩
  · have tooLong : program.GoesOn (program.size + 1) .start := fun earlier _ => endless earlier
    exact absurd (goesOn_le_size forward tooLong) (Nat.not_succ_le_self program.size)
  · have sofar := goesOn_le_size forward ends.goesOn
    exact ⟨ticks, result, ends, by omega⟩

end Forward

section Endings

variable {result : Except Fault Output}

theorem resume_of_finishesAt (ends : program.FinishesAt ticks state result) {fuel : Nat}
    (enough : ticks ≤ fuel) : program.resume fuel state = some result := by
  induction ends generalizing fuel with
  | fault faulted =>
      cases fuel with
      | zero => contradiction
      | succ fuel => simp only [resume, faulted]
  | halt halts =>
      cases fuel with
      | zero => contradiction
      | succ fuel => simp only [resume, halts]
  | tick running _ ih =>
      cases fuel with
      | zero => contradiction
      | succ fuel =>
          simp only [resume, running]
          exact ih (Nat.le_of_succ_le_succ enough)

/-- A `stop` stands inside the program, so coming to it leaves a tick to spare. -/
theorem stopsWithin_size (forward : program.Forward) {output : Output}
    (ends : program.FinishesAt ticks .start (.ok output)) :
    program.StopsWithin (some program.size) := by
  rcases ends.at_stop with ⟨active, fetched⟩
  refine ⟨ticks - 1, ?_, active, fetched⟩
  rintro _ ⟨⟩
  have risen := pc_add_le_after forward ends.goesOn
  have inside := lt_size_of_fetched fetched
  omega

/-- A program without a jump back always ends. It executes `stop` within as many ticks as
it has instructions, or faults within one tick more; so every bound that allows this
many ticks gives the result of the run without a bound, and none of them runs out. -/
theorem forward_program_ends (program : Program) (forward : program.Forward) :
    ∃ result, (∀ other, program.Finishes .start other ↔ other = result) ∧
      ((∃ output, result = .ok output ∧ program.StopsWithin (some program.size)) ∨
        ∃ fault, result = .error fault ∧
          ∃ ticks < program.size + 1, program.tick ticks .start = .error fault) ∧
      (∀ fuel, program.size + 1 ≤ fuel → program.run fuel = some result) ∧
      ∀ bound, program.size + 1 ≤ bound →
        program.runWithin bound = result.mapError .fault ∧
          ∀ limit, program.runWithin bound ≠ .error (.stepLimit limit) := by
  rcases finishesAt_of_forward forward with ⟨ticks, result, ends, inTime⟩
  refine ⟨result, ?_, ?_, ?_, ?_⟩
  · intro other
    constructor
    · exact finishes_unique ends.finishes
    · rintro rfl
      exact ends.finishes
  · cases result with
    | ok output => exact .inl ⟨output, rfl, stopsWithin_size forward ends⟩
    | error fault =>
        have positive := ends.positive
        exact .inr ⟨fault, rfl, ticks - 1, by omega, ends.tick_from (by omega)⟩
  · intro fuel enough
    exact resume_of_finishesAt ends (Nat.le_trans inTime enough)
  · intro bound enough
    have same : program.runWithin bound = result.mapError .fault :=
      resumeWithin_of_finishesAt ends (Nat.le_trans inTime enough)
    refine ⟨same, ?_⟩
    intro limit exceeded
    rw [same] at exceeded
    cases result with
    | ok output => cases exceeded
    | error fault => cases exceeded

/-- A jump over a `stop`, after which the last instruction is followed by nothing. -/
theorem skipping_program_ends :
    ∃ program, Program.ofAddresses [.push .one, .ifNZero ⟨3⟩, .stop, .print "x"] = .ok program ∧
      program.Forward ∧
      ∀ bound, 5 ≤ bound →
        program.runWithin bound = .error (.fault ⟨.pcOutOfBounds 4, 4, #["x"]⟩) := by
  have loads : ∃ program,
      Program.ofAddresses [.push .one, .ifNZero ⟨3⟩, .stop, .print "x"] = .ok program ∧
      program.Forward ∧ program.size = 4 ∧
      program.run 5 = some (.error ⟨.pcOutOfBounds 4, 4, #["x"]⟩) :=
    ⟨_, rfl, by decide, rfl, rfl⟩
  rcases loads with ⟨program, loaded, forward, size, computed⟩
  refine ⟨program, loaded, forward, ?_⟩
  rcases forward_program_ends program forward with ⟨result, _, _, runs, within⟩
  rw [size] at runs within
  rw [runs 5 (Nat.le_refl 5)] at computed
  cases computed
  intro bound enough
  exact (within bound enough).1

end Endings

end Program

end GateMachine
