import GateMachine.Proofs.ProgramLoading
import GateMachine.Proofs.ReachableStates

/-!
Programs with more instructions after their last one. A step reads the program in one
place only, where the program counter stands; so as long as this is inside the shorter
program both programs take the same step (`step_appended`), and so do runs of such
steps (`after_appended`). The step on which the shorter program runs past its end is
where the appended code takes over (`appended_code_takes_over`).
-/

namespace GateMachine

namespace Program

variable {program longer : Program} {state : State} {ticks : Nat}
  {code : List (Instruction Address)}

section PastEnd

/-- The next step faults because there is no instruction to execute. -/
def RunsPast (program : Program) (state : State) : Prop :=
  ∃ len, program.FailsWith state (.pcOutOfBounds len)

theorem runsPast_iff :
    program.RunsPast state ↔ state.halted = false ∧ program.size ≤ state.pc := by
  constructor
  · rintro ⟨len, fails⟩
    by_cases halted : state.halted = true
    · rcases fails with ⟨fault, faulted, _⟩
      rw [step_of_halted halted] at faulted
      cases faulted
    · have active : state.halted = false := by simpa using halted
      cases (failsWith_iff active).mp fails with
      | pastEnd absent => exact ⟨active, get?_eq_none_iff.mp absent⟩
  · rintro ⟨active, past⟩
    exact ⟨_, (failsWith_iff active).mpr (.pastEnd (get?_eq_none_iff.mpr past))⟩

instance (program : Program) (state : State) : Decidable (program.RunsPast state) :=
  decidable_of_iff _ runsPast_iff.symm

/-- From the start only the end itself is ever reached, and nothing beyond it. -/
theorem pc_of_runsPast (past : program.RunsPast (program.after ticks .start)) :
    (program.after ticks .start).pc = program.size :=
  Nat.le_antisymm (bounded_after program ticks).pc_le (runsPast_iff.mp past).2

end PastEnd

section Extension

theorem get?_eq_toList (program : Program) (index : Nat) :
    program.get? index = program.toList[index]? :=
  Array.getElem?_toList.symm

theorem length_toList (program : Program) : program.toList.length = program.size :=
  Array.length_toList

theorem get?_appended (appended : longer.toList = program.toList ++ code) {index : Nat}
    (inside : index < program.size) : longer.get? index = program.get? index := by
  rw [← length_toList] at inside
  rw [get?_eq_toList, get?_eq_toList, appended, List.getElem?_append_left inside]

theorem get?_appended_end (appended : longer.toList = program.toList ++ code) :
    longer.get? program.size = code.head? := by
  rw [get?_eq_toList, appended, ← length_toList,
    List.getElem?_append_right (Nat.le_refl _), Nat.sub_self, List.head?_eq_getElem?]

theorem step_of_same_fetch {instruction : Instruction Address} {other : Program}
    (fetched : program.get? state.pc = some instruction)
    (same : other.get? state.pc = some instruction) :
    other.step state = program.step state := by
  by_cases halted : state.halted = true
  · rw [step_of_halted halted, step_of_halted halted]
  have active : state.halted = false := by simpa using halted
  by_cases enough : instruction.opcode.stackInputs ≤ state.stack.size
  · rw [step_of_enough active fetched enough, step_of_enough active same enough]
  · have short := Nat.lt_of_not_le enough
    rw [step_of_short active fetched short, step_of_short active same short]

theorem step_appended (appended : longer.toList = program.toList ++ code)
    (inside : ¬ program.RunsPast state) : longer.step state = program.step state := by
  by_cases halted : state.halted = true
  · rw [step_of_halted halted, step_of_halted halted]
  have active : state.halted = false := by simpa using halted
  have place : state.pc < program.size := by
    apply Nat.lt_of_not_le
    intro past
    exact inside (runsPast_iff.mpr ⟨active, past⟩)
  cases fetched : program.get? state.pc with
  | none => exact absurd (get?_eq_none_iff.mp fetched) (Nat.not_le_of_lt place)
  | some instruction =>
      exact step_of_same_fetch fetched ((get?_appended appended place).trans fetched)

theorem after_appended (appended : longer.toList = program.toList ++ code)
    (inside : ∀ earlier < ticks, ¬ program.RunsPast (program.after earlier state)) :
    longer.after ticks state = program.after ticks state := by
  induction ticks generalizing state with
  | zero => rfl
  | succ ticks ih =>
      have first : ¬ program.RunsPast state := inside 0 (Nat.succ_pos ticks)
      rw [after, after, step_appended appended first]
      apply ih
      intro earlier before
      exact inside (earlier + 1) (Nat.succ_lt_succ before)

theorem tick_appended (appended : longer.toList = program.toList ++ code)
    (inside : ∀ earlier ≤ ticks, ¬ program.RunsPast (program.after earlier state)) :
    longer.tick ticks state = program.tick ticks state := by
  have reached := after_appended appended fun earlier before => inside earlier (Nat.le_of_lt before)
  rw [tick, tick, reached, step_appended appended (inside ticks (Nat.le_refl ticks))]

end Extension

section Continuation

/-- The next step of the program executes the instruction: it performs it, or faults
because the stack is too short for it. -/
structure Executes (program : Program) (state : State) (instruction : Instruction Address) :
    Prop where
  active : state.halted = false
  fetched : program.get? state.pc = some instruction
  performs : ∀ enough : instruction.opcode.stackInputs ≤ state.stack.size,
    program.step state = state.perform instruction enough
  underflows : state.stack.size < instruction.opcode.stackInputs →
    program.step state = state.fail (.stackUnderflow instruction.opcode
      instruction.opcode.stackInputs state.stack.size)

theorem executes_of_fetched {instruction : Instruction Address} (active : state.halted = false)
    (fetched : program.get? state.pc = some instruction) : program.Executes state instruction where
  active := active
  fetched := fetched
  performs := step_of_enough active fetched
  underflows := step_of_short active fetched

/-- What the longer program does in the state in which the shorter one has come to its end. -/
inductive TakesOver (program longer : Program) (state : State) :
    List (Instruction Address) → Prop where
  | next {first : Instruction Address} {rest : List (Instruction Address)}
      (executes : longer.Executes state first) : TakesOver program longer state (first :: rest)
  | nothing (ends : program.step state = state.fail (.pcOutOfBounds program.size))
      (fails : longer.step state = state.fail (.pcOutOfBounds longer.size)) :
      TakesOver program longer state []

theorem takesOver_of_end (appended : longer.toList = program.toList ++ code)
    (active : state.halted = false) (ends : state.pc = program.size) :
    TakesOver program longer state code := by
  have there := get?_appended_end appended
  rw [← ends] at there
  cases code with
  | nil =>
      have absent : program.get? state.pc = none := get?_eq_none_iff.mpr (Nat.le_of_eq ends.symm)
      exact .nothing (step_of_past_end active absent) (step_of_past_end active there)
  | cons first rest => exact .next (executes_of_fetched active there)

/-- Appending code never changes what a program already does. As long as the shorter program
does not run past its end, the longer one reports the same at every tick and is in the same
state. When the shorter program does run past its end, it stands exactly there, the longer one
is in the same state, and executes the first appended instruction next; without one it
faults in the same way. -/
theorem appended_code_takes_over (program longer : Program) (code : List (Instruction Address))
    (loaded : Program.ofAddresses (program.toList ++ code) = .ok longer) (ticks : Nat)
    (inside : ∀ earlier < ticks, ¬ program.RunsPast (program.after earlier .start)) :
    (∀ earlier < ticks, longer.tick earlier .start = program.tick earlier .start) ∧
      longer.after ticks .start = program.after ticks .start ∧
      (program.RunsPast (program.after ticks .start) →
        (program.after ticks .start).pc = program.size ∧
          TakesOver program longer (longer.after ticks .start) code) := by
  have appended := toList_of_ofAddresses loaded
  have reached : longer.after ticks .start = program.after ticks .start :=
    after_appended appended inside
  refine ⟨?_, reached, ?_⟩
  · intro earlier before
    apply tick_appended appended
    intro first order
    exact inside first (Nat.lt_of_le_of_lt order before)
  · intro past
    have ends := pc_of_runsPast past
    rw [reached]
    exact ⟨ends, takesOver_of_end appended (runsPast_iff.mp past).1 ends⟩

/-- A program that jumps over its `stop` and falls off its end, and the code behind it. -/
theorem appended_print_takes_over :
    ∃ program longer,
      Program.ofAddresses [.push .one, .ifNZero ⟨3⟩, .stop, .print "a"] = .ok program ∧
      Program.ofAddresses (program.toList ++ [.print "b", .jump ⟨0⟩]) = .ok longer ∧
      (∀ earlier < 3, ¬ program.RunsPast (program.after earlier .start)) ∧
      program.RunsPast (program.after 3 .start) ∧
      longer.after 3 .start = program.after 3 .start ∧
      TakesOver program longer (longer.after 3 .start) [.print "b", .jump ⟨0⟩] := by
  have loads : ∃ program longer,
      Program.ofAddresses [.push .one, .ifNZero ⟨3⟩, .stop, .print "a"] = .ok program ∧
      Program.ofAddresses (program.toList ++ [.print "b", .jump ⟨0⟩]) = .ok longer ∧
      (∀ earlier < 3, ¬ program.RunsPast (program.after earlier .start)) ∧
      program.RunsPast (program.after 3 .start) :=
    ⟨_, _, rfl, rfl, by decide, by decide⟩
  rcases loads with ⟨program, longer, short, long, inside, past⟩
  have whole := appended_code_takes_over program longer _ long 3 inside
  exact ⟨program, longer, short, long, inside, past, whole.2.1, (whole.2.2 past).2⟩

end Continuation

end Program

end GateMachine
