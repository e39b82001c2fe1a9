import GateMachine.Proofs.ExactFaults

/-!
What a run leaves alone. `State.atop` puts a state after texts that were printed
earlier and on top of words that were pushed earlier. A step that finds enough
words above those does to both states the same (`step_atop`), and so does a run
of such steps (`after_atop`, `tick_atop`). So words below the working depth are
never read or changed (`deeper_words_untouched`).
-/

namespace GateMachine

namespace Stack

variable {α : Type u} {stack : Stack α} {offset : Nat}

/-- The same items on top of others; these are given from the top down as well. -/
def above (stack : Stack α) (below : List α) : Stack α :=
  ⟨below.reverse.toArray ++ stack.items⟩

@[simp] theorem toList_above (stack : Stack α) (below : List α) :
    (stack.above below).toList = stack.toList ++ below := by
  simp [toList, above]

@[simp] theorem size_above (stack : Stack α) (below : List α) :
    (stack.above below).size = stack.size + below.length := by
  rw [← length_toList, toList_above, List.length_append, length_toList]

theorem eq_of_toList {first second : Stack α} (same : first.toList = second.toList) :
    first = second := by
  cases first
  cases second
  simpa [toList] using same

theorem push_above (stack : Stack α) (below : List α) (item : α) :
    (stack.above below).push item = (stack.push item).above below := by
  apply eq_of_toList
  simp

theorem drop_above (below : List α) (inside : 0 < stack.size) :
    (stack.above below).drop = stack.drop.above below := by
  apply eq_of_toList
  have some : stack.toList ≠ [] := by
    intro empty
    rw [← length_toList, empty] at inside
    contradiction
  simp [List.tail_append_of_ne_nil some]

theorem get_above {below : List α} (inside : offset < stack.size)
    (deeper : offset < (stack.above below).size) :
    (stack.above below).get offset deeper = stack.get offset inside := by
  have here := stack.getElem?_toList offset inside
  have there := (stack.above below).getElem?_toList offset deeper
  have short : offset < stack.toList.length := by simpa using inside
  rw [toList_above, List.getElem?_append_left short, here] at there
  exact (Option.some.inj there).symm

theorem set_above {below : List α} (item : α) (inside : offset < stack.size)
    (deeper : offset < (stack.above below).size) :
    (stack.above below).set offset item deeper = (stack.set offset item inside).above below := by
  apply eq_of_toList
  have short : offset < stack.toList.length := by simpa using inside
  simp [List.set_append_left offset item short]

theorem dupAt_above {below : List α} (inside : offset < stack.size)
    (deeper : offset < (stack.above below).size) :
    (stack.above below).dupAt offset deeper = (stack.dupAt offset inside).above below := by
  rw [dupAt, dupAt, get_above inside deeper, push_above]

end Stack

namespace State

/-- The same state after earlier output and on top of more words. -/
def atop (state : State) (printed : Output) (below : List Word) : State :=
  { state with stack := state.stack.above below, output := printed ++ state.output }

theorem eq_atop {state other : State} {printed : Output} {below : List Word}
    (pc : other.pc = state.pc) (stack : other.stack.toList = state.stack.toList ++ below)
    (output : other.output = printed ++ state.output) (halted : other.halted = state.halted) :
    other = state.atop printed below := by
  have whole : other.stack = state.stack.above below := by
    apply Stack.eq_of_toList
    rw [stack, Stack.toList_above]
  calc
    other = ⟨other.pc, other.stack, other.output, other.halted⟩ := rfl
    _ = state.atop printed below := by rw [pc, whole, output, halted]; rfl

end State

/-- The same report after earlier output, which a fault carries too. -/
def reportAfter (printed : Output) : Except Fault Tick → Except Fault Tick
  | .error fault => .error { fault with output := printed ++ fault.output }
  | .ok tick => .ok tick

/-- The same outcome of a step, after earlier output and on top of more words. -/
def outcomeAtop (printed : Output) (below : List Word) (outcome : Except Fault Tick × State) :
    Except Fault Tick × State :=
  (reportAfter printed outcome.1, outcome.2.atop printed below)

namespace State

variable {printed : Output} {below : List Word}

@[simp] theorem next_atop (state : State) (stack : Stack Word) :
    (state.atop printed below).next (stack.above below) =
      outcomeAtop printed below (state.next stack) := rfl

@[simp] theorem goto_atop (state : State) (address : Address) (stack : Stack Word) :
    (state.atop printed below).goto address (stack.above below) =
      outcomeAtop printed below (state.goto address stack) := rfl

@[simp] theorem fail_atop (state : State) (kind : Fault.Kind) :
    (state.atop printed below).fail kind = outcomeAtop printed below (state.fail kind) := rfl

@[simp] theorem print_atop (state : State) (text : String) :
    (state.atop printed below).print text = outcomeAtop printed below (state.print text) := by
  have same : (printed ++ state.output).push text = printed ++ state.output.push text :=
    Array.append_push.symm
  simp only [print, outcomeAtop, atop, same]
  rfl

/-- An instruction looks no deeper than it asks for, and at no output. -/
theorem perform_atop {state : State} {instruction : Instruction Address}
    (enough : instruction.opcode.stackInputs ≤ state.stack.size)
    (deeper : instruction.opcode.stackInputs ≤ (state.atop printed below).stack.size) :
    (state.atop printed below).perform instruction deeper =
      outcomeAtop printed below (state.perform instruction enough) := by
  have stack : (state.atop printed below).stack = state.stack.above below := rfl
  cases instruction with
  | push word =>
      simp only [perform, stack, Stack.push_above, next_atop]
  | pop =>
      simp only [perform, stack, Stack.drop_above below enough, next_atop]
  | dup | peek =>
      simp only [perform, stack, Stack.dupAt_above enough, next_atop]
  | replace word =>
      simp only [perform, stack, Stack.set_above word enough, next_atop]
  | inc =>
      simp only [perform, stack, Stack.get_above enough, Stack.set_above _ enough, next_atop]
  | eq word =>
      simp only [perform, stack, Stack.get_above enough, Stack.push_above, next_atop]
  | jump address =>
      simp only [perform, stack, goto_atop]
  | printHead =>
      simp only [perform, stack, Stack.get_above enough, print_atop]
  | print text =>
      simp only [perform, print_atop]
  | stop => rfl
  | mod word =>
      simp only [perform, stack, Stack.get_above enough, Stack.set_above _ enough]
      cases (state.stack.get 0 enough).modulo word with
      | none => exact fail_atop state .divisionByZero
      | some remainder => exact next_atop state _
  | ifNZero address =>
      simp only [perform, stack, Stack.get_above enough, Stack.drop_above below enough]
      by_cases zero : (state.stack.get 0 enough).isZero = true
      · simp only [zero, if_true, next_atop]
      · simp only [zero, Bool.false_eq_true, if_false, goto_atop]

end State

namespace Program

variable {program : Program} {state : State} {ticks : Nat}

section Frames

/-- The next step faults because the stack is too short. -/
def Underflows (program : Program) (state : State) : Prop :=
  ∃ opcode needed found, program.FailsWith state (.stackUnderflow opcode needed found)

instance (program : Program) (state : State) : Decidable (program.Underflows state) :=
  match said : (program.step state).1 with
  | .error ⟨.stackUnderflow opcode needed found, _, _⟩ =>
      isTrue ⟨opcode, needed, found, _, said, rfl⟩
  | .error ⟨.pcOutOfBounds _, _, _⟩ | .error ⟨.divisionByZero, _, _⟩ =>
      isFalse fun ⟨_, _, _, _, again, kind⟩ => by
        cases said.symm.trans again
        cases kind
  | .ok _ => isFalse fun ⟨_, _, _, _, again, _⟩ => by cases said.symm.trans again

theorem underflows_iff :
    program.Underflows state ↔
      state.halted = false ∧ ∃ instruction, program.get? state.pc = some instruction ∧
        state.stack.size < instruction.opcode.stackInputs := by
  constructor
  · rintro ⟨opcode, needed, found, fails⟩
    by_cases halted : state.halted = true
    · rcases fails with ⟨fault, faulted, _⟩
      rw [step_of_halted halted] at faulted
      cases faulted
    · have active : state.halted = false := by simpa using halted
      cases (failsWith_iff active).mp fails with
      | short fetched few => exact ⟨active, _, fetched, few⟩
  · rintro ⟨active, instruction, fetched, few⟩
    exact ⟨_, _, _, (failsWith_iff active).mpr (.short fetched few)⟩

theorem step_atop (enough : ¬ program.Underflows state) (printed : Output) (below : List Word) :
    program.step (state.atop printed below) =
      outcomeAtop printed below (program.step state) := by
  by_cases halted : state.halted = true
  · have same : (state.atop printed below).halted = true := halted
    rw [step_of_halted halted, step_of_halted same]
    rfl
  have active : state.halted = false := by simpa using halted
  have activeAtop : (state.atop printed below).halted = false := active
  cases fetched : program.get? state.pc with
  | none =>
      have fetchedAtop : program.get? (state.atop printed below).pc = none := fetched
      rw [step_of_past_end active fetched, step_of_past_end activeAtop fetchedAtop]
      exact State.fail_atop state _
  | some instruction =>
      have fetchedAtop : program.get? (state.atop printed below).pc = some instruction := fetched
      by_cases deep : instruction.opcode.stackInputs ≤ state.stack.size
      · have deeper : instruction.opcode.stackInputs ≤ (state.atop printed below).stack.size := by
          have size : (state.atop printed below).stack.size = state.stack.size + below.length :=
            Stack.size_above state.stack below
          omega
        rw [step_of_enough active fetched deep, step_of_enough activeAtop fetchedAtop deeper]
        exact State.perform_atop deep deeper
      · -- A stack that is too short is what the hypothesis rules out.
        exact absurd (underflows_iff.mpr ⟨active, instruction, fetched, Nat.lt_of_not_le deep⟩) enough

theorem after_atop (enough : ∀ earlier < ticks, ¬ program.Underflows (program.after earlier state))
    (printed : Output) (below : List Word) :
    program.after ticks (state.atop printed below) =
      (program.after ticks state).atop printed below := by
  induction ticks generalizing state with
  | zero => rfl
  | succ ticks ih =>
      have first : ¬ program.Underflows state := enough 0 (Nat.succ_pos ticks)
      have later : ∀ earlier < ticks,
          ¬ program.Underflows (program.after earlier (program.step state).2) := by
        intro earlier before
        exact enough (earlier + 1) (Nat.succ_lt_succ before)
      rw [after, step_atop first]
      exact ih later

theorem tick_atop (enough : ∀ earlier ≤ ticks, ¬ program.Underflows (program.after earlier state))
    (printed : Output) (below : List Word) :
    program.tick ticks (state.atop printed below) =
      reportAfter printed (program.tick ticks state) := by
  have reached := after_atop (fun earlier before => enough earlier (Nat.le_of_lt before)) printed below
  rw [tick, reached, step_atop (enough ticks (Nat.le_refl ticks))]
  rfl

end Frames

section Depth

/-- The states differ only in words that the second has below the stack of the first. -/
structure Deepens (below : List Word) (state deeper : State) : Prop where
  pc : deeper.pc = state.pc
  output : deeper.output = state.output
  halted : deeper.halted = state.halted
  stack : deeper.stack.toList = state.stack.toList ++ below

theorem deepens_atop (state : State) (below : List Word) :
    Deepens below state (state.atop #[] below) where
  pc := rfl
  output := Array.empty_append
  halted := rfl
  stack := Stack.toList_above state.stack below

theorem Deepens.eq_atop {below : List Word} {deeper : State} (deepens : Deepens below state deeper) :
    deeper = state.atop #[] below := by
  apply State.eq_atop deepens.pc deepens.stack _ deepens.halted
  rw [deepens.output, Array.empty_append]

theorem reportAfter_nothing (report : Except Fault Tick) : reportAfter #[] report = report := by
  cases report with
  | error fault => simp [reportAfter]
  | ok tick => rfl

/-- Words below the working depth are never read or changed. As long as the machine
does not run short of words, the one with more words below its stack reports the same
at every tick, is in the same state otherwise, and still has those words below the
same stack. -/
theorem deeper_words_untouched (program : Program) (below : List Word) (state deeper : State)
    (ticks : Nat) (deepens : Deepens below state deeper)
    (enough : ∀ earlier < ticks, ¬ program.Underflows (program.after earlier state)) :
    (∀ earlier < ticks, program.tick earlier deeper = program.tick earlier state) ∧
      Deepens below (program.after ticks state) (program.after ticks deeper) := by
  rw [deepens.eq_atop]
  constructor
  · intro earlier before
    have sofar : ∀ first ≤ earlier, ¬ program.Underflows (program.after first state) := by
      intro first order
      exact enough first (Nat.lt_of_le_of_lt order before)
    rw [tick_atop sofar, reportAfter_nothing]
  · rw [after_atop enough]
    exact deepens_atop (program.after ticks state) below

/-- A run that branches, drops a word and then divides by zero again and again, with
and without two more words below its stack. -/
theorem deeper_words_untouched_by_faulting_run :
    ∃ program state deeper,
      Program.ofAddresses [.dup, .ifNZero ⟨3⟩, .stop, .pop, .mod .zero] = .ok program ∧
      state = { State.start with stack := ⟨#[.one, .one]⟩ } ∧
      Deepens [.zero, .one] state deeper ∧
      (∀ earlier < 6, ¬ program.Underflows (program.after earlier state)) ∧
      (∀ earlier < 6, program.tick earlier deeper = program.tick earlier state) ∧
      Deepens [.zero, .one] (program.after 6 state) (program.after 6 deeper) := by
  refine ⟨_, _, { State.start with stack := ⟨#[.one, .zero, .one, .one]⟩ }, rfl, rfl,
    ⟨rfl, rfl, rfl, rfl⟩, ?_, ?_⟩
  · decide
  · exact deeper_words_untouched _ [.zero, .one] _ _ 6 ⟨rfl, rfl, rfl, rfl⟩ (by decide)

end Depth

end Program

end GateMachine
