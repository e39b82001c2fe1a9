import GateMachine.Execution
import GateMachine.Proofs.EndlessLoops

/-!
Executing a program, with a bound or without. An execution comes to an end in one of
two ways, which `Concludes` lists: the run ends in time, or it goes on through all the
ticks it may take and is given up (`concludes_iff`). All that is said about executions
follows from the list: what has been printed (`Concludes.leaves`), that only `stop`
makes a success (`Concludes.ok_iff`), and what a larger bound changes
(`Concludes.same`, `Concludes.shown_prefix`).
-/

namespace GateMachine

namespace Program

variable {program : Program} {state : State} {ticks : Nat}

section Endings

variable {result : Except Fault Output}

theorem FinishesAt.finishes (ends : program.FinishesAt ticks state result) :
    program.Finishes state result :=
  finishes_iff_finishesAt.mpr ⟨ticks, ends⟩

/-- From its last tick on, a run says how it has ended. -/
theorem FinishesAt.tick_from (ends : program.FinishesAt ticks state result) {later : Nat}
    (reached : ticks ≤ later + 1) :
    program.tick later state = result.map fun _ => Tick.halted := by
  induction ends generalizing later with
  | fault faulted =>
      rw [Program.tick, step_again faulted]
      rfl
  | halt halts =>
      cases later with
      | zero =>
          rw [Program.tick, after, halts]
          rfl
      | succ later =>
          rw [tick_succ halts, Program.tick, after_of_stopped halts, step_of_stopped halts]
          rfl
  | tick running rest ih =>
      cases later with
      | zero =>
          have positive := rest.positive
          omega
      | succ later =>
          rw [tick_succ running]
          exact ih (Nat.le_of_succ_le_succ reached)

theorem FinishesAt.goesOn (ends : program.FinishesAt ticks state result) :
    program.GoesOn (ticks - 1) state := by
  intro earlier before
  exact ends.running_before earlier (Nat.add_lt_of_lt_sub before)

/-- A run that goes on through some ticks has not ended at one of them. -/
theorem FinishesAt.lt_of_goesOn (ends : program.FinishesAt ticks state result) {steps : Nat}
    (running : program.GoesOn steps state) : steps < ticks := by
  by_cases order : steps < ticks
  · exact order
  · have positive := ends.positive
    have last := running (ticks - 1) (by omega)
    exact absurd last ends.ends_at

theorem step_stop (active : state.halted = false) (fetched : program.get? state.pc = some .stop) :
    program.step state = (.ok .halted, { state with halted := true }) :=
  step_of_enough active fetched (Nat.zero_le state.stack.size)

theorem fetched_of_halting (active : state.halted = false)
    (halts : (program.step state).1 = .ok .halted) : program.get? state.pc = some .stop := by
  have outcome := outcome_of_step program state
  generalize program.step state = result at outcome halts
  cases outcome with
  | stop fetched => exact fetched
  | idle halted =>
      rw [active] at halted
      contradiction
  | fault | next | goto | print => cases halts

end Endings

section Conclusions

/-- Everything that executing a program under a bound can come to. -/
inductive Concludes (program : Program) (bound : Option Nat) : Except Failure Output → Prop where
  | ended {ticks : Nat} {result : Except Fault Output}
      (ends : program.FinishesAt ticks .start result)
      (inTime : ∀ steps, bound = some steps → ticks ≤ steps) :
      Concludes program bound (result.mapError .runtime)
  | givenUp {steps : Nat} (limited : bound = some steps)
      (running : program.GoesOn steps .start) :
      Concludes program bound (.error (.resourceExceeded
        { maxSteps := steps, output := (program.after steps .start).output }))

variable {bound : Option Nat} {result : Except Failure Output}

theorem mapError_runtime (result : Except Fault Output) :
    (result.mapError RunError.fault).mapError Failure.ofRunError =
      result.mapError Failure.runtime := by
  cases result <;> rfl

theorem concludes_within (program : Program) (steps : Nat) :
    Concludes program (some steps) ((program.runWithin steps).mapError .ofRunError) := by
  have givenUp : program.GoesOn steps .start → Concludes program (some steps)
      ((program.runWithin steps).mapError .ofRunError) := by
    intro running
    rw [runWithin, resumeWithin_of_running running]
    exact .givenUp rfl running
  rcases endless_or_finishesAt program .start with endless | ⟨ticks, result, ends⟩
  · exact givenUp fun earlier _ => endless earlier
  · by_cases inTime : ticks ≤ steps
    · rw [runWithin, resumeWithin_of_finishesAt ends inTime, mapError_runtime]
      apply Concludes.ended ends
      rintro _ ⟨⟩
      exact inTime
    · apply givenUp
      intro earlier before
      exact ends.running_before earlier (by omega)

theorem concludes_iff :
    (∃ fuel, program.execute fuel bound = some result) ↔ Concludes program bound result := by
  cases bound with
  | none =>
      simp only [execute, Option.map_eq_some_iff]
      constructor
      · rintro ⟨fuel, whole, done, rfl⟩
        rcases finishes_iff_finishesAt.mp (finishes_of_resume done) with ⟨ticks, ends⟩
        exact .ended ends nofun
      · rintro (⟨ends, _⟩ | ⟨⟨⟩, _⟩)
        rcases resume_of_finishes ends.finishes with ⟨fuel, done⟩
        exact ⟨fuel, _, done, rfl⟩
  | some steps =>
      simp only [execute, Option.some.injEq, exists_const]
      constructor
      · rintro rfl
        exact concludes_within program steps
      · rintro (⟨ends, inTime⟩ | ⟨⟨⟩, running⟩)
        · rw [runWithin, resumeWithin_of_finishesAt ends (inTime steps rfl), mapError_runtime]
        · rw [runWithin, resumeWithin_of_running running]
          rfl

end Conclusions

section Printing

variable {bound : Option Nat} {result : Except Failure Output}

/-- What an execution has to show, whether it succeeded or not. -/
def shown : Except Failure Output → Output
  | .ok output => output
  | .error failure => failure.partialOutput.getD #[]

/-- The state in which an execution leaves the machine: after all the ticks of its
bound, or without one after a tick that ends the run. -/
inductive Leaves (program : Program) : Option Nat → State → Prop where
  | bounded (steps : Nat) : Leaves program (some steps) (program.after steps .start)
  | unbounded {ticks : Nat} (ends : program.tick ticks .start ≠ .ok .running) :
      Leaves program none (program.after (ticks + 1) .start)

theorem shown_mapError (result : Except Fault Output) :
    shown (result.mapError .runtime) = printed (result.mapError .fault) := by
  cases result <;> rfl

-- Ticks after the last one print nothing, so it does not matter how many are left over.
theorem FinishesAt.printed_after {result : Except Fault Output}
    (ends : program.FinishesAt ticks .start result) {steps : Nat} (inTime : ticks ≤ steps) :
    shown (result.mapError .runtime) = (program.after steps .start).output := by
  rw [shown_mapError, ← resumeWithin_of_finishesAt ends inTime]
  exact printed_runWithin program steps

theorem Concludes.leaves (concludes : Concludes program bound result) :
    ∃ final, program.Leaves bound final ∧ shown result = final.output := by
  cases concludes with
  | @ended ticks _ ends inTime =>
      cases bound with
      | none =>
          have last : ticks - 1 + 1 = ticks := Nat.sub_add_cancel ends.positive
          refine ⟨_, .unbounded ends.ends_at, ?_⟩
          rw [last]
          exact ends.printed_after (Nat.le_refl ticks)
      | some steps => exact ⟨_, .bounded steps, ends.printed_after (inTime steps rfl)⟩
  | givenUp limited running =>
      subst limited
      exact ⟨_, .bounded _, rfl⟩

theorem concludes_of_leaves {final : State} (leaves : program.Leaves bound final) :
    ∃ result, Concludes program bound result := by
  cases leaves with
  | bounded steps => exact ⟨_, concludes_within program steps⟩
  | @unbounded ticks last =>
      rcases endless_or_finishesAt program .start with endless | ⟨ticks, result, ends⟩
      · exact absurd (endless ticks) last
      · exact ⟨_, .ended ends nofun⟩

end Printing

section Success

variable {bound : Option Nat} {result : Except Failure Output}

/-- The machine comes to a `stop` and executes it within the bound. -/
def StopsWithin (program : Program) (bound : Option Nat) : Prop :=
  ∃ ticks, (∀ steps, bound = some steps → ticks < steps) ∧
    (program.after ticks .start).halted = false ∧
    program.get? (program.after ticks .start).pc = some .stop

theorem FinishesAt.at_stop {output : Output} (ends : program.FinishesAt ticks .start (.ok output)) :
    (program.after (ticks - 1) .start).halted = false ∧
      program.get? (program.after (ticks - 1) .start).pc = some .stop := by
  have active : (program.after (ticks - 1) .start).halted = false := halted_after ends.goesOn
  have last : program.tick (ticks - 1) .start = .ok .halted := ends.tick_from (by omega)
  exact ⟨active, fetched_of_halting active last⟩

theorem Concludes.ok_iff (concludes : Concludes program bound result) :
    (∃ output, result = .ok output) ↔ program.StopsWithin bound := by
  cases concludes with
  | @ended ticks whole ends inTime =>
      constructor
      · rintro ⟨output, success⟩
        cases whole with
        | error fault => cases success
        | ok output =>
            refine ⟨ticks - 1, ?_, ends.at_stop⟩
            intro steps limited
            exact Nat.lt_of_lt_of_le (Nat.sub_one_lt_of_lt ends.positive) (inTime steps limited)
      · rintro ⟨place, _, active, fetched⟩
        have halts : program.tick place .start = .ok .halted := by
          rw [tick, step_stop active fetched]
        by_cases reached : ticks ≤ place + 1
        · rw [ends.tick_from reached] at halts
          cases whole with
          | error fault => cases halts
          | ok output => exact ⟨output, rfl⟩
        · -- Before the last tick the run only goes on.
          rw [ends.running_before place (Nat.lt_of_not_le reached)] at halts
          cases halts
  | @givenUp steps limited running =>
      constructor
      · rintro ⟨output, success⟩
        cases success
      · rintro ⟨place, inTime, active, fetched⟩
        have halts : program.tick place .start = .ok .halted := by
          rw [tick, step_stop active fetched]
        rw [running place (inTime steps limited)] at halts
        cases halts

end Success

section Comparison

variable {small large : Option Nat} {result other : Except Failure Output}

/-- The first bound is at most the second; no bound is the largest. -/
def AtMost : Option Nat → Option Nat → Prop
  | _, none => True
  | none, some _ => False
  | some fewer, some more => fewer ≤ more

/-- The run goes on through all the ticks that the bound allows. -/
def RunsOut (program : Program) (bound : Option Nat) : Prop :=
  ∃ steps, bound = some steps ∧ program.GoesOn steps .start

theorem inTime_of_atMost {ticks : Nat} (order : AtMost small large)
    (inTime : ∀ steps, small = some steps → ticks ≤ steps) :
    ∀ steps, large = some steps → ticks ≤ steps := by
  rintro more rfl
  cases small with
  | none => cases order
  | some fewer => exact Nat.le_trans (inTime fewer rfl) order

theorem Concludes.same (first : Concludes program small result)
    (second : Concludes program large other) (order : AtMost small large)
    (enough : ¬ program.RunsOut small) : other = result := by
  cases first with
  | givenUp limited running => exact absurd ⟨_, limited, running⟩ enough
  | ended ends inTime =>
      cases second with
      | ended again _ => rw [finishes_unique ends.finishes again.finishes]
      | givenUp limited running =>
          have before := ends.lt_of_goesOn running
          have after := inTime_of_atMost order inTime _ limited
          exact absurd after (Nat.not_le_of_lt before)

theorem Concludes.shown_prefix (first : Concludes program small result)
    (second : Concludes program large other) (order : AtMost small large) :
    (shown result).toList <+: (shown other).toList := by
  by_cases exceeded : program.RunsOut small
  · rcases exceeded with ⟨fewer, rfl, running⟩
    rcases first.leaves with ⟨_, ⟨⟩, here⟩
    rcases second.leaves with ⟨_, leaves, there⟩
    rw [here, there]
    cases leaves with
    | bounded more => exact output_prefix_of_le program order .start
    | @unbounded ticks last =>
        apply output_prefix_of_le
        by_cases early : ticks < fewer
        · exact absurd (running ticks early) last
        · omega
  · simp only [first.same second order exceeded, List.prefix_refl]

end Comparison

end Program

end GateMachine
