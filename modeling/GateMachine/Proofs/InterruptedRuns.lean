import GateMachine.Proofs.ExactFaults

/-!
Runs that are interrupted. Single steps may be taken before a run, as many as one
likes and whatever they report; going on from there comes to what the run from the
start comes to (`interrupted_run_resumes`). No step changes what lies ahead
(`finishes_step_iff`): one that goes on is the first tick of the run, and one
that halts or faults leaves a state which says the same when it is asked again.
-/

namespace GateMachine

namespace Program

variable {program : Program} {state next final : State} {result : Except Fault Output}

section Standing

theorem step_of_stopped (halts : program.step state = (.ok .halted, final)) :
    program.step final = (.ok .halted, final) := by
  apply step_of_halted
  exact (of_step_halted halts).2

theorem after_of_stopped (halts : program.step state = (.ok .halted, final)) (ticks : Nat) :
    program.after ticks final = final := by
  apply after_of_still
  rw [step_of_stopped halts]

end Standing

section Results

theorem finishes_of_running (running : program.step state = (.ok .running, next))
    (finishes : program.Finishes state result) : program.Finishes next result := by
  cases finishes with
  | fault faulted =>
      rw [running] at faulted
      cases faulted
  | halt halted =>
      rw [running] at halted
      cases halted
  | tick again rest =>
      rw [running] at again
      cases again
      exact rest

theorem finishes_step_iff (program : Program) (state : State) (result : Except Fault Output) :
    program.Finishes (program.step state).2 result ↔ program.Finishes state result := by
  rcases stepped : program.step state with ⟨fault | ⟨_ | _⟩, next⟩
  · obtain ⟨rfl, _⟩ := of_step_error stepped
    exact Iff.rfl
  · exact ⟨.tick stepped, finishes_of_running stepped⟩
  · -- Both states have one result, and it is the same.
    have before : program.Finishes state (.ok next.output) := .halt stepped
    have after : program.Finishes next (.ok next.output) := .halt (step_of_stopped stepped)
    constructor
    · intro finishes
      rw [finishes_unique after finishes]
      exact before
    · intro finishes
      rw [finishes_unique before finishes]
      exact after

theorem finishes_after_iff (program : Program) (ticks : Nat) (state : State)
    (result : Except Fault Output) :
    program.Finishes (program.after ticks state) result ↔ program.Finishes state result := by
  induction ticks generalizing state with
  | zero => exact Iff.rfl
  | succ ticks ih => exact (ih (program.step state).2).trans (finishes_step_iff program state result)

end Results

section Fuel

-- One unit of fuel stays for the state itself, which may have to repeat how the run ended.
theorem resume_after (program : Program) (ticks fuel : Nat) (state : State) :
    program.resume (fuel + 1) (program.after ticks state) =
      program.resume (ticks + (fuel + 1)) state := by
  induction ticks generalizing state with
  | zero =>
      rw [Nat.zero_add]
      rfl
  | succ ticks ih =>
      rw [Nat.succ_add]
      rcases stepped : program.step state with ⟨fault | ⟨_ | _⟩, next⟩
      · obtain ⟨rfl, _⟩ := of_step_error stepped
        rw [after, stepped]
        simp only [resume, stepped, step_again stepped ticks]
      · rw [after, stepped, ih next]
        simp only [resume, stepped]
      · rw [after, stepped, after_of_stopped stepped]
        simp only [resume, stepped, step_of_stopped stepped]

/-- A run can be interrupted after any number of steps, also beyond a halt or a
fault, and resumed: it ends exactly when the run from the start does, with the same
output or the same fault, and no tick is lost or taken twice on the way. -/
theorem interrupted_run_resumes (program : Program) (ticks : Nat) :
    ((∃ resumed, program.Finishes (program.after ticks .start) resumed) ↔
      ∃ whole, program.Finishes .start whole) ∧
    (∀ resumed whole, program.Finishes (program.after ticks .start) resumed →
      program.Finishes .start whole → resumed = whole) ∧
    ∀ fuel, program.resume (fuel + 1) (program.after ticks .start) =
      program.run (ticks + (fuel + 1)) := by
  have same := finishes_after_iff program ticks .start
  refine ⟨exists_congr same, ?_, fun fuel => resume_after program ticks fuel .start⟩
  intro resumed whole goesOn runs
  exact finishes_unique runs ((same resumed).mp goesOn)

end Fuel

end Program

end GateMachine
