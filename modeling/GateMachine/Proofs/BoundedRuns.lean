import GateMachine.Proofs.MachineStep

/-!
Runs with and without a bound. A run that ends does so at one tick, the one
that executes `stop` or faults. Bounds that leave this tick out all run out;
bounds that take it in all give the result of the run without a bound
(`runWithin_threshold`). Whatever the bound, what was printed under it is what
the machine has printed after that many ticks (`printed_runWithin`).
-/

namespace GateMachine

namespace Program

variable {program : Program} {state : State} {result : Except Fault Output}

section Ticks

theorem after_add (program : Program) (first second : Nat) (state : State) :
    program.after (first + second) state = program.after second (program.after first state) := by
  induction first generalizing state with
  | zero => simp [after]
  | succ first ih =>
      rw [Nat.succ_add]
      exact ih (program.step state).2

theorem after_of_still (still : (program.step state).2 = state) (ticks : Nat) :
    program.after ticks state = state := by
  induction ticks with
  | zero => rfl
  | succ ticks ih => rw [after, still, ih]

theorem tick_succ {next : State} {report : Except Fault Tick}
    (stepped : program.step state = (report, next)) (ticks : Nat) :
    program.tick (ticks + 1) state = program.tick ticks next := by
  simp only [tick, after, stepped]

theorem output_prefix_after (program : Program) (ticks : Nat) (state : State) :
    state.output.toList <+: (program.after ticks state).output.toList := by
  induction ticks generalizing state with
  | zero => exact List.prefix_refl _
  | succ ticks ih =>
      have now := (outcome_of_step program state).output_grows
      exact now.trans (ih (program.step state).2)

theorem output_prefix_of_le (program : Program) {fewer more : Nat} (order : fewer ≤ more)
    (state : State) :
    (program.after fewer state).output.toList <+: (program.after more state).output.toList := by
  obtain ⟨extra, rfl⟩ := Nat.exists_eq_add_of_le order
  rw [after_add]
  exact output_prefix_after program extra (program.after fewer state)

end Ticks

section Counting

/-- `Finishes`, counting the ticks up to the one that ends the run, which counts too. -/
inductive FinishesAt (program : Program) : Nat → State → Except Fault Output → Prop where
  | fault {state after : State} {fault : Fault}
      (faulted : program.step state = (.error fault, after)) :
      FinishesAt program 1 state (.error fault)
  | halt {state final : State} (halted : program.step state = (.ok .halted, final)) :
      FinishesAt program 1 state (.ok final.output)
  | tick {ticks : Nat} {state next : State} {result : Except Fault Output}
      (running : program.step state = (.ok .running, next))
      (rest : FinishesAt program ticks next result) :
      FinishesAt program (ticks + 1) state result

theorem finishes_iff_finishesAt :
    program.Finishes state result ↔ ∃ ticks, program.FinishesAt ticks state result := by
  constructor
  · intro finishes
    induction finishes with
    | fault faulted => exact ⟨1, .fault faulted⟩
    | halt halted => exact ⟨1, .halt halted⟩
    | tick running _ ih =>
        obtain ⟨ticks, rest⟩ := ih
        exact ⟨ticks + 1, .tick running rest⟩
  · rintro ⟨ticks, finishes⟩
    induction finishes with
    | fault faulted => exact .fault faulted
    | halt halted => exact .halt halted
    | tick running _ ih => exact .tick running ih

theorem FinishesAt.positive {ticks : Nat} (finishes : program.FinishesAt ticks state result) :
    1 ≤ ticks := by
  cases finishes with
  | fault _ => exact Nat.le_refl 1
  | halt _ => exact Nat.le_refl 1
  | tick _ _ => exact Nat.succ_pos _

theorem FinishesAt.running_before {ticks : Nat}
    (finishes : program.FinishesAt ticks state result) :
    ∀ earlier, earlier + 1 < ticks → program.tick earlier state = .ok .running := by
  induction finishes with
  | fault _ | halt _ =>
      intro earlier before
      omega
  | tick running _ ih =>
      intro earlier before
      cases earlier with
      | zero => simp only [Program.tick, after, running]
      | succ earlier =>
          rw [tick_succ running]
          exact ih earlier (Nat.lt_of_succ_lt_succ before)

theorem FinishesAt.ends_at {ticks : Nat} (finishes : program.FinishesAt ticks state result) :
    program.tick (ticks - 1) state ≠ .ok .running := by
  induction finishes with
  | fault faulted => simp [Program.tick, after, faulted]
  | halt halted => simp [Program.tick, after, halted]
  | @tick ticks _ _ _ running rest ih =>
      obtain ⟨earlier, rfl⟩ := Nat.exists_eq_add_of_le' rest.positive
      simpa [tick_succ running] using ih

-- The induction is on a tick that does not go on: the run has ended by then.
theorem endless_or_finishesAt (program : Program) (state : State) :
    (∀ ticks, program.tick ticks state = .ok .running) ∨
      ∃ ticks result, program.FinishesAt ticks state result := by
  by_cases endless : ∀ ticks, program.tick ticks state = .ok .running
  · exact .inl endless
  right
  obtain ⟨ticks, ends⟩ := Classical.not_forall.mp endless
  clear endless
  induction ticks generalizing state with
  | zero =>
      rcases stepped : program.step state with ⟨_ | ⟨_ | _⟩, next⟩
      · exact ⟨1, _, .fault stepped⟩
      · exact absurd (by simp only [tick, after, stepped]) ends
      · exact ⟨1, _, .halt stepped⟩
  | succ ticks ih =>
      rcases stepped : program.step state with ⟨_ | ⟨_ | _⟩, next⟩
      · exact ⟨1, _, .fault stepped⟩
      · rw [tick_succ stepped] at ends
        obtain ⟨more, result, rest⟩ := ih next ends
        exact ⟨more + 1, result, .tick stepped rest⟩
      · exact ⟨1, _, .halt stepped⟩

theorem finishes_unique {other : Except Fault Output} (first : program.Finishes state result)
    (second : program.Finishes state other) : other = result := by
  induction first with
  | fault faulted => cases second <;> simp_all
  | halt halted => cases second <;> simp_all
  | tick running _ ih =>
      cases second with
      | fault again => simp_all
      | halt again => simp_all
      | tick again rest =>
          have same := running.symm.trans again
          cases same
          exact ih rest

end Counting

section Bounds

variable {ticks bound maxSteps : Nat}

theorem resumeWithin_of_running
    (running : ∀ earlier < bound, program.tick earlier state = .ok .running) :
    program.resumeWithin maxSteps bound state =
      .error (.stepLimit { maxSteps, output := (program.after bound state).output }) := by
  induction bound generalizing state with
  | zero => rfl
  | succ bound ih =>
      have now := running 0 (Nat.succ_pos bound)
      rcases stepped : program.step state with ⟨report, next⟩
      simp only [tick, after, stepped] at now
      subst now
      have later : ∀ earlier < bound, program.tick earlier next = .ok .running := by
        intro earlier before
        rw [← tick_succ stepped]
        exact running (earlier + 1) (Nat.succ_lt_succ before)
      simp only [resumeWithin, after, stepped]
      exact ih later

theorem resumeWithin_of_finishesAt (finishes : program.FinishesAt ticks state result)
    (enough : ticks ≤ bound) :
    program.resumeWithin maxSteps bound state = result.mapError .fault := by
  induction finishes generalizing bound with
  | fault faulted =>
      obtain ⟨spare, rfl⟩ := Nat.exists_eq_add_of_le' enough
      simp only [resumeWithin, faulted]
      rfl
  | halt halted =>
      obtain ⟨spare, rfl⟩ := Nat.exists_eq_add_of_le' enough
      simp only [resumeWithin, halted]
      rfl
  | tick running _ ih =>
      cases bound with
      | zero => omega
      | succ bound =>
          simp only [resumeWithin, running]
          exact ih (Nat.le_of_succ_le_succ enough)

/-- What a bounded run has printed, whether it ended or not. -/
def printed : Except RunError Output → Output
  | .ok output => output
  | .error error => error.output

-- After a fault or a halt the state stands still, so the ticks left over print nothing.
theorem printed_resumeWithin (program : Program) (maxSteps bound : Nat) (state : State) :
    printed (program.resumeWithin maxSteps bound state) = (program.after bound state).output := by
  induction bound generalizing state with
  | zero => rfl
  | succ bound ih =>
      rcases stepped : program.step state with ⟨fault | ⟨_ | _⟩, next⟩
      · obtain ⟨same, output⟩ := of_step_error stepped
        have still : (program.step next).2 = next := by
          rw [same, stepped]
          exact same
        simp only [resumeWithin, after, stepped, after_of_still still]
        rw [same]
        exact output
      · simp only [resumeWithin, after, stepped]
        exact ih next
      · obtain ⟨_, halted⟩ := of_step_halted stepped
        have still : (program.step next).2 = next := by rw [step_of_halted halted]
        simp only [resumeWithin, after, stepped, after_of_still still]
        rfl

theorem printed_runWithin (program : Program) (bound : Nat) :
    printed (program.runWithin bound) = (program.after bound .start).output :=
  printed_resumeWithin program bound bound .start

/-- The report of a run that is given up after exactly `bound` ticks. -/
def limitAt (program : Program) (bound : Nat) : Except RunError Output :=
  .error (.stepLimit { maxSteps := bound, output := (program.after bound .start).output })

/-- Bounds below the threshold run out; from the threshold on they give the result. -/
def SwitchesAt (program : Program) (result : Except Fault Output) (threshold : Nat) : Prop :=
  (∀ bound < threshold, program.runWithin bound = program.limitAt bound) ∧
    ∀ bound, threshold ≤ bound → program.runWithin bound = result.mapError .fault

theorem switchesAt_of_finishesAt (finishes : program.FinishesAt ticks .start result) :
    program.SwitchesAt result ticks := by
  constructor
  · intro bound below
    apply resumeWithin_of_running
    intro earlier before
    exact finishes.running_before earlier (Nat.lt_of_le_of_lt before below)
  · intro bound enough
    exact resumeWithin_of_finishesAt finishes enough

theorem limitAt_ne_result (bound : Nat) : program.limitAt bound ≠ result.mapError .fault := by
  intro same
  cases result with
  | error fault =>
      have inner : RunError.stepLimit _ = RunError.fault fault := Except.error.inj same
      contradiction
  | ok output => contradiction

theorem switchesAt_unique {first second : Nat} (one : program.SwitchesAt result first)
    (two : program.SwitchesAt result second) : second = first := by
  rcases Nat.lt_trichotomy second first with below | same | above
  · exact absurd ((one.1 second below).symm.trans (two.2 second (Nat.le_refl _)))
      (limitAt_ne_result second)
  · exact same
  · exact absurd ((two.1 first above).symm.trans (one.2 first (Nat.le_refl _)))
      (limitAt_ne_result first)

/-- Either a program never ends, and every bound runs out; or it ends at one tick,
and that tick is the only threshold between the bounds that run out and those that
give the result of the run without a bound. A larger bound only prints more. -/
theorem runWithin_threshold (program : Program) :
    ((∀ result, ¬ program.Finishes .start result) ∧
          (∀ bound, program.runWithin bound = program.limitAt bound) ∨
        ∃ result, (∀ other, program.Finishes .start other ↔ other = result) ∧
          ∃ threshold, 1 ≤ threshold ∧
            (∀ earlier < threshold - 1, program.tick earlier .start = .ok .running) ∧
            program.tick (threshold - 1) .start ≠ .ok .running ∧
            program.SwitchesAt result threshold ∧
            ∀ other, program.SwitchesAt result other → other = threshold) ∧
      ∀ small large, small ≤ large →
        (printed (program.runWithin small)).toList <+:
          (printed (program.runWithin large)).toList := by
  refine ⟨?_, ?_⟩
  · rcases endless_or_finishesAt program .start with endless | ⟨threshold, result, finishes⟩
    · refine .inl ⟨?_, fun bound => resumeWithin_of_running fun earlier _ => endless earlier⟩
      intro result finishes
      obtain ⟨ticks, counted⟩ := finishes_iff_finishesAt.mp finishes
      exact counted.ends_at (endless (ticks - 1))
    · have ends := finishes_iff_finishesAt.mpr ⟨threshold, finishes⟩
      have switches := switchesAt_of_finishesAt finishes
      refine .inr ⟨result, ?_, threshold, finishes.positive, ?_, finishes.ends_at, switches, ?_⟩
      · intro other
        constructor
        · intro again
          exact finishes_unique ends again
        · rintro rfl
          exact ends
      · intro earlier before
        exact finishes.running_before earlier (Nat.add_lt_of_lt_sub before)
      · intro other again
        exact switchesAt_unique switches again
  · intro small large order
    rw [printed_runWithin, printed_runWithin]
    exact output_prefix_of_le program order .start

end Bounds

end Program

end GateMachine
