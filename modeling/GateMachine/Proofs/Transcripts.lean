import GateMachine.Console
import GateMachine.Proofs.Executions

/-!
What the command line prints. An invocation whose arguments are accepted and whose
input holds a text is as good as that text and those arguments (`invoke_of_given`). Of
a text that does not load nothing is printed; otherwise the transcript is made from the
listing and from what the execution comes to (`endsWith_iff`), so that everything about
transcripts is said about executions first. Under a larger bound the output only
grows, and it stays the same once the run has ended in time
(`transcript_follows_run`).
-/

namespace GateMachine

namespace Console

variable {texts others : List String} {read : Input → Except ReadError ByteArray}
  {arguments : Arguments} {source : String} {program : Program}

section Invocations

/-- The arguments are accepted, and the input that they name holds the source. -/
structure Given (texts : List String) (read : Input → Except ReadError ByteArray)
    (arguments : Arguments) (source : String) : Prop where
  accepted : Arguments.read texts = .ok arguments
  held : ∃ content, read arguments.input = .ok content ∧ String.fromUTF8? content = some source

/-- The invocation comes to an end and leaves this transcript. -/
def EndsWith (texts : List String) (read : Input → Except ReadError ByteArray)
    (transcript : Transcript) : Prop :=
  ∃ fuel, invoke fuel texts read = some transcript

theorem invoke_of_given (given : Given texts read arguments source) (fuel : Nat) :
    invoke fuel texts read = runSource fuel arguments source := by
  rcases given.held with ⟨content, found, text⟩
  have whole : (read arguments.input >>= readText) = .ok source := by
    rw [found]
    simp only [bind, Except.bind, readText, text]
  simp only [invoke, given.accepted, whole]

theorem Given.other {bound : Option Nat} (given : Given texts read arguments source)
    (accepted : Arguments.read others = .ok { arguments with maxSteps := bound }) :
    Given others read { arguments with maxSteps := bound } source :=
  ⟨accepted, given.held⟩

/-- The transcript of an execution, after what was printed before it. -/
def concluded (before : String) : Except Failure Output → Transcript
  | .ok output => { exit := 0, stdout := before ++ outputText output, stderr := "" }
  | .error failure => failed before failure

theorem invoke_of_refused {failure : Failure} (given : Given texts read arguments source)
    (refused : (Draft.source source).load = .error failure) (fuel : Nat) :
    invoke fuel texts read = some (failed "" failure) := by
  rw [invoke_of_given given, runSource, refused]

theorem runSource_of_loaded (loaded : (Draft.source source).load = .ok program) (fuel : Nat) :
    runSource fuel arguments source =
      (program.execute fuel arguments.maxSteps).map
        (concluded (listingBlock arguments program)) := by
  rw [runSource, loaded]
  rfl

theorem endsWith_iff (given : Given texts read arguments source)
    (loaded : (Draft.source source).load = .ok program) {transcript : Transcript} :
    EndsWith texts read transcript ↔
      ∃ result, program.Concludes arguments.maxSteps result ∧
        transcript = concluded (listingBlock arguments program) result := by
  simp only [EndsWith, invoke_of_given given, runSource_of_loaded loaded, Option.map_eq_some_iff,
    ← Program.concludes_iff]
  constructor
  · rintro ⟨fuel, result, done, rfl⟩
    exact ⟨result, ⟨fuel, done⟩, rfl⟩
  · rintro ⟨result, ⟨fuel, done⟩, rfl⟩
    exact ⟨fuel, result, done, rfl⟩

theorem eq_failed_of_refused {failure : Failure} {transcript : Transcript}
    (given : Given texts read arguments source)
    (refused : (Draft.source source).load = .error failure)
    (ends : EndsWith texts read transcript) : transcript = failed "" failure := by
  rcases ends with ⟨fuel, done⟩
  rw [invoke_of_refused given refused] at done
  exact (Option.some.inj done).symm

end Invocations

section Streams

theorem stdout_concluded (before : String) (result : Except Failure Output) :
    (concluded before result).stdout = before ++ outputText (Program.shown result) := by
  cases result <;> rfl

theorem exit_concluded (before : String) (result : Except Failure Output) :
    ((concluded before result).exit = 0 ↔ ∃ output, result = .ok output) ∧
      ((concluded before result).exit = 0 ∨ (concluded before result).exit = 1) := by
  cases result with
  | ok output => simp [concluded]
  | error failure => simp [concluded, failed]

/-- A text that does not load has printed nothing, for it was never run. -/
theorem failed_of_refused {failure : Failure}
    (refused : (Draft.source source).load = .error failure) :
    failed "" failure = { exit := 1, stdout := "", stderr := failure.report true } := by
  have cause : ∃ error, failure = .ofSourceError source error := by
    rw [Draft.load] at refused
    cases loaded : Program.ofSource source with
    | ok program =>
        rw [loaded] at refused
        cases refused
    | error error =>
        rw [loaded] at refused
        cases refused
        exact ⟨error, rfl⟩
  rcases cause with ⟨error, rfl⟩
  rfl

theorem outputText_prefix {first second : Output} (grows : first.toList <+: second.toList) :
    ∃ more, outputText second = outputText first ++ more := by
  rcases grows with ⟨later, whole⟩
  refine ⟨String.join (later.map (· ++ "\n")), ?_⟩
  rw [outputText, ← whole, List.map_append, String.join_append]
  rfl

theorem bytes_prefix {first second more : String} (whole : second = first ++ more) :
    first.toUTF8.data.toList <+: second.toUTF8.data.toList := by
  subst whole
  refine ⟨more.toUTF8.data.toList, ?_⟩
  simp only [String.toUTF8, String.toByteArray_append, ByteArray.data_append, Array.toList_append]

end Streams

section Runs

/-- What a transcript says about the run of a program: first the listing, if it was
asked for, then all that was printed, one text a line; and success if the program
stops in time. -/
structure Follows (arguments : Arguments) (program : Program) (transcript : Transcript) :
    Prop where
  stdout : ∃ final, program.Leaves arguments.maxSteps final ∧
    transcript.stdout =
      (if arguments.debugProgram then "=== Program ===\n" ++ program.listing ++ "\n\n" else "") ++
        String.join (final.output.toList.map (· ++ "\n"))
  stopped : transcript.exit = 0 ↔ program.StopsWithin arguments.maxSteps
  exit : transcript.exit = 0 ∨ transcript.exit = 1

theorem follows_of_concludes {result : Except Failure Output}
    (concludes : program.Concludes arguments.maxSteps result) :
    Follows arguments program (concluded (listingBlock arguments program) result) := by
  have exits := exit_concluded (listingBlock arguments program) result
  refine ⟨?_, exits.1.trans concludes.ok_iff, exits.2⟩
  rcases concludes.leaves with ⟨final, leaves, same⟩
  refine ⟨final, leaves, ?_⟩
  rw [stdout_concluded, same]
  rfl

theorem transcripts_compare {bound : Option Nat} {small large : Transcript}
    (given : Given texts read arguments source)
    (loaded : (Draft.source source).load = .ok program)
    (accepted : Arguments.read others = .ok { arguments with maxSteps := bound })
    (order : Program.AtMost arguments.maxSteps bound) (first : EndsWith texts read small)
    (second : EndsWith others read large) :
    small.stdout.toUTF8.data.toList <+: large.stdout.toUTF8.data.toList ∧
      (¬ program.RunsOut arguments.maxSteps → large = small) := by
  rcases (endsWith_iff given loaded).mp first with ⟨result, concludes, rfl⟩
  rcases (endsWith_iff (given.other accepted) loaded).mp second with ⟨other, concludesOther, rfl⟩
  -- The bound does not show in the listing.
  have before : listingBlock { arguments with maxSteps := bound } program =
      listingBlock arguments program := rfl
  rw [before]
  constructor
  · rcases outputText_prefix (concludes.shown_prefix concludesOther order) with ⟨more, whole⟩
    apply bytes_prefix
    rw [stdout_concluded, stdout_concluded, whole, String.append_assoc]
  · intro enough
    rw [concludes.same concludesOther order enough]

/-- What is printed follows the run exactly and only grows with the bound. A text that
does not load leaves an empty output and exit code 1. Otherwise the invocation ends
exactly when the run ends under its bound; then it has printed the listing, if asked for,
and the texts of the run, and its exit code is 0 exactly if `stop` was executed in
time. Another invocation with a larger bound prints the same bytes first, and leaves
the same transcript unless the first one ran out of steps. -/
theorem transcript_follows_run (texts : List String) (read : Input → Except ReadError ByteArray)
    (arguments : Arguments) (source : String) (given : Given texts read arguments source) :
    (∀ failure, (Draft.source source).load = .error failure →
      ∃ stderr, ∀ fuel, invoke fuel texts read = some { exit := 1, stdout := "", stderr }) ∧
    (∀ program, (Draft.source source).load = .ok program →
      ((∃ transcript, EndsWith texts read transcript) ↔
        ∃ final, program.Leaves arguments.maxSteps final) ∧
      ∀ transcript, EndsWith texts read transcript → Follows arguments program transcript) ∧
    ∀ others bound, Arguments.read others = .ok { arguments with maxSteps := bound } →
      Program.AtMost arguments.maxSteps bound →
      ∀ small large, EndsWith texts read small → EndsWith others read large →
        small.stdout.toUTF8.data.toList <+: large.stdout.toUTF8.data.toList ∧
        ((∀ program, (Draft.source source).load = .ok program →
          ¬ program.RunsOut arguments.maxSteps) → large = small) := by
  refine ⟨?_, ?_, ?_⟩
  · intro failure refused
    refine ⟨failure.report true, ?_⟩
    intro fuel
    rw [invoke_of_refused given refused, failed_of_refused refused]
  · intro program loaded
    constructor
    · constructor
      · rintro ⟨transcript, ends⟩
        rcases (endsWith_iff given loaded).mp ends with ⟨result, concludes, _⟩
        rcases concludes.leaves with ⟨final, leaves, _⟩
        exact ⟨final, leaves⟩
      · rintro ⟨final, leaves⟩
        rcases Program.concludes_of_leaves leaves with ⟨result, concludes⟩
        exact ⟨_, (endsWith_iff given loaded).mpr ⟨result, concludes, rfl⟩⟩
    · intro transcript ends
      rcases (endsWith_iff given loaded).mp ends with ⟨result, concludes, rfl⟩
      exact follows_of_concludes concludes
  · intro others bound accepted order small large first second
    cases loaded : (Draft.source source).load with
    | error failure =>
        rw [eq_failed_of_refused given loaded first,
          eq_failed_of_refused (given.other accepted) loaded second]
        exact ⟨List.prefix_refl _, fun _ => rfl⟩
    | ok program =>
        have compared := transcripts_compare given loaded accepted order first second
        exact ⟨compared.1, fun enough => compared.2 (enough program rfl)⟩

/-- A program that stops at its third tick, run with one tick too few and without a bound. -/
theorem stopped_run_prints_more :
    ∃ (source : String) (read : Input → Except ReadError ByteArray) (small large : Transcript),
      source = "push 1\nprintHead\nstop" ∧ read .standard = .ok source.toUTF8 ∧
      Given ["--debug-program", "--max-steps=2", "-"] read ⟨some 2, true, "-"⟩ source ∧
      EndsWith ["--debug-program", "--max-steps=2", "-"] read small ∧
      EndsWith ["-", "--debug-program"] read large ∧
      small.exit = 1 ∧ large.exit = 0 ∧
      small.stdout.toUTF8.data.toList <+: large.stdout.toUTF8.data.toList := by
  have given : Given ["--debug-program", "--max-steps=2", "-"]
      (fun _ => .ok "push 1\nprintHead\nstop".toUTF8) ⟨some 2, true, "-"⟩
      "push 1\nprintHead\nstop" := ⟨rfl, _, rfl, rfl⟩
  refine ⟨_, _, _, _, rfl, rfl, given, ⟨0, rfl⟩, ⟨3, rfl⟩, rfl, rfl, ?_⟩
  exact ((transcript_follows_run _ _ _ _ given).2.2 ["-", "--debug-program"] none rfl trivial
    _ _ ⟨0, rfl⟩ ⟨3, rfl⟩).1

end Runs

end Console

end GateMachine
