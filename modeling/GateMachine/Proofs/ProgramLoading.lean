import GateMachine.Proofs.SourceLoading

/-!
The two loaders. Both look for the first instruction whose target does not exist:
either there is none and the instructions load, or it is reported (`Checks`). What is
loaded are the instructions as given, with each line replaced by the address before
it (`toList_of_ofLines`, `toList_of_ofAddresses`); counting from one again gives back
what was written. So it makes no difference which of the loaders is asked
(`loaders_exact`).
-/

namespace GateMachine

namespace Line

/-- The address of a line, where lines count from one. -/
def address (line : Line) : Address := ⟨line.number - 1⟩

/-- One of the lines of a program of `len` instructions. -/
def Among (len : Nat) (line : Line) : Prop := 1 ≤ line.number.toNat ∧ line.number.toNat ≤ len

theorem position_address {line : Line} (counted : 1 ≤ line.number.toNat) :
    line.address.position + 1 = line.number.toNat := by
  have found : line.resolve line.number.toNat = some line.address := by
    rw [line.resolve_eq, if_pos ⟨counted, Nat.le_refl _⟩]
    rfl
  exact (position_of_resolve found).1

end Line

namespace Address

/-- The line with this address. -/
def line (address : Address) : Line := ⟨.ofNat address.lineNumber⟩

/-- One of the addresses of a program of `len` instructions. -/
def Among (len : Nat) (address : Address) : Prop := address.position < len

theorem among_address_iff {line : Line} (counted : 1 ≤ line.number.toNat) (len : Nat) :
    line.address.Among len ↔ line.Among len := by
  have place := Line.position_address counted
  unfold Among Line.Among
  omega

theorem line_address {line : Line} (counted : 1 ≤ line.number.toNat) :
    line.address.line = line := by
  have place := Line.position_address counted
  rw [Address.line, lineNumber, place, UInt64.ofNat_toNat]

end Address

namespace Instruction

variable {τ υ φ ε : Type} {instruction : Instruction τ} {inside : τ → Prop}

/-- The same instruction, with what `f` makes of its target. -/
def retarget (f : τ → υ) : Instruction τ → Instruction υ
  | .push word => .push word
  | .pop => .pop
  | .dup => .dup
  | .peek => .peek
  | .replace word => .replace word
  | .inc => .inc
  | .mod word => .mod word
  | .eq word => .eq word
  | .jump target => .jump (f target)
  | .ifNZero target => .ifNZero (f target)
  | .stop => .stop
  | .printHead => .printHead
  | .print text => .print text

/-- The target satisfies this, if there is one. -/
def Within (inside : τ → Prop) (instruction : Instruction τ) : Prop :=
  ∀ target, instruction.target? = some target → inside target

@[simp] theorem opcode_retarget (f : τ → υ) (instruction : Instruction τ) :
    (instruction.retarget f).opcode = instruction.opcode := by
  cases instruction <;> rfl

@[simp] theorem target?_retarget (f : τ → υ) (instruction : Instruction τ) :
    (instruction.retarget f).target? = instruction.target?.map f := by
  cases instruction <;> rfl

theorem retarget_retarget (f : τ → υ) (g : υ → φ) (instruction : Instruction τ) :
    (instruction.retarget f).retarget g = instruction.retarget fun target => g (f target) := by
  cases instruction <;> rfl

theorem retarget_of_fixed {f : τ → τ} (fixed : instruction.Within fun target => f target = target) :
    instruction.retarget f = instruction := by
  cases instruction with
  | jump target => exact congrArg jump (fixed target rfl)
  | ifNZero target => exact congrArg ifNZero (fixed target rfl)
  | _ => rfl

theorem within_retarget {f : τ → υ} {inside : υ → Prop} :
    (instruction.retarget f).Within inside ↔
      instruction.Within fun target => inside (f target) := by
  simp [Within]

theorem retarget_of_mapTarget {f : τ → Except ε υ} {g : τ → υ} {after : Instruction υ}
    (agrees : ∀ target image, f target = .ok image → image = g target)
    (mapped : instruction.mapTarget f = .ok after) : after = instruction.retarget g := by
  cases instruction with
  | jump target | ifNZero target =>
      cases image : f target with
      | error error => simp [mapTarget, image, Except.map] at mapped
      | ok found =>
          simp only [mapTarget, image, Except.map] at mapped
          cases mapped
          rw [agrees target found image]
          rfl
  | _ =>
      cases mapped
      rfl

section First

/-- The instruction at `index` names `target`, which is not inside, and no instruction
before it names such a target. -/
structure FirstOutside (inside : τ → Prop) (instructions : List (Instruction τ)) (index : Nat)
    (target : τ) : Prop where
  named : ∃ instruction, instructions[index]? = some instruction ∧
    instruction.target? = some target
  outside : ¬ inside target
  before : ∀ earlier < index, ∀ instruction, instructions[earlier]? = some instruction →
    instruction.Within inside

variable {instructions : List (Instruction τ)} {index : Nat} {target : τ}

theorem firstOutside_here (named : instruction.target? = some target)
    (outside : ¬ inside target) (rest : List (Instruction τ)) :
    FirstOutside inside (instruction :: rest) 0 target where
  named := ⟨instruction, rfl, named⟩
  outside := outside
  before := by
    intro earlier below
    exact absurd below (Nat.not_lt_zero earlier)

theorem FirstOutside.later (found : FirstOutside inside instructions index target)
    (first : instruction.Within inside) :
    FirstOutside inside (instruction :: instructions) (index + 1) target where
  named := found.named
  outside := found.outside
  before := by
    intro earlier order other present
    cases earlier with
    | zero =>
        cases present
        exact first
    | succ earlier => exact found.before earlier (Nat.lt_of_succ_lt_succ order) other present

theorem within_or_firstOutside (inside : τ → Prop) (instructions : List (Instruction τ)) :
    (∀ instruction ∈ instructions, instruction.Within inside) ∨
      ∃ index target, FirstOutside inside instructions index target := by
  induction instructions with
  | nil => exact .inl (by simp)
  | cons first rest ih =>
      by_cases within : first.Within inside
      · rcases ih with all | ⟨index, target, found⟩
        · exact .inl (List.forall_mem_cons.mpr ⟨within, all⟩)
        · exact .inr ⟨index + 1, target, found.later within⟩
      · obtain ⟨target, strays⟩ := Classical.not_forall.mp within
        obtain ⟨named, outside⟩ := Classical.not_imp.mp strays
        exact .inr ⟨0, target, firstOutside_here named outside rest⟩

theorem FirstOutside.split (found : FirstOutside inside instructions index target) :
    ∃ earlier instruction later, instructions = earlier ++ instruction :: later ∧
      earlier.length = index ∧ instruction.target? = some target ∧
      ∀ other ∈ earlier, other.Within inside := by
  obtain ⟨instruction, present, named⟩ := found.named
  obtain ⟨below, rfl⟩ := List.getElem?_eq_some_iff.mp present
  refine ⟨instructions.take index, instructions[index], instructions.drop (index + 1), ?_, ?_,
    named, ?_⟩
  · rw [List.getElem_cons_drop, List.take_append_drop]
  · exact List.length_take_of_le (Nat.le_of_lt below)
  · intro other member
    obtain ⟨earlier, order, rfl⟩ := List.mem_take_iff_getElem.mp member
    have bounds := Nat.lt_min.mp order
    exact found.before earlier bounds.1 _ (List.getElem?_eq_getElem bounds.2)

-- The same places are outside, as long as the two notions of inside agree on what is named.
theorem FirstOutside.map_retarget {f : τ → υ} {other : υ → Prop}
    (agrees : ∀ instruction ∈ instructions, instruction.Within fun target =>
      (other (f target) ↔ inside target))
    (found : FirstOutside inside instructions index target) :
    FirstOutside other (instructions.map (retarget f)) index (f target) where
  named := by
    obtain ⟨instruction, present, named⟩ := found.named
    exact ⟨instruction.retarget f, by simp [present], by simp [named]⟩
  outside := by
    obtain ⟨instruction, present, named⟩ := found.named
    have same := agrees instruction (List.mem_of_getElem? present) target named
    exact fun within => found.outside (same.mp within)
  before := by
    intro earlier order image present
    obtain ⟨instruction, original, rfl⟩ : ∃ instruction,
        instructions[earlier]? = some instruction ∧ instruction.retarget f = image := by
      simpa using present
    rw [within_retarget]
    intro named isNamed
    exact (agrees instruction (List.mem_of_getElem? original) named isNamed).mpr
      (found.before earlier order instruction original named isNamed)

end First

end Instruction

namespace Program

open Instruction

section Checks

variable {τ σ : Type} {inside : Nat → τ → Prop} {report : Nat → τ → Nat → σ}
  {load : List (Instruction τ) → Except σ Program}

/-- A loader that reports the first target outside, and loads if there is none. What is
inside depends on the number of instructions. -/
structure Checks (inside : Nat → τ → Prop) (report : Nat → τ → Nat → σ)
    (load : List (Instruction τ) → Except σ Program) : Prop where
  accepts : ∀ instructions,
    (∀ instruction ∈ instructions, instruction.Within (inside instructions.length)) →
      ∃ program, load instructions = .ok program
  refuses : ∀ instructions index target,
    FirstOutside (inside instructions.length) instructions index target →
      load instructions = .error (report index target instructions.length)

theorem Checks.ok_iff (checks : Checks inside report load) (instructions : List (Instruction τ)) :
    (∃ program, load instructions = .ok program) ↔
      ∀ instruction ∈ instructions, instruction.Within (inside instructions.length) := by
  refine ⟨?_, checks.accepts instructions⟩
  rintro ⟨program, loaded⟩
  rcases within_or_firstOutside (inside instructions.length) instructions with
    all | ⟨index, target, found⟩
  · exact all
  · rw [checks.refuses instructions index target found] at loaded
    contradiction

theorem Checks.error_iff (checks : Checks inside report load)
    (instructions : List (Instruction τ)) (stray : σ) :
    load instructions = .error stray ↔
      ∃ index target, stray = report index target instructions.length ∧
        FirstOutside (inside instructions.length) instructions index target := by
  constructor
  · intro refused
    rcases within_or_firstOutside (inside instructions.length) instructions with
      all | ⟨index, target, found⟩
    · obtain ⟨program, loaded⟩ := checks.accepts instructions all
      rw [loaded] at refused
      contradiction
    · rw [checks.refuses instructions index target found] at refused
      cases refused
      exact ⟨index, target, rfl, found⟩
  · rintro ⟨index, target, rfl, found⟩
    exact checks.refuses instructions index target found

end Checks

theorem toList_injective {first second : Program} (same : first.toList = second.toList) :
    first = second := by
  cases first
  cases second
  simpa [toList] using same

section Lines

variable {authored : List (Instruction Line)} {program : Program} {len index : Nat}

-- That an instruction `Reaches` a line of the program is what `Line.Among` says of its target.
theorem checks_ofLines : Checks Line.Among StrayLine.mk ofLines where
  accepts := fun _ inside => ofLines_of_reaches inside
  refuses := by
    intro instructions index line found
    obtain ⟨earlier, instruction, later, split, rfl, named, inside⟩ := found.split
    exact ofLines_of_stray split inside named found.outside

theorem address_of_addressOrStray {line : Line} {address : Address}
    (found : addressOrStray len index line = .ok address) : address = line.address := by
  unfold addressOrStray at found
  rw [Line.resolve_eq] at found
  by_cases inside : 1 ≤ line.number.toNat ∧ line.number.toNat ≤ len
  · rw [if_pos inside] at found
    cases found
    rfl
  · rw [if_neg inside] at found
    contradiction

theorem resolveFrom_eq_map {resolved : List (Instruction Address)}
    (loaded : resolveFrom len index authored = .ok resolved) :
    resolved = authored.map (retarget Line.address) := by
  induction authored generalizing index resolved with
  | nil =>
      cases loaded
      rfl
  | cons first rest ih =>
      rw [resolveFrom_cons] at loaded
      cases mapped : first.mapTarget (addressOrStray len index) with
      | error stray =>
          rw [mapped] at loaded
          contradiction
      | ok head =>
          cases found : resolveFrom len (index + 1) rest with
          | error stray =>
              rw [mapped, found] at loaded
              contradiction
          | ok tail =>
              rw [mapped, found] at loaded
              cases loaded
              have here := retarget_of_mapTarget (fun _ _ => address_of_addressOrStray) mapped
              rw [List.map_cons, ← here, ← ih found]

theorem toList_of_ofLines (loaded : ofLines authored = .ok program) :
    program.toList = authored.map (retarget Line.address) := by
  unfold ofLines at loaded
  split at loaded
  · contradiction
  · next resolved found =>
      cases loaded
      exact resolveFrom_eq_map found

/-- The program holds these instructions, with each line replaced by the address one
below it, and they can be read off it again. -/
structure LoadedFrom (authored : List (Instruction Line)) (program : Program) : Prop where
  size_eq : program.size = authored.length
  toList_eq : program.toList = authored.map (retarget Line.address)
  opcodes_eq : program.toList.map opcode = authored.map opcode
  position_eq : ∀ instruction ∈ authored, instruction.Within fun line =>
    line.address.position + 1 = line.number.toNat
  recovered : program.toList.map (retarget Address.line) = authored

theorem loadedFrom_of_ofLines (loaded : ofLines authored = .ok program) :
    LoadedFrom authored program := by
  have inside := (checks_ofLines.ok_iff authored).mp ⟨program, loaded⟩
  have instructions := toList_of_ofLines loaded
  refine ⟨?_, instructions, ?_, ?_, ?_⟩
  · have lengths := congrArg List.length instructions
    simpa [toList, size] using lengths
  · simp [instructions]
  · intro instruction member line named
    exact Line.position_address (inside instruction member line named).1
  · have fixed : ∀ instruction ∈ authored,
        (retarget Address.line ∘ retarget Line.address) instruction = id instruction := by
      intro instruction member
      rw [Function.comp_apply, retarget_retarget]
      apply retarget_of_fixed
      intro line named
      exact Address.line_address (inside instruction member line named).1
    rw [instructions, List.map_map, List.map_congr_left fixed, List.map_id]

end Lines

section Addresses

variable {resolved earlier : List (Instruction Address)} {program : Program} {len index : Nat}

theorem strayAddress?_of_within {instruction : Instruction Address}
    (within : instruction.Within (Address.Among len)) (index : Nat) :
    strayAddress? len instruction index = none := by
  unfold strayAddress?
  split
  · next address named => exact if_pos (within address named)
  · rfl

theorem strayAddress?_of_outside {instruction : Instruction Address} {address : Address}
    (named : instruction.target? = some address) (outside : ¬ address.Among len) (index : Nat) :
    strayAddress? len instruction index = some { index, address, len } := by
  unfold strayAddress?
  rw [named]
  exact if_neg outside

theorem firstStray?_of_within
    (inside : ∀ instruction ∈ resolved, instruction.Within (Address.Among len)) (index : Nat) :
    firstStray? len index resolved = none := by
  induction resolved generalizing index with
  | nil => rfl
  | cons first rest ih =>
      obtain ⟨within, others⟩ := List.forall_mem_cons.mp inside
      rw [firstStray?, strayAddress?_of_within within]
      exact ih others (index + 1)

theorem firstStray?_of_outside {instruction : Instruction Address} {address : Address}
    (inside : ∀ instruction ∈ earlier, instruction.Within (Address.Among len))
    (named : instruction.target? = some address) (outside : ¬ address.Among len)
    (later : List (Instruction Address)) (index : Nat) :
    firstStray? len index (earlier ++ instruction :: later) =
      some { index := index + earlier.length, address, len } := by
  induction earlier generalizing index with
  | nil =>
      rw [List.nil_append, firstStray?, strayAddress?_of_outside named outside]
      rfl
  | cons first rest ih =>
      obtain ⟨within, others⟩ := List.forall_mem_cons.mp inside
      have place : index + (first :: rest).length = index + 1 + rest.length := by
        rw [List.length_cons]
        omega
      rw [List.cons_append, firstStray?, strayAddress?_of_within within, place]
      exact ih others (index + 1)

theorem checks_ofAddresses : Checks Address.Among StrayAddress.mk ofAddresses where
  accepts := by
    intro instructions inside
    have clean := firstStray?_of_within inside 0
    unfold ofAddresses
    split
    · next stray found =>
        rw [clean] at found
        contradiction
    · exact ⟨_, rfl⟩
  refuses := by
    intro instructions index address found
    obtain ⟨earlier, instruction, later, split, rfl, named, inside⟩ := found.split
    have refused := firstStray?_of_outside inside named found.outside later 0
    rw [Nat.zero_add, ← split] at refused
    unfold ofAddresses
    split
    · next stray reported =>
        rw [refused] at reported
        cases reported
        rfl
    · next clean =>
        rw [refused] at clean
        contradiction

theorem toList_of_ofAddresses (loaded : ofAddresses resolved = .ok program) :
    program.toList = resolved := by
  unfold ofAddresses at loaded
  split at loaded
  · contradiction
  · cases loaded
    rfl

theorem ofAddresses_eq_ok_iff : ofAddresses resolved = .ok program ↔ program.toList = resolved := by
  refine ⟨toList_of_ofAddresses, ?_⟩
  rintro rfl
  obtain ⟨again, loaded⟩ := checks_ofAddresses.accepts program.toList fun instruction member =>
    program.inRange instruction (Array.mem_toList_iff.mp member)
  rw [loaded, toList_injective (toList_of_ofAddresses loaded)]

end Addresses

section Agreement

variable {authored : List (Instruction Line)}

theorem loaders_agree (counted : ∀ instruction ∈ authored, instruction.Within fun line =>
      1 ≤ line.number.toNat) :
    (ofLines authored).mapError StrayLine.index =
      (ofAddresses (authored.map (retarget Line.address))).mapError StrayAddress.index := by
  have agrees : ∀ instruction ∈ authored, instruction.Within fun line =>
      (line.address.Among authored.length ↔ line.Among authored.length) := by
    intro instruction member line named
    exact Address.among_address_iff (counted instruction member line named) authored.length
  have length : (authored.map (retarget Line.address)).length = authored.length :=
    List.length_map _
  rcases within_or_firstOutside (Line.Among authored.length) authored with
    all | ⟨index, line, found⟩
  · have moved : ∀ instruction ∈ authored.map (retarget Line.address),
        instruction.Within (Address.Among (authored.map (retarget Line.address)).length) := by
      intro image member
      obtain ⟨instruction, original, rfl⟩ := List.mem_map.mp member
      rw [length, within_retarget]
      intro line named
      exact (agrees instruction original line named).mpr (all instruction original line named)
    obtain ⟨first, loaded⟩ := checks_ofLines.accepts authored all
    obtain ⟨second, again⟩ := checks_ofAddresses.accepts _ moved
    have same : first = second := by
      apply toList_injective
      rw [toList_of_ofLines loaded, toList_of_ofAddresses again]
    rw [loaded, again, same]
    rfl
  · have moved := found.map_retarget agrees
    rw [← length] at moved
    rw [checks_ofLines.refuses authored index line found, checks_ofAddresses.refuses _ _ _ moved]
    rfl

/-- Instructions with lines load exactly when each names a line of the program; they are
then kept, with each line replaced by its address, and can be read off the program
again. Instructions with addresses load exactly when each address is one of the program,
and are kept as they are. Otherwise the first instruction to blame is reported, with its
target and the number of instructions. Where lines count from one, as they should, both
loaders give the same program or blame the same instruction. -/
theorem loaders_exact (authored : List (Instruction Line))
    (resolved : List (Instruction Address)) :
    ((∃ program, ofLines authored = .ok program) ↔
      ∀ instruction ∈ authored, instruction.Within (Line.Among authored.length)) ∧
    (∀ program, ofLines authored = .ok program → LoadedFrom authored program) ∧
    (∀ stray, ofLines authored = .error stray ↔
      ∃ index line, stray = { index, line, len := authored.length } ∧
        FirstOutside (Line.Among authored.length) authored index line) ∧
    ((∃ program, ofAddresses resolved = .ok program) ↔
      ∀ instruction ∈ resolved, instruction.Within (Address.Among resolved.length)) ∧
    (∀ program, ofAddresses resolved = .ok program → program.toList = resolved) ∧
    (∀ stray, ofAddresses resolved = .error stray ↔
      ∃ index address, stray = { index, address, len := resolved.length } ∧
        FirstOutside (Address.Among resolved.length) resolved index address) ∧
    ((∀ instruction ∈ authored, instruction.Within fun line => 1 ≤ line.number.toNat) →
      (ofLines authored).mapError StrayLine.index =
        (ofAddresses (authored.map (retarget Line.address))).mapError StrayAddress.index) :=
  ⟨checks_ofLines.ok_iff authored, fun _ => loadedFrom_of_ofLines,
    checks_ofLines.error_iff authored, checks_ofAddresses.ok_iff resolved,
    fun _ => toList_of_ofAddresses, checks_ofAddresses.error_iff resolved, loaders_agree⟩

end Agreement

end Program

end GateMachine
