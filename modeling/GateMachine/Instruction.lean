import GateMachine.Column
import GateMachine.Location
import GateMachine.Opcode
import GateMachine.Quoted
import GateMachine.Word

/-!
Instructions, parametrised by what a jump names: a `Line` while a program is
being written, an `Address` once it is loaded. The operand's type is fixed
by the constructor, so no instruction carries an operand of the wrong kind.
-/

namespace GateMachine

inductive Instruction (target : Type) where
  | push (word : Word)
  | pop
  | dup
  | peek
  | replace (word : Word)
  | inc
  | mod (word : Word)
  | eq (word : Word)
  | jump (target : target)
  | ifNZero (target : target)
  | stop
  | printHead
  | print (text : String)
  deriving DecidableEq

namespace Instruction

variable {τ υ : Type} {ε : Type}

def opcode : Instruction τ → Opcode
  | .push _ => .push
  | .pop => .pop
  | .dup => .dup
  | .peek => .peek
  | .replace _ => .replace
  | .inc => .inc
  | .mod _ => .mod
  | .eq _ => .eq
  | .jump _ => .jump
  | .ifNZero _ => .ifNZero
  | .stop => .stop
  | .printHead => .printHead
  | .print _ => .print

def target? : Instruction τ → Option τ
  | .jump target => some target
  | .ifNZero target => some target
  | _ => none

/-- Replaces the target, if there is one, unless that fails. -/
def mapTarget (f : τ → Except ε υ) : Instruction τ → Except ε (Instruction υ)
  | .push word => .ok (.push word)
  | .pop => .ok .pop
  | .dup => .ok .dup
  | .peek => .ok .peek
  | .replace word => .ok (.replace word)
  | .inc => .ok .inc
  | .mod word => .ok (.mod word)
  | .eq word => .ok (.eq word)
  | .jump target => (f target).map .jump
  | .ifNZero target => (f target).map .ifNZero
  | .stop => .ok .stop
  | .printHead => .ok .printHead
  | .print text => .ok (.print text)

/-- The operand as written, for the instructions that have one. -/
def operandText? (targetText : τ → String) : Instruction τ → Option String
  | .push word | .replace word | .mod word | .eq word => some word.decimal
  | .jump target | .ifNZero target => some (targetText target)
  | .print text => some (Quoted.quote text)
  | .pop | .dup | .peek | .inc | .stop | .printHead => none

/-- The instruction as written: the mnemonic, one space, the operand. -/
def text (targetText : τ → String) (instruction : Instruction τ) : String :=
  match instruction.operandText? targetText with
  | some operand => instruction.opcode.mnemonic ++ " " ++ operand
  | none => instruction.opcode.mnemonic

/-- As written, but with the targets of jumps lined up in one column. -/
def alignedText (targetText : τ → String) (instruction : Instruction τ) : String :=
  match instruction.target? with
  | some target => Column.padRight 8 instruction.opcode.mnemonic ++ " " ++ targetText target
  | none => instruction.text targetText

/-- A target of the result is what the function made of some target. -/
theorem target?_of_mapTarget {f : τ → Except ε υ} {before : Instruction τ}
    {after : Instruction υ} (mapped : before.mapTarget f = .ok after) {target : υ}
    (named : after.target? = some target) : ∃ origin, f origin = .ok target := by
  cases before with
  | jump origin | ifNZero origin =>
      simp only [mapTarget] at mapped
      cases image : f origin with
      | error e => simp [image, Except.map] at mapped
      | ok found =>
          simp only [image, Except.map] at mapped
          cases mapped
          cases named
          exact ⟨origin, image⟩
  | _ =>
      cases mapped
      cases named

end Instruction

end GateMachine
