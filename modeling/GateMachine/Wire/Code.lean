import GateMachine.Program
import GateMachine.Wire.Varint

/-!
The byte form of programs. A list is its length and then its items; an
instruction is the number of its opcode and then its operand; a word is one
byte, a target a number, a text the length of its UTF-8 form and those bytes.
A decoded program is checked like one that is loaded.
-/

namespace GateMachine

namespace Opcode

/-- The number of an opcode is its place among all of them. -/
def tag (opcode : Opcode) : Nat := all.idxOf opcode

def ofTag? (number : Nat) : Option Opcode := all[number]?

theorem ofTag?_tag (opcode : Opcode) : ofTag? opcode.tag = some opcode := by
  cases opcode <;> decide

end Opcode

namespace Wire

variable {τ : Type}

section Encoding

def encodeWord (word : Word) : List UInt8 := [word.value.toUInt8]

def encodeText (text : String) : List UInt8 :=
  varint text.utf8ByteSize ++ text.toUTF8.data.toList

def encodeLine (line : Line) : List UInt8 := varint line.number.toNat

def encodeAddress (address : Address) : List UInt8 := varint address.index.toNat

def encodeOperand (encodeTarget : τ → List UInt8) : Instruction τ → List UInt8
  | .push word | .replace word | .mod word | .eq word => encodeWord word
  | .jump target | .ifNZero target => encodeTarget target
  | .print text => encodeText text
  | .pop | .dup | .peek | .inc | .stop | .printHead => []

def encodeInstruction (encodeTarget : τ → List UInt8) (instruction : Instruction τ) :
    List UInt8 :=
  varint instruction.opcode.tag ++ encodeOperand encodeTarget instruction

def encodeList (encodeTarget : τ → List UInt8) (instructions : List (Instruction τ)) :
    List UInt8 :=
  varint instructions.length ++ instructions.flatMap (encodeInstruction encodeTarget)

def encodeProgram (program : Program) : List UInt8 := encodeList encodeAddress program.toList

end Encoding

namespace Decoder

def word : Decoder Word := mapOption (fun byte => Word.ofNat? byte.toNat) .invalid byte

def bit : Decoder Bit :=
  mapOption (fun tag => [Bit.zero, Bit.one][tag]?) .invalid (varint .bits32)

def line : Decoder Line := map Line.mk number

def address : Decoder Address := map Address.mk number

def text : Decoder String :=
  andThen (varint .bits64) fun size =>
    mapOption (fun content => String.fromUTF8? ⟨content.toArray⟩) .badText (bytes size)

def opcode : Decoder Opcode := mapOption Opcode.ofTag? .invalid (varint .bits32)

/-- Reads the operand that an opcode takes. -/
def operand (target : Decoder τ) : Opcode → Decoder (Instruction τ)
  | .push => map .push word
  | .pop => const .pop
  | .dup => const .dup
  | .peek => const .peek
  | .replace => map .replace word
  | .inc => const .inc
  | .mod => map .mod word
  | .eq => map .eq word
  | .jump => map .jump target
  | .ifNZero => map .ifNZero target
  | .stop => const .stop
  | .printHead => const .printHead
  | .print => map .print text

def instruction (target : Decoder τ) : Decoder (Instruction τ) :=
  andThen opcode (operand target)

def list (target : Decoder τ) : Decoder (List (Instruction τ)) :=
  andThen (varint .bits64) (times (instruction target))

/-- Jumps are checked once the whole list is read. -/
def program : Decoder Program :=
  mapOption (fun resolved => (Program.ofAddresses resolved).toOption) .invalid (list address)

end Decoder

end Wire

end GateMachine
