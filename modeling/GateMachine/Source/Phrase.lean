import GateMachine.Instruction

/-!
Instructions as they are written. A phrase is a mnemonic and, for most
mnemonics, blanks and an operand: a word, a line number or a quoted text. The
operand is kept letter by letter, so a phrase can be written out again as it
stood (`Phrase.split_append`). Whether its number fits is asked only afterwards,
by `Phrase.instruction`.
-/

namespace GateMachine

namespace Source

def isBlank (c : Char) : Bool := c == ' ' || c == '\t'

/-- The letters of mnemonics and numbers; one of them right after a number spoils it. -/
def isIdent (c : Char) : Bool := c.isAlphanum || c == '_'

inductive OperandKind where
  | word
  | line
  | quoted
  deriving DecidableEq

namespace OperandKind

def isDigits (text : List Char) : Bool := !text.isEmpty && text.all Char.isDigit

def isWord (text : List Char) : Bool :=
  isDigits text || text == ['t', 'r', 'u', 'e'] || text == ['f', 'a', 'l', 's', 'e']

/-- Splits an operand of the kind off the front of a text. -/
def split? : OperandKind → List Char → Option (List Char × List Char)
  | .word, text =>
      if isWord (text.takeWhile isIdent) then
        some (text.takeWhile isIdent, text.dropWhile isIdent)
      else
        none
  | .line, text =>
      if isDigits (text.takeWhile isIdent) then
        some (text.takeWhile isIdent, text.dropWhile isIdent)
      else
        none
  | .quoted, text =>
      match Quoted.split? text with
      | some (body, after) => some ('"' :: body ++ ['"'], after)
      | none => none

theorem split?_append {kind : OperandKind} {source operand after : List Char}
    (found : kind.split? source = some (operand, after)) : operand ++ after = source := by
  cases kind with
  | word | line =>
      simp only [split?] at found
      split at found
      · cases found
        exact List.takeWhile_append_dropWhile
      · contradiction
  | quoted =>
      simp only [split?] at found
      split at found
      · next body rest quoted =>
          cases found
          simpa using Quoted.split?_append quoted
      · contradiction

end OperandKind

/-- How the instructions of a mnemonic are made from what is written after it. -/
inductive Form where
  | bare (instruction : Instruction Line)
  | word (make : Word → Instruction Line)
  | line (make : Line → Instruction Line)
  | text (make : String → Instruction Line)

def Form.operand? : Form → Option OperandKind
  | .bare _ => none
  | .word _ => some .word
  | .line _ => some .line
  | .text _ => some .quoted

def form : Opcode → Form
  | .push => .word .push
  | .pop => .bare .pop
  | .dup => .bare .dup
  | .peek => .bare .peek
  | .replace => .word .replace
  | .inc => .bare .inc
  | .mod => .word .mod
  | .eq => .word .eq
  | .jump => .line .jump
  | .ifNZero => .line .ifNZero
  | .stop => .bare .stop
  | .printHead => .bare .printHead
  | .print => .text .print

def opcode? (name : List Char) : Option Opcode :=
  Opcode.all.find? fun opcode => opcode.mnemonic.toList == name

theorem mnemonic_of_opcode? {name : List Char} {opcode : Opcode}
    (found : opcode? name = some opcode) : opcode.mnemonic.toList = name := by
  simpa using List.find?_some found

structure Phrase where
  opcode : Opcode
  gap : List Char
  operand : List Char
  deriving DecidableEq

namespace Phrase

/-- The phrase up to its operand. -/
def head (phrase : Phrase) : List Char := phrase.opcode.mnemonic.toList ++ phrase.gap

def chars (phrase : Phrase) : List Char := phrase.head ++ phrase.operand

/-- Why no phrase could be read: no mnemonic, or nothing fitting after one. -/
inductive Fault where
  | mnemonic
  | operand (head : List Char) (kind : OperandKind)
  deriving DecidableEq

/-- Splits a phrase off the front of a text. -/
def split (text : List Char) : Except Fault (Phrase × List Char) :=
  let rest := text.dropWhile isIdent
  match opcode? (text.takeWhile isIdent) with
  | none => .error .mnemonic
  | some opcode =>
      match (form opcode).operand? with
      | none => .ok (⟨opcode, [], []⟩, rest)
      | some kind =>
          let gap := rest.takeWhile isBlank
          -- A mnemonic that runs into its operand is no mnemonic.
          if gap.isEmpty then
            .error .mnemonic
          else
            match kind.split? (rest.dropWhile isBlank) with
            | some (operand, after) => .ok (⟨opcode, gap, operand⟩, after)
            | none => .error (.operand (opcode.mnemonic.toList ++ gap) kind)

theorem split_append {source after : List Char} {phrase : Phrase}
    (found : split source = .ok (phrase, after)) : phrase.chars ++ after = source := by
  simp only [split] at found
  split at found
  · contradiction
  · next opcode named =>
      have letters := mnemonic_of_opcode? named
      have whole : opcode.mnemonic.toList ++ source.dropWhile isIdent = source := by
        rw [letters]
        exact List.takeWhile_append_dropWhile
      split at found
      · cases found
        simpa [chars, head] using whole
      · next kind wanted =>
          split at found
          · contradiction
          · split at found
            · next operand rest operandFound =>
                cases found
                have tail := OperandKind.split?_append operandFound
                simp only [chars, head, List.append_assoc, tail,
                  List.takeWhile_append_dropWhile, whole]
            · contradiction

/-- An operand of the right kind whose number is too large. -/
inductive ValueFault where
  | word
  | line
  deriving DecidableEq

def wordValue? (text : List Char) : Option Word :=
  if text = ['t', 'r', 'u', 'e'] then some .one
  else if text = ['f', 'a', 'l', 's', 'e'] then some .zero
  else Word.ofNat? (Nat.ofDigitChars 10 text 0)

def lineValue? (text : List Char) : Option Line :=
  let number := Nat.ofDigitChars 10 text 0
  if number < UInt64.size then some ⟨number.toUInt64⟩ else none

/-- The text between the quotes of an operand. -/
def textValue (operand : List Char) : String :=
  String.ofList (Quoted.value operand.tail.dropLast)

/-- The instruction that a phrase stands for. -/
def instruction (phrase : Phrase) : Except ValueFault (Instruction Line) :=
  match form phrase.opcode with
  | .bare instruction => .ok instruction
  | .word make =>
      match wordValue? phrase.operand with
      | some word => .ok (make word)
      | none => .error .word
  | .line make =>
      match lineValue? phrase.operand with
      | some line => .ok (make line)
      | none => .error .line
  | .text make => .ok (make (textValue phrase.operand))

end Phrase

end Source

end GateMachine
