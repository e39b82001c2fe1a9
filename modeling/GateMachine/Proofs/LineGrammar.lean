import GateMachine.Source.Lines
import GateMachine.Source.Phrase

/-!
The form of a source text, said without a reader. A text is split at its line
ends; a line is blanks, at most one instruction text with blanks after it, and
at most one comment. An instruction text stands for a `Command`, whose number
may still be too large to mean an instruction.

`LineText` relates a line to its command and `Denotes` the lines of a text to
the instructions they mean. Nothing here says how far a reader looks ahead or
what it tries first.
-/

namespace GateMachine

namespace Source

section Splitting

/-- No line ends inside the text. -/
def Unbroken (text : List Char) : Prop := ∀ c ∈ text, c ≠ '\n' ∧ c ≠ '\r'

/-- A text and its lines, without the ends of the lines. -/
inductive LineSplit : List Char → List (List Char) → Prop where
  | last {body : List Char} (whole : Unbroken body) : LineSplit body [body]
  | feed {body text : List Char} {bodies : List (List Char)}
      (whole : Unbroken body) (rest : LineSplit text bodies) :
      LineSplit (body ++ '\n' :: text) (body :: bodies)
  | returnFeed {body text : List Char} {bodies : List (List Char)}
      (whole : Unbroken body) (rest : LineSplit text bodies) :
      LineSplit (body ++ '\r' :: '\n' :: text) (body :: bodies)
  | loneReturn {body text : List Char} {bodies : List (List Char)}
      (whole : Unbroken body) (alone : text.head? ≠ some '\n') (rest : LineSplit text bodies) :
      LineSplit (body ++ '\r' :: text) (body :: bodies)

end Splitting

section Operands

def Blanks (text : List Char) : Prop := ∀ c ∈ text, c = ' ' ∨ c = '\t'

/-- The blanks between a mnemonic and its operand: at least one. -/
def Gap (text : List Char) : Prop := text ≠ [] ∧ Blanks text

def Digits (text : List Char) : Prop := text ≠ [] ∧ ∀ c ∈ text, c.isDigit = true

/-- The number that digits denote, however many there are. -/
def numeral (digits : List Char) : Nat :=
  digits.foldl (fun number c => 10 * number + (c.toNat - '0'.toNat)) 0

/-- What stands between quotes, and the text it is written for. -/
inductive StringBody : List Char → List Char → Prop where
  | nil : StringBody [] []
  | plain {c : Char} {body text : List Char}
      (allowed : c ≠ '"' ∧ c ≠ '\\' ∧ c ≠ '\r' ∧ c ≠ '\n') (rest : StringBody body text) :
      StringBody (c :: body) (c :: text)
  | escape {letter c : Char} {body text : List Char}
      (listed : (letter, c) ∈ [('"', '"'), ('\\', '\\'), ('n', '\n'), ('t', '\t')])
      (rest : StringBody body text) : StringBody ('\\' :: letter :: body) (c :: text)

end Operands

section Commands

/-- What an instruction text asks for, before its number is looked at. -/
inductive Command where
  | plain (instruction : Instruction Line)
  | word (make : Word → Instruction Line) (number : Nat)
  | line (make : Line → Instruction Line) (number : Nat)

namespace Command

def Fits : Command → Prop
  | .plain _ => True
  | .word _ number => number ≤ 15
  | .line _ number => number < UInt64.size

inductive Means : Command → Instruction Line → Prop where
  | plain (instruction : Instruction Line) : Means (.plain instruction) instruction
  | word (make : Word → Instruction Line) {word : Word} {number : Nat}
      (value : word.value = number) : Means (.word make number) (make word)
  | line (make : Line → Instruction Line) {line : Line} {number : Nat}
      (value : line.number.toNat = number) : Means (.line make number) (make line)

end Command

def bareInstructions : List (String × Instruction Line) :=
  [("pop", .pop), ("dup", .dup), ("peek", .peek), ("inc", .inc), ("printHead", .printHead),
    ("stop", .stop)]

def wordInstructions : List (String × (Word → Instruction Line)) :=
  [("push", .push), ("replace", .replace), ("mod", .mod), ("eq", .eq)]

def lineInstructions : List (String × (Line → Instruction Line)) :=
  [("jump", .jump), ("ifNZero", .ifNZero)]

inductive InstructionText : List Char → Command → Prop where
  | bare {name : String} {instruction : Instruction Line}
      (listed : (name, instruction) ∈ bareInstructions) :
      InstructionText name.toList (.plain instruction)
  | number {name : String} {make : Word → Instruction Line} {gap digits : List Char}
      (listed : (name, make) ∈ wordInstructions) (apart : Gap gap) (number : Digits digits) :
      InstructionText (name.toList ++ gap ++ digits) (.word make (numeral digits))
  | boolean {name spelling : String} {make : Word → Instruction Line} {word : Word}
      {gap : List Char} (listed : (name, make) ∈ wordInstructions) (apart : Gap gap)
      (spelled : (spelling, word) ∈ [("true", Word.one), ("false", Word.zero)]) :
      InstructionText (name.toList ++ gap ++ spelling.toList) (.plain (make word))
  | target {name : String} {make : Line → Instruction Line} {gap digits : List Char}
      (listed : (name, make) ∈ lineInstructions) (apart : Gap gap) (number : Digits digits) :
      InstructionText (name.toList ++ gap ++ digits) (.line make (numeral digits))
  | print {gap body text : List Char} (apart : Gap gap) (written : StringBody body text) :
      InstructionText ("print".toList ++ gap ++ ('"' :: body ++ ['"']))
        (.plain (.print (String.ofList text)))

end Commands

section Lines

inductive Comment : List Char → Prop where
  | absent : Comment []
  | note (text : List Char) : Comment ('/' :: '/' :: text)

inductive LineText : List Char → Option Command → Prop where
  | empty {lead comment : List Char} (before : Blanks lead) (ending : Comment comment) :
      LineText (lead ++ comment) none
  | instruction {lead text trail comment : List Char} {command : Command} (before : Blanks lead)
      (written : InstructionText text command) (after : Blanks trail)
      (ending : Comment comment) : LineText (lead ++ text ++ trail ++ comment) (some command)

def WellFormed (body : List Char) : Prop := ∃ command, LineText body command

/-- The instructions of lines, in their order; a line without one adds nothing. -/
inductive Denotes : List (List Char) → List (Instruction Line) → Prop where
  | nil : Denotes [] []
  | empty {body : List Char} {bodies : List (List Char)} {instructions : List (Instruction Line)}
      (form : LineText body none) (rest : Denotes bodies instructions) :
      Denotes (body :: bodies) instructions
  | instruction {body : List Char} {bodies : List (List Char)} {command : Command}
      {instruction : Instruction Line} {instructions : List (Instruction Line)}
      (form : LineText body (some command)) (means : command.Means instruction)
      (rest : Denotes bodies instructions) :
      Denotes (body :: bodies) (instruction :: instructions)

end Lines

end Source

end GateMachine
