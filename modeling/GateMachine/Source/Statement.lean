import GateMachine.Program
import GateMachine.Source.Error
import GateMachine.Source.LineForm

/-!
Reading a whole source text. Every line must have the form of a line; then
every operand must fit; then every jump must lead to a line of the program.
The first offence of the first kind that occurs is reported, so a text has at
most one error.
-/

namespace GateMachine

namespace Source

/-- A phrase and the byte at which it begins. -/
structure Placed where
  start : Nat
  phrase : Phrase
  deriving DecidableEq

/-- An instruction and where it, and its operand, were written. -/
structure Statement where
  instruction : Instruction Line
  span : Span
  operandSpan : Option Span
  deriving DecidableEq

namespace Placed

def span (placed : Placed) : Span :=
  ⟨placed.start, placed.start + byteLength placed.phrase.chars⟩

def operandSpan (placed : Placed) : Span :=
  ⟨placed.start + byteLength placed.phrase.head,
    placed.start + byteLength placed.phrase.chars⟩

/-- The instruction of a phrase, or a complaint about its operand. There is nothing else to
complain about: a phrase names one of the operations, and `Phrase.split` gives it an operand
exactly where the form of the operation asks for one. So neither an unknown operation nor a
missing operand is a case here. -/
def statement (placed : Placed) : Except SourceError Statement :=
  match placed.phrase.instruction with
  | .ok instruction =>
      .ok {
        instruction
        span := placed.span
        operandSpan := (form placed.phrase.opcode).operand?.map fun _ => placed.operandSpan }
  | .error .word =>
      .error ⟨.invalidWord (String.ofList placed.phrase.operand), placed.operandSpan⟩
  | .error .line =>
      .error ⟨.invalidLine (String.ofList placed.phrase.operand), placed.operandSpan⟩

end Placed

/-- A place in a text where a line departs from its form. -/
structure SyntaxFault where
  position : Nat
  wanted : LineForm.Wanted
  deriving DecidableEq

namespace SyntaxFault

/-- At the very start of a text only instructions are worth mentioning. -/
def concepts (fault : SyntaxFault) : List Concept :=
  match fault.wanted with
  | .instruction => if fault.position = 0 then [.instruction] else [.endOfInput, .instruction]
  | .operand .word => [.word]
  | .operand .line => [.line]
  | .operand .quoted => [.quoted]
  | .lineEnd => [.endOfInput]

def error (source : List Char) (fault : SyntaxFault) : SourceError :=
  .unexpected source fault.position fault.concepts

end SyntaxFault

/-- The phrases of the lines from byte `offset` on. -/
def placedFrom : Nat → List SourceLine → Except SyntaxFault (List Placed)
  | _, [] => .ok []
  | offset, line :: rest =>
      match LineForm.read line.body with
      -- Nothing after the first bad line is looked at.
      | .error fault => .error ⟨offset + byteLength fault.before, fault.wanted⟩
      | .ok form =>
          match placedFrom (offset + byteLength line.chars) rest with
          | .error fault => .error fault
          | .ok later =>
              match form.phrase with
              | some phrase => .ok (⟨offset + byteLength form.lead, phrase⟩ :: later)
              | none => .ok later

def statements : List Placed → Except SourceError (List Statement)
  | [] => .ok []
  | placed :: rest =>
      match placed.statement with
      | .error error => .error error
      | .ok statement =>
          match statements rest with
          | .error error => .error error
          | .ok later => .ok (statement :: later)

/-- The instructions of a text in the order they are written. -/
def parse (source : String) : Except SourceError (List Statement) :=
  match placedFrom 0 (lines source.toList) with
  | .error fault => .error (fault.error source.toList)
  | .ok placed => statements placed

namespace Statement

/-- What is shown of a statement whose target does not exist. -/
def targetSpan (statement : Statement) : Span :=
  statement.operandSpan.getD statement.span

end Statement

/-- Resolves the lines that statements jump to. `Program.ofLines` complains about a line and
about nothing else, so there is no other complaint to pass on. It points at one of the
statements it was given, so the span that stands in for a missing one is never reported. -/
def resolve (statements : List Statement) : Except SourceError Program :=
  match Program.ofLines (statements.map Statement.instruction) with
  | .ok program => .ok program
  | .error stray =>
      let span := (statements[stray.index]?.map Statement.targetSpan).getD ⟨0, 0⟩
      .error ⟨.lineOutOfRange stray.line stray.len, span⟩

end Source

/-- Loads the program that a source text describes. -/
def Program.ofSource (source : String) : Except SourceError Program :=
  match Source.parse source with
  | .error error => .error error
  | .ok statements => Source.resolve statements

end GateMachine
