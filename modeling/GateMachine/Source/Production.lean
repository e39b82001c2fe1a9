import GateMachine.Source.Statement

/-!
The productions of the assembly grammar, each of which can be matched on its
own at the front of a text. A match is reported as a forest: productions that
only describe characters leave no node, and a failed match says where it
failed and what could have stood there.
-/

namespace GateMachine

namespace Source

inductive Production where
  | program
  | instruction
  | operation (opcode : Opcode)
  | identChar
  | separator
  | word
  | line
  | quoted
  | text
  | textChar
  | escape
  | blank
  | comment
  | endOfInput
  deriving DecidableEq

inductive Tree where
  | node (production : Production) (span : Span) (children : List Tree)

namespace Production

def operationName : Opcode → String
  | .ifNZero => "op_if_nzero"
  | .printHead => "op_print_head"
  | opcode => "op_" ++ opcode.mnemonic

def name : Production → String
  | .program => "program"
  | .instruction => "instruction"
  | .operation opcode => operationName opcode
  | .identChar => "ident_char"
  | .separator => "sep"
  | .word => "word"
  | .line => "line"
  | .quoted => "string"
  | .text => "text"
  | .textChar => "text_char"
  | .escape => "escape"
  | .blank => "WHITESPACE"
  | .comment => "COMMENT"
  | .endOfInput => "EOI"

def all : List Production :=
  [program, instruction] ++ Opcode.all.map operation ++
    [identChar, separator, word, line, quoted, text, textChar, escape, blank, comment, endOfInput]

def ofName? (name : String) : Option Production :=
  all.find? fun production => production.name == name

/-- What a reader is told to write where a production was wanted. -/
def concept : Production → Concept
  | .word => .word
  | .line => .line
  | .quoted => .quoted
  | .endOfInput => .endOfInput
  | _ => .instruction

end Production

/-- Where a match failed, and what could have stood there. -/
structure Mismatch where
  position : Nat
  concepts : List Concept
  deriving DecidableEq

section Trees

def OperandKind.production : OperandKind → Production
  | .word => .word
  | .line => .line
  | .quoted => .quoted

/-- A quoted operand holds the text between its quotes. -/
def operandTree (kind : OperandKind) (span : Span) : Tree :=
  match kind with
  | .quoted => .node .quoted span [.node .text ⟨span.start + 1, span.stop - 1⟩ []]
  | kind => .node kind.production span []

def Placed.tree (placed : Placed) : Tree :=
  let children := match (form placed.phrase.opcode).operand? with
    | some kind => [operandTree kind placed.operandSpan]
    | none => []
  .node (.operation placed.phrase.opcode) placed.span children

/-- A program's phrases, and the end of the text as a last node. -/
def programTree (source : List Char) (phrases : List Placed) : Tree :=
  let stop := byteLength source
  .node .program ⟨0, stop⟩ (phrases.map Placed.tree ++ [.node .endOfInput ⟨stop, stop⟩ []])

end Trees

section Matching

def matchInstruction (source : List Char) : Except Mismatch (List Tree) :=
  match Phrase.split source with
  | .ok (phrase, _) => .ok [Placed.tree ⟨0, phrase⟩]
  | .error .mnemonic => .error ⟨0, [.instruction]⟩
  | .error (.operand head kind) => .error ⟨byteLength head, [kind.production.concept]⟩

def matchOperand (kind : OperandKind) (source : List Char) : Except Mismatch (List Tree) :=
  match kind.split? source with
  | some (operand, _) => .ok [operandTree kind ⟨0, byteLength operand⟩]
  | none => .error ⟨0, [kind.production.concept]⟩

/-- A production without a node fails without a suggestion. -/
def matchSilently (found : Bool) : Except Mismatch (List Tree) :=
  if found then .ok [] else .error ⟨0, []⟩

def startsWith (holds : Char → Bool) (source : List Char) : Bool := source.head?.any holds

def startsWithComment : List Char → Bool
  | '/' :: '/' :: _ => true
  | _ => false

/-- What follows the blanks and the comment at the front of a text. -/
def skipped (source : List Char) : List Char :=
  let rest := source.dropWhile isBlank
  if startsWithComment rest then rest.dropWhile (!endsLine ·) else rest

/-- Outside of a quoted text, the two characters of an escape may stand apart. -/
def startsWithEscape : List Char → Bool
  | '\\' :: rest => startsWith Quoted.isEscapable (skipped rest)
  | _ => false

/-- Outside of a quoted text, a character is looked for behind blanks and a comment. -/
def startsWithTextChar (source : List Char) : Bool :=
  startsWith Quoted.isPlain source && !(skipped source).isEmpty || startsWithEscape source

def Production.parse (production : Production) (source : List Char) :
    Except Mismatch (List Tree) :=
  match production with
  | .program =>
      match placedFrom 0 (lines source) with
      | .ok phrases => .ok [programTree source phrases]
      | .error fault => .error ⟨fault.position, fault.concepts⟩
  | .instruction => matchInstruction source
  | .operation opcode =>
      if opcode? (source.takeWhile isIdent) = some opcode then matchInstruction source
      else .error ⟨0, [.instruction]⟩
  | .word => matchOperand .word source
  | .line => matchOperand .line source
  | .quoted => matchOperand .quoted source
  | .text => .ok [.node .text ⟨0, byteLength (Quoted.splitBody source).1⟩ []]
  | .endOfInput =>
      if source.isEmpty then .ok [.node .endOfInput ⟨0, 0⟩ []] else .error ⟨0, [.endOfInput]⟩
  | .identChar => matchSilently (startsWith isIdent source)
  | .separator => matchSilently (startsWith isBlank source)
  | .blank => matchSilently (startsWith isBlank source)
  | .textChar => matchSilently (startsWithTextChar source)
  | .escape => matchSilently (startsWithEscape source)
  | .comment => matchSilently (startsWithComment source)

end Matching

end Source

namespace SourceError

def ofMismatch (source : List Char) (mismatch : Source.Mismatch) : SourceError :=
  .unexpected source mismatch.position mismatch.concepts

/-- A syntax error told in productions. One that must not stand there is what was found. -/
def ofProductions (source : List Char) (span : Span)
    (wanted unwanted : List Source.Production) : SourceError :=
  let found := match unwanted with
    | first :: _ => first.name
    | [] => Source.found (Source.dropBytes span.start source)
  { kind := .unexpected (Source.Concept.expected (wanted.map Source.Production.concept)) found
    span }

end SourceError

end GateMachine
