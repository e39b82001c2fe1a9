import GateMachine.Bit
import GateMachine.Column
import GateMachine.Console
import GateMachine.Console.Arguments
import GateMachine.Console.Files
import GateMachine.Console.ReadError
import GateMachine.Diagnostic
import GateMachine.Execution
import GateMachine.Failure
import GateMachine.Instruction
import GateMachine.Location
import GateMachine.Machine
import GateMachine.Machine.Run
import GateMachine.Main
import GateMachine.Opcode
import GateMachine.Program
import GateMachine.Program.Listing
import GateMachine.Proofs.AppendedCode
import GateMachine.Proofs.BoundedRuns
import GateMachine.Proofs.ByteSpellings
import GateMachine.Proofs.DepartedLines
import GateMachine.Proofs.DisplayedPrograms
import GateMachine.Proofs.DistinctListings
import GateMachine.Proofs.EndlessLoops
import GateMachine.Proofs.ExactFaults
import GateMachine.Proofs.Executions
import GateMachine.Proofs.ExpressionValues
import GateMachine.Proofs.FailedRules
import GateMachine.Proofs.ForwardPrograms
import GateMachine.Proofs.FurthestFailures
import GateMachine.Proofs.GrammarLines
import GateMachine.Proofs.GrammarRules
import GateMachine.Proofs.GrammarTrees
import GateMachine.Proofs.InterruptedRuns
import GateMachine.Proofs.JoinedSources
import GateMachine.Proofs.LineGrammar
import GateMachine.Proofs.ListingLabels
import GateMachine.Proofs.LoadDiagnostics
import GateMachine.Proofs.MachineStep
import GateMachine.Proofs.NormalForms
import GateMachine.Proofs.ParsingExpressions
import GateMachine.Proofs.PhraseReading
import GateMachine.Proofs.ProgramCode
import GateMachine.Proofs.ProgramLoading
import GateMachine.Proofs.ProgramSpellings
import GateMachine.Proofs.ReachableStates
import GateMachine.Proofs.ReferenceMachine
import GateMachine.Proofs.SourceLayout
import GateMachine.Proofs.SourceReading
import GateMachine.Proofs.SourceTiles
import GateMachine.Proofs.StackFrames
import GateMachine.Proofs.StackHistories
import GateMachine.Proofs.SyntaxErrors
import GateMachine.Proofs.Transcripts
import GateMachine.Proofs.WordArithmetic
import GateMachine.Quoted
import GateMachine.Report
import GateMachine.Report.Figure
import GateMachine.Report.Ink
import GateMachine.Report.Row
import GateMachine.Session
import GateMachine.Source.Error
import GateMachine.Source.LineForm
import GateMachine.Source.Lines
import GateMachine.Source.Phrase
import GateMachine.Source.Production
import GateMachine.Source.Span
import GateMachine.Source.Statement
import GateMachine.Stack
import GateMachine.Text.Alphanumeric
import GateMachine.Text.BreakClass
import GateMachine.Text.Cut
import GateMachine.Text.Escape
import GateMachine.Text.Fill
import GateMachine.Text.Joining
import GateMachine.Text.LineBreak
import GateMachine.Text.Ranges
import GateMachine.Text.WhiteSpace
import GateMachine.Text.Wide
import GateMachine.Text.Width
import GateMachine.Wire.Code
import GateMachine.Wire.Decoder
import GateMachine.Wire.Varint
import GateMachine.Word
import GateMachine.Word.Arithmetic
import GateMachine.Word.Expression
