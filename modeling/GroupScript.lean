import GroupScript.Builtin.Lists
import GroupScript.Builtin.Numbers
import GroupScript.Builtin.Run
import GroupScript.Builtin.Texts
import GroupScript.CommandLine.Arguments
import GroupScript.CommandLine.Backspace
import GroupScript.CommandLine.Cluster
import GroupScript.CommandLine.ClusterClass
import GroupScript.CommandLine.Editor
import GroupScript.CommandLine.Json
import GroupScript.CommandLine.Template
import GroupScript.CommandLine.Toolkit
import GroupScript.Decimal.Digits
import GroupScript.Decimal.Read
import GroupScript.Decimal.Shortest
import GroupScript.Error
import GroupScript.Expr.Code
import GroupScript.Expr.Lexer
import GroupScript.Expr.Machine
import GroupScript.Expr.Operator
import GroupScript.Expr.Parser
import GroupScript.Expr.Token
import GroupScript.Expr.Tree
import GroupScript.Files.Path
import GroupScript.Files.Tree
import GroupScript.Interpreter.Basic
import GroupScript.Interpreter.Call
import GroupScript.Interpreter.Environment
import GroupScript.Interpreter.Modules
import GroupScript.Interpreter.Statements
import GroupScript.Main
import GroupScript.Proofs.AcceptedLines
import GroupScript.Proofs.Assignment
import GroupScript.Proofs.BlockCompilation
import GroupScript.Proofs.BracketMatching
import GroupScript.Proofs.CallNames
import GroupScript.Proofs.Checkpoints
import GroupScript.Proofs.CodeText
import GroupScript.Proofs.Coherence
import GroupScript.Proofs.Comparison
import GroupScript.Proofs.CompileConsulting
import GroupScript.Proofs.Concord
import GroupScript.Proofs.Constancy
import GroupScript.Proofs.Consulting
import GroupScript.Proofs.Deletion
import GroupScript.Proofs.DepthWatch
import GroupScript.Proofs.ElementReplacement
import GroupScript.Proofs.Evaluation
import GroupScript.Proofs.Execution
import GroupScript.Proofs.Grammar
import GroupScript.Proofs.GrammarCompleteness
import GroupScript.Proofs.GrammarSoundness
import GroupScript.Proofs.Grounding
import GroupScript.Proofs.GroupChange
import GroupScript.Proofs.Guarantee
import GroupScript.Proofs.Hereditary
import GroupScript.Proofs.Importing
import GroupScript.Proofs.Isolation
import GroupScript.Proofs.Levels
import GroupScript.Proofs.LexicalAgreement
import GroupScript.Proofs.LineJoining
import GroupScript.Proofs.LineMoves
import GroupScript.Proofs.LineTaking
import GroupScript.Proofs.Lockstep
import GroupScript.Proofs.LoopHead
import GroupScript.Proofs.MachineAgreement
import GroupScript.Proofs.ModuleRegistry
import GroupScript.Proofs.NameBinding
import GroupScript.Proofs.OneLineProcedure
import GroupScript.Proofs.Outcome
import GroupScript.Proofs.Outline
import GroupScript.Proofs.ParallelCompilation
import GroupScript.Proofs.PathCreation
import GroupScript.Proofs.PathWalking
import GroupScript.Proofs.Powers
import GroupScript.Proofs.ProcedureCalls
import GroupScript.Proofs.Progress
import GroupScript.Proofs.Prompts
import GroupScript.Proofs.QueueExtension
import GroupScript.Proofs.QueueReading
import GroupScript.Proofs.Quiescence
import GroupScript.Proofs.Ranges
import GroupScript.Proofs.Reachability
import GroupScript.Proofs.ReadAfterWrite
import GroupScript.Proofs.ReadBack
import GroupScript.Proofs.Reading
import GroupScript.Proofs.Realm
import GroupScript.Proofs.Replay
import GroupScript.Proofs.ResolvingAgain
import GroupScript.Proofs.Scanning
import GroupScript.Proofs.SearchOrder
import GroupScript.Proofs.Segments
import GroupScript.Proofs.Separators
import GroupScript.Proofs.SettledParts
import GroupScript.Proofs.SettledText
import GroupScript.Proofs.Signals
import GroupScript.Proofs.SimpleStatement
import GroupScript.Proofs.SparedLoads
import GroupScript.Proofs.Splitting
import GroupScript.Proofs.StatementText
import GroupScript.Proofs.Steadiness
import GroupScript.Proofs.Tandem
import GroupScript.Proofs.Termination
import GroupScript.Proofs.TextSequence
import GroupScript.Proofs.TokenEnds
import GroupScript.Proofs.TokenSpans
import GroupScript.Proofs.TokenSpelling
import GroupScript.Proofs.Trimming
import GroupScript.Proofs.ValueFlow
import GroupScript.Proofs.Visits
import GroupScript.Proofs.WholeLine
import GroupScript.Proofs.WholeNumbers
import GroupScript.Proofs.WrittenValues
import GroupScript.Session
import GroupScript.Settings.Basic
import GroupScript.Settings.Document
import GroupScript.Shell.Invocation
import GroupScript.Shell.Run
import GroupScript.Shell.Toolkit
import GroupScript.Source.Brackets
import GroupScript.Source.Input
import GroupScript.Source.Scanner
import GroupScript.Statement
import GroupScript.Statement.Compile
import GroupScript.Statement.Parts
import GroupScript.Store.Access
import GroupScript.Store.Basic
import GroupScript.Store.Dictionary
import GroupScript.Store.Group
import GroupScript.Store.Show
import GroupScript.Text.Blank
import GroupScript.Text.Order
import GroupScript.Text.Pieces
import GroupScript.Text.Quoted
import GroupScript.Text.Shapeless
import GroupScript.Text.Word
import GroupScript.Value.Arithmetic
import GroupScript.Value.Basic
import GroupScript.Value.Kind
import GroupScript.Value.Order
import GroupScript.Workspace.Basic
import GroupScript.Workspace.Listing
import GroupScript.Workspace.Resolve
import GroupScript.Workspace.Search
