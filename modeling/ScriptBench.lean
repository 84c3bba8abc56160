import ScriptBench.Command.Args
import ScriptBench.Command.Run
import ScriptBench.Command.Styled
import ScriptBench.Config.Basic
import ScriptBench.Config.Document
import ScriptBench.Config.Layer
import ScriptBench.Config.Load
import ScriptBench.Diagnostic.Extractor
import ScriptBench.Diagnostic.LineClass
import ScriptBench.Diagnostic.Position
import ScriptBench.Diagnostic.Record
import ScriptBench.Editor.Session
import ScriptBench.Editor.Workbench
import ScriptBench.Highlight.ErrorRange
import ScriptBench.Highlight.Keyword
import ScriptBench.Highlight.Overlay
import ScriptBench.Highlight.Span
import ScriptBench.Highlight.StyleMap
import ScriptBench.Json.Value
import ScriptBench.Log.Level
import ScriptBench.Log.Logger
import ScriptBench.Machine.Environment
import ScriptBench.Machine.Files
import ScriptBench.Machine.Path
import ScriptBench.Machine.Program
import ScriptBench.Main
import ScriptBench.Proofs.AcceptedSettings
import ScriptBench.Proofs.CollectedPositions
import ScriptBench.Proofs.CommandGrammar
import ScriptBench.Proofs.CommandLines
import ScriptBench.Proofs.DiagnosticsOfText
import ScriptBench.Proofs.DrawnSpans
import ScriptBench.Proofs.EncodedText
import ScriptBench.Proofs.FileLayer
import ScriptBench.Proofs.HomePaths
import ScriptBench.Proofs.JobHandle
import ScriptBench.Proofs.JsonLines
import ScriptBench.Proofs.JumpTarget
import ScriptBench.Proofs.KeywordAlone
import ScriptBench.Proofs.KeywordCuts
import ScriptBench.Proofs.KeywordMatch
import ScriptBench.Proofs.LayeredSettings
import ScriptBench.Proofs.LineCollection
import ScriptBench.Proofs.LineColumn
import ScriptBench.Proofs.LineIdentifier
import ScriptBench.Proofs.LineOverrun
import ScriptBench.Proofs.LinePieces
import ScriptBench.Proofs.LineSearch
import ScriptBench.Proofs.LineShape
import ScriptBench.Proofs.LogEntries
import ScriptBench.Proofs.MergedSpans
import ScriptBench.Proofs.PaintedRange
import ScriptBench.Proofs.PathComponents
import ScriptBench.Proofs.ProgramExit
import ScriptBench.Proofs.ReadScript
import ScriptBench.Proofs.RunEnd
import ScriptBench.Proofs.RunReport
import ScriptBench.Proofs.ScriptDiagnostics
import ScriptBench.Proofs.ScriptFile
import ScriptBench.Proofs.ScriptOperands
import ScriptBench.Proofs.SessionDrain
import ScriptBench.Proofs.SessionHistory
import ScriptBench.Proofs.SpanCursors
import ScriptBench.Proofs.SpanUnion
import ScriptBench.Proofs.StyleMap
import ScriptBench.Proofs.StyledReading
import ScriptBench.Proofs.TrimmedText
import ScriptBench.Proofs.WatchedRun
import ScriptBench.Proofs.WholeWords
import ScriptBench.Proofs.WorkbenchHistory
import ScriptBench.Proofs.WrittenLines
import ScriptBench.Run.Event
import ScriptBench.Run.Execution
import ScriptBench.Run.Job
import ScriptBench.Run.Launch
import ScriptBench.Run.LineStream
import ScriptBench.Run.Note
import ScriptBench.Run.Outcome
import ScriptBench.Run.Sink
import ScriptBench.Shell.Arithmetic
import ScriptBench.Shell.Builtin
import ScriptBench.Shell.Condition
import ScriptBench.Shell.Eval
import ScriptBench.Shell.Expansion
import ScriptBench.Shell.Parser
import ScriptBench.Shell.Pattern
import ScriptBench.Shell.Printing
import ScriptBench.Shell.Signal
import ScriptBench.Shell.State
import ScriptBench.Shell.Syntax
import ScriptBench.Shell.Tool
import ScriptBench.Text.Alphabetic
import ScriptBench.Text.CharClass
import ScriptBench.Text.Lines
import ScriptBench.Text.Mark
import ScriptBench.Text.Number
import ScriptBench.Text.Quoted
import ScriptBench.Text.Trim
import ScriptBench.Text.Unprintable
import ScriptBench.Text.Utf8
import ScriptBench.Yaml.BlockScalar
import ScriptBench.Yaml.Cursor
import ScriptBench.Yaml.Node
import ScriptBench.Yaml.Problem
import ScriptBench.Yaml.Scalar
import ScriptBench.Yaml.Token
