import BundleFinish.Build.Message
import BundleFinish.Build.MessageJson
import BundleFinish.Build.Options
import BundleFinish.Build.Stage
import BundleFinish.Build.Tracked
import BundleFinish.CommandLine.Arguments
import BundleFinish.CommandLine.Environment
import BundleFinish.CommandLine.Fault
import BundleFinish.CommandLine.Flag
import BundleFinish.CommandLine.Layers
import BundleFinish.CommandLine.Program
import BundleFinish.CommandLine.Reach
import BundleFinish.CommandLine.Refusal
import BundleFinish.CommandLine.Run
import BundleFinish.CommandLine.Usage
import BundleFinish.Configuration.Basic
import BundleFinish.Configuration.Check
import BundleFinish.Configuration.Description
import BundleFinish.Configuration.Layers
import BundleFinish.Configuration.Stages
import BundleFinish.Declarations.Artifacts
import BundleFinish.Declarations.Checker
import BundleFinish.Declarations.CheckerSource
import BundleFinish.Declarations.Compiler
import BundleFinish.Declarations.Emission
import BundleFinish.Declarations.Linking
import BundleFinish.Declarations.Options
import BundleFinish.Declarations.Reference
import BundleFinish.Diagnostic.Basic
import BundleFinish.Diagnostic.Output
import BundleFinish.Diagnostic.Sources
import BundleFinish.Fault
import BundleFinish.Files.IoError
import BundleFinish.Files.Path
import BundleFinish.Files.Program
import BundleFinish.Files.Tree
import BundleFinish.JsonText.Cursor
import BundleFinish.JsonText.Failure
import BundleFinish.JsonText.Lexical
import BundleFinish.JsonText.Record
import BundleFinish.JsonText.Structure
import BundleFinish.JsonText.Variant
import BundleFinish.JsonText.Write
import BundleFinish.Logging.Filter
import BundleFinish.Logging.Level
import BundleFinish.Logging.Line
import BundleFinish.Main
import BundleFinish.Number.Binary
import BundleFinish.Pattern.CharSet
import BundleFinish.Pattern.Compiled
import BundleFinish.Pattern.Escape
import BundleFinish.Pattern.Expression
import BundleFinish.Pattern.Fault
import BundleFinish.Pattern.Meaning
import BundleFinish.Pattern.Parser
import BundleFinish.Pattern.Property
import BundleFinish.Pattern.Regex
import BundleFinish.Pattern.Scan
import BundleFinish.Pattern.Space
import BundleFinish.Pattern.Tables.CaseFolding
import BundleFinish.Pattern.Tables.Categories
import BundleFinish.Pattern.Tables.Properties
import BundleFinish.Pattern.Tables.ScriptExtensions
import BundleFinish.Pattern.Tables.Scripts
import BundleFinish.Proofs.AbsolutePaths
import BundleFinish.Proofs.Artifacts
import BundleFinish.Proofs.Backtracking
import BundleFinish.Proofs.CanonicalPaths
import BundleFinish.Proofs.CodeTables
import BundleFinish.Proofs.CompilerArguments
import BundleFinish.Proofs.CompilerCrashes
import BundleFinish.Proofs.CompilerRuns
import BundleFinish.Proofs.Confinement
import BundleFinish.Proofs.DeclarationPlaces
import BundleFinish.Proofs.DiagnosticBlocks
import BundleFinish.Proofs.DiagnosticLines
import BundleFinish.Proofs.DiagnosticPatterns
import BundleFinish.Proofs.Directives
import BundleFinish.Proofs.Edits
import BundleFinish.Proofs.Emission
import BundleFinish.Proofs.EmissionOutcomes
import BundleFinish.Proofs.Encoding
import BundleFinish.Proofs.ExportCandidates
import BundleFinish.Proofs.FailedEdits
import BundleFinish.Proofs.FinishedScripts
import BundleFinish.Proofs.Footprint
import BundleFinish.Proofs.IdentifierClasses
import BundleFinish.Proofs.IdentifierNames
import BundleFinish.Proofs.IndentedLines
import BundleFinish.Proofs.InsertedDirectives
import BundleFinish.Proofs.InterpreterLines
import BundleFinish.Proofs.JsonGrammar
import BundleFinish.Proofs.JsonLexemes
import BundleFinish.Proofs.JsonReading
import BundleFinish.Proofs.Labels
import BundleFinish.Proofs.LeafKeys
import BundleFinish.Proofs.LinkedPlans
import BundleFinish.Proofs.MatchedPlaces
import BundleFinish.Proofs.MergedSettings
import BundleFinish.Proofs.MirroredDeclarations
import BundleFinish.Proofs.NearestCompilers
import BundleFinish.Proofs.Outcome
import BundleFinish.Proofs.Paths
import BundleFinish.Proofs.Pipeline
import BundleFinish.Proofs.Precedence
import BundleFinish.Proofs.Preparation
import BundleFinish.Proofs.PrintedDiagnostics
import BundleFinish.Proofs.ProbedCompilers
import BundleFinish.Proofs.ProjectRoots
import BundleFinish.Proofs.Records
import BundleFinish.Proofs.Reports
import BundleFinish.Proofs.Resolution
import BundleFinish.Proofs.ReturnedLines
import BundleFinish.Proofs.Rewriting
import BundleFinish.Proofs.RecordTexts
import BundleFinish.Proofs.RenderedDiagnostics
import BundleFinish.Proofs.SchemaRange
import BundleFinish.Proofs.SchemaReading
import BundleFinish.Proofs.SchemaSettings
import BundleFinish.Proofs.SchemaValues
import BundleFinish.Proofs.SchemaWriting
import BundleFinish.Proofs.SetRanges
import BundleFinish.Proofs.SettingsFiles
import BundleFinish.Proofs.SiblingScripts
import BundleFinish.Proofs.SkippedValues
import BundleFinish.Proofs.SoleAssignments
import BundleFinish.Proofs.SourceFilter
import BundleFinish.Proofs.SourceLines
import BundleFinish.Proofs.TidySettings
import BundleFinish.Proofs.TrackedEntries
import BundleFinish.Proofs.TrackedSources
import BundleFinish.Proofs.TrailingExports
import BundleFinish.Proofs.Trees
import BundleFinish.Proofs.Walks
import BundleFinish.Proofs.WrappedDirectories
import BundleFinish.Proofs.WrapperFrames
import BundleFinish.Proofs.WrittenConfigurations
import BundleFinish.Proofs.WrittenParts
import BundleFinish.Proofs.WrittenPatterns
import BundleFinish.Proofs.WrittenResults
import BundleFinish.Report.Basic
import BundleFinish.Report.Excerpt
import BundleFinish.Report.Marks
import BundleFinish.Schema
import BundleFinish.Settings.Extract
import BundleFinish.Settings.Failure
import BundleFinish.Settings.Setting
import BundleFinish.Settings.Variables
import BundleFinish.Text.Blank
import BundleFinish.Text.CodeRanges
import BundleFinish.Text.ControlSequence
import BundleFinish.Text.Digit
import BundleFinish.Text.Letter
import BundleFinish.Text.LineBreak
import BundleFinish.Text.LineBreakClass
import BundleFinish.Text.Quoted
import BundleFinish.Text.Shebang
import BundleFinish.Text.Similarity
import BundleFinish.Text.Utf8
import BundleFinish.Text.Width
import BundleFinish.Text.Wrap
import BundleFinish.Umd.Directory
import BundleFinish.Umd.GlobalName
import BundleFinish.Umd.TrailingExport
import BundleFinish.Umd.Wrapper
import BundleFinish.Value.Basic
import BundleFinish.Value.Entries
import BundleFinish.Value.Shape
import BundleFinish.Workspace
import BundleFinish.Workspace.Process
