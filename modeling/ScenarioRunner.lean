import ScenarioRunner.Console.Escape
import ScenarioRunner.Console.Table
import ScenarioRunner.Console.Width
import ScenarioRunner.Diagnosis.Basic
import ScenarioRunner.Diagnosis.Report
import ScenarioRunner.Expression.Basic
import ScenarioRunner.Expression.Expansion
import ScenarioRunner.Expression.Parser
import ScenarioRunner.Expression.Segment
import ScenarioRunner.Expression.Suggestion
import ScenarioRunner.Feature.Document
import ScenarioRunner.Feature.File
import ScenarioRunner.Feature.Numbering
import ScenarioRunner.FeatureText.Keyword
import ScenarioRunner.FeatureText.Line
import ScenarioRunner.FeatureText.Place
import ScenarioRunner.FeatureText.Reader
import ScenarioRunner.Glob.Pattern
import ScenarioRunner.Glob.Reader
import ScenarioRunner.Glob.Selection
import ScenarioRunner.Message.Envelope
import ScenarioRunner.Message.Json
import ScenarioRunner.Message.Report
import ScenarioRunner.Message.Tree
import ScenarioRunner.Number.Binary64
import ScenarioRunner.Number.Integer
import ScenarioRunner.Options.Basic
import ScenarioRunner.Options.Reader
import ScenarioRunner.Parameter.Registry
import ScenarioRunner.Parameter.Value
import ScenarioRunner.Pickle.Basic
import ScenarioRunner.Pickle.Compile
import ScenarioRunner.Pickle.Placeholder
import ScenarioRunner.Project.Basic
import ScenarioRunner.Project.Files
import ScenarioRunner.Project.Library
import ScenarioRunner.Project.Path
import ScenarioRunner.Project.Run
import ScenarioRunner.Project.Templates
import ScenarioRunner.Proofs.ArgumentNames
import ScenarioRunner.Proofs.Attachments
import ScenarioRunner.Proofs.AttemptMessages
import ScenarioRunner.Proofs.AttemptOutcome
import ScenarioRunner.Proofs.AttemptReport
import ScenarioRunner.Proofs.BuiltRegistry
import ScenarioRunner.Proofs.ByteOffsets
import ScenarioRunner.Proofs.CallSequence
import ScenarioRunner.Proofs.Coherence
import ScenarioRunner.Proofs.ComposedMessages
import ScenarioRunner.Proofs.Composition
import ScenarioRunner.Proofs.Course
import ScenarioRunner.Proofs.Declaration
import ScenarioRunner.Proofs.DefinitionKeys
import ScenarioRunner.Proofs.DiagnosisAgreement
import ScenarioRunner.Proofs.DiagnosisReport
import ScenarioRunner.Proofs.DiagnosisTally
import ScenarioRunner.Proofs.Drawing
import ScenarioRunner.Proofs.EscapedPatterns
import ScenarioRunner.Proofs.FailureWording
import ScenarioRunner.Proofs.FileFilter
import ScenarioRunner.Proofs.FileIdentifiers
import ScenarioRunner.Proofs.FileUpdates
import ScenarioRunner.Proofs.FirstOccurrences
import ScenarioRunner.Proofs.HostCalls
import ScenarioRunner.Proofs.IntegerReading
import ScenarioRunner.Proofs.IntegerTypes
import ScenarioRunner.Proofs.JoinedLines
import ScenarioRunner.Proofs.JsonText
import ScenarioRunner.Proofs.LeftmostMatches
import ScenarioRunner.Proofs.MeasuredWidth
import ScenarioRunner.Proofs.MessageStream
import ScenarioRunner.Proofs.MessagesOutput
import ScenarioRunner.Proofs.Numerals
import ScenarioRunner.Proofs.OmittedTests
import ScenarioRunner.Proofs.ParameterProposals
import ScenarioRunner.Proofs.ParameterTypes
import ScenarioRunner.Proofs.PathParts
import ScenarioRunner.Proofs.PickleLookup
import ScenarioRunner.Proofs.PickleOrigin
import ScenarioRunner.Proofs.PlaceholderCaptures
import ScenarioRunner.Proofs.PlaceholderGroups
import ScenarioRunner.Proofs.PlaceholderInsertion
import ScenarioRunner.Proofs.PlaceholderOccurrences
import ScenarioRunner.Proofs.PlaceholderTemplate
import ScenarioRunner.Proofs.Preparation
import ScenarioRunner.Proofs.ProposedDefinitions
import ScenarioRunner.Proofs.Protocol
import ScenarioRunner.Proofs.QuotedForm
import ScenarioRunner.Proofs.QuotedText
import ScenarioRunner.Proofs.ReadLines
import ScenarioRunner.Proofs.RebuiltRegistry
import ScenarioRunner.Proofs.RecordedArguments
import ScenarioRunner.Proofs.RegexCaptures
import ScenarioRunner.Proofs.RegexNumbering
import ScenarioRunner.Proofs.RegexPatterns
import ScenarioRunner.Proofs.RegexWalks
import ScenarioRunner.Proofs.Renumbering
import ScenarioRunner.Proofs.RetryTags
import ScenarioRunner.Proofs.RunHistory
import ScenarioRunner.Proofs.RunSummary
import ScenarioRunner.Proofs.Session
import ScenarioRunner.Proofs.SinglePlaceholder
import ScenarioRunner.Proofs.SnippetText
import ScenarioRunner.Proofs.SnippetTokens
import ScenarioRunner.Proofs.StepCalls
import ScenarioRunner.Proofs.StepLines
import ScenarioRunner.Proofs.StepVisit
import ScenarioRunner.Proofs.SuggestionChoices
import ScenarioRunner.Proofs.SuggestionReading
import ScenarioRunner.Proofs.SuggestionUse
import ScenarioRunner.Proofs.TableLayout
import ScenarioRunner.Proofs.TagGrammar
import ScenarioRunner.Proofs.TagRoundTrip
import ScenarioRunner.Proofs.TagSpelling
import ScenarioRunner.Proofs.TakenText
import ScenarioRunner.Proofs.TemplatePatterns
import ScenarioRunner.Proofs.TestListing
import ScenarioRunner.Proofs.TestsOfPickles
import ScenarioRunner.Proofs.TextReplacement
import ScenarioRunner.Proofs.TransposedTables
import ScenarioRunner.Proofs.UsageTable
import ScenarioRunner.Proofs.WordScan
import ScenarioRunner.Proofs.WordSearch
import ScenarioRunner.Proofs.WordSpans
import ScenarioRunner.Regex.Basic
import ScenarioRunner.Regex.Bracket
import ScenarioRunner.Regex.CharClass
import ScenarioRunner.Regex.Escape
import ScenarioRunner.Regex.Flags
import ScenarioRunner.Regex.Match
import ScenarioRunner.Regex.Node
import ScenarioRunner.Regex.Reader
import ScenarioRunner.Registry.Basic
import ScenarioRunner.Registry.Builder
import ScenarioRunner.Registry.Definition
import ScenarioRunner.Step.Argument
import ScenarioRunner.Step.Body
import ScenarioRunner.Step.DataTable
import ScenarioRunner.Step.Site
import ScenarioRunner.Tag.Expression
import ScenarioRunner.Tag.Parser
import ScenarioRunner.Tag.Printer
import ScenarioRunner.Tag.Token
import ScenarioRunner.Test.Attempt
import ScenarioRunner.Test.Missing
import ScenarioRunner.Test.Options
import ScenarioRunner.Test.Runner
import ScenarioRunner.Test.Suite
import ScenarioRunner.Text.Base64
import ScenarioRunner.Text.Blank
import ScenarioRunner.Text.Case
import ScenarioRunner.Text.Category
import ScenarioRunner.Text.CodeRanges
import ScenarioRunner.Text.Lines
import ScenarioRunner.Text.Property
import ScenarioRunner.Text.Quoted
import ScenarioRunner.Text.Script
import ScenarioRunner.Text.Search
