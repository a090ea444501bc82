import Chatbot.Unicode.Packed
import Chatbot.Unicode.Category
import Chatbot.Unicode.Script
import Chatbot.Unicode.Binary
import Chatbot.Unicode.Segment
import Chatbot.Unicode.Names
import Chatbot.Unicode.Width
import Chatbot.Text.Classes
import Chatbot.Text.Blank
import Chatbot.Text.Quoted
import Chatbot.Text.Decimal
import Chatbot.Access
import Chatbot.Text.CaseFold
import Chatbot.Settings
import Chatbot.Context
import Chatbot.Template.Placeholder
import Chatbot.Command
import Chatbot.Registry
import Chatbot.Words.Graph
import Chatbot.Words.Random
import Chatbot.Words.Generate
import Chatbot.Template.Reference
import Chatbot.Pattern.CharSet
import Chatbot.Pattern.Expr
import Chatbot.Pattern.Report
import Chatbot.Pattern.Property
import Chatbot.Pattern.Intervals
import Chatbot.Pattern.Form
import Chatbot.Pattern.Parse
import Chatbot.Pattern.Utf8
import Chatbot.Pattern.Budget
import Chatbot.Pattern.Compile
import Chatbot.Words.Chain
import Chatbot.Engine.Bot
import Chatbot.Builtin.Manage
import Chatbot.Builtin.WordCommands
import Chatbot.Builtin.Catalog
import Chatbot.Double
import Chatbot.Shell.Capture
import Chatbot.Shell.Syntax
import Chatbot.Shell.Parse
import Chatbot.Shell.Arith
import Chatbot.Shell.Floating
import Chatbot.Shell.Format
import Chatbot.Shell.Tools
import Chatbot.Shell.Glob
import Chatbot.Shell.Host
import Chatbot.Shell.Condition
import Chatbot.Shell.Signal
import Chatbot.Shell.Posix
import Chatbot.Shell.Pathname
import Chatbot.Shell.StreamEdit
import Chatbot.Shell.Search
import Chatbot.Shell.Layout
import Chatbot.Shell.Base64
import Chatbot.Shell.Expression
import Chatbot.Shell.Sorting
import Chatbot.Shell.Fields
import Chatbot.Shell.Files
import Chatbot.Shell.Extended
import Chatbot.Shell.Sequence
import Chatbot.Shell.Digest
import Chatbot.Shell.Dump
import Chatbot.Shell.Factor
import Chatbot.Shell.Tabs
import Chatbot.Shell.Fill
import Chatbot.Shell.Merge
import Chatbot.Shell.Precedence
import Chatbot.Shell.FormatTool
import Chatbot.Shell.Launch
import Chatbot.Awk.Number
import Chatbot.Awk.Value
import Chatbot.Awk.Syntax
import Chatbot.Awk.Lexer
import Chatbot.Awk.Parser
import Chatbot.Awk.Machine
import Chatbot.Awk.Tool
import Chatbot.Perl.Value
import Chatbot.Perl.Syntax
import Chatbot.Perl.Quote
import Chatbot.Perl.Pattern
import Chatbot.Perl.Parser
import Chatbot.Perl.Strings
import Chatbot.Perl.Heap
import Chatbot.Perl.Machine
import Chatbot.Perl.Tool
import Chatbot.Shell.Interp
import Chatbot.Engine.Run
import Chatbot.Engine.ShellRunner
import Chatbot.Json.Value
import Chatbot.Json.Text
import Chatbot.Json.Read
import Chatbot.Words.Snapshot
import Chatbot.Record
import Chatbot.Engine.Dump
import Chatbot.Console.EnvFile
import Chatbot.Console.Session
import Chatbot.Main
import Chatbot.Proofs.ReferenceReading
import Chatbot.Proofs.RunLogic
import Chatbot.Proofs.SafeExpansion
import Chatbot.Proofs.NestingDepth
import Chatbot.Proofs.WordCounts
import Chatbot.Proofs.WordGraphConsistency
import Chatbot.Proofs.WordGraphRuns
import Chatbot.Proofs.RegistryNames
import Chatbot.Proofs.SnapshotRoundTrip
import Chatbot.Proofs.RecordRoundTrip
import Chatbot.Proofs.RunEffects
import Chatbot.Proofs.BuiltinsKept
import Chatbot.Proofs.SilentRuns
import Chatbot.Proofs.WordCollection
import Chatbot.Proofs.WordGeneration
import Chatbot.Proofs.CommandWordKept
import Chatbot.Proofs.WordDeletion
import Chatbot.Proofs.BuiltinFailures
import Chatbot.Proofs.WordLearning
import Chatbot.Proofs.PlaceholderMatching
import Chatbot.Proofs.CappedOutput
import Chatbot.Proofs.WeightedPick
import Chatbot.Proofs.TotalsCheck
import Chatbot.Proofs.SettingsReading
